import MailExchange.Proofs.Wire.Link

namespace MailExchange.Wire

open Text (Bytes)

/-- An end that has written these lines. -/
structure Wrote (before : Endpoint) (lines : List String) (after : Endpoint) : Prop where
  sent : after.sent = before.sent ++ before.outbound.wires lines
  outbound : after.outbound = before.outbound.afterAll lines

namespace Wrote

variable {before middle after : Endpoint} {first second : List String}

theorem nothing (endpoint : Endpoint) : Wrote endpoint [] endpoint :=
  ⟨(List.append_nil _).symm, rfl⟩

theorem line (endpoint : Endpoint) (line : String) : Wrote endpoint [line] (endpoint.wrote line) :=
  ⟨rfl, Endpoint.wrote_outbound endpoint line⟩

theorem took (endpoint : Endpoint) (line : String) : Wrote endpoint [] (endpoint.took line) :=
  ⟨(List.append_nil _).symm, endpoint.took_outbound line⟩

theorem lines (endpoint : Endpoint) (lines : List String) :
    Wrote endpoint lines (endpoint.wroteAll lines) :=
  ⟨endpoint.wroteAll_sent lines, endpoint.wroteAll_outbound lines⟩

theorem append (wrote : Wrote before first middle) (more : Wrote middle second after) :
    Wrote before (first ++ second) after := by
  constructor
  · rw [more.sent, wrote.sent, wrote.outbound, Lane.wires_append, List.append_assoc]
  · rw [more.outbound, wrote.outbound, Lane.afterAll_append]

theorem isEncrypted (wrote : Wrote before first after) : after.isEncrypted = before.isEncrypted := by
  rw [← Endpoint.outbound_isSome, wrote.outbound, Lane.afterAll_isSome, Endpoint.outbound_isSome]

theorem clear (wrote : Wrote before first after) (clear : before.cipher = none) :
    after.cipher = none := by
  apply Endpoint.cipher_none
  rw [wrote.isEncrypted, Endpoint.isEncrypted, clear, Option.isSome_none]

end Wrote

theorem Endpoint.decode_wrote (endpoint : Endpoint) (frame : Option Frame) :
    Wrote endpoint [] (endpoint.decode frame).2 := by
  have same {after : Endpoint} (sent : after.sent = endpoint.sent)
      (outbound : after.outbound = endpoint.outbound) : Wrote endpoint [] after :=
    ⟨by rw [sent, Lane.wires, List.append_nil], by rw [outbound]; rfl⟩
  have text (line : String) : (endpoint.decodeText line).2.sent = endpoint.sent ∧
      (endpoint.decodeText line).2.outbound = endpoint.outbound := by
    rcases endpoint with ⟨label, cipher, sent, heard⟩
    cases cipher with
    | none => exact ⟨rfl, rfl⟩
    | some cipher =>
        refine ⟨rfl, ?_⟩
        simp only [decodeText, outbound, Option.map_some, Cipher.decrypt]
        split <;> rfl
  cases frame with
  | none => exact Wrote.nothing endpoint
  | some frame =>
      cases frame with
      | overlong => exact Wrote.nothing endpoint
      | line bytes =>
          cases read : Text.ofUtf8? (withoutCr bytes) with
          | none =>
              simp only [decode, read]
              exact Wrote.nothing endpoint
          | some line =>
              obtain ⟨sent, outbound⟩ := text line
              rcases decoded : endpoint.decodeText line with ⟨result, after⟩
              rw [decoded] at sent outbound
              simp only [decode, read, decoded]
              cases result with
              | ok line => exact same sent outbound
              | error error => exact same sent outbound

def writable (lines : List String) : List String :=
  lines.takeWhile fun line => !Text.hasChar '\n' line

theorem writable_cons {line : String} (one_line : '\n' ∉ line.toList) (lines : List String) :
    writable (line :: lines) = line :: writable lines := by
  have plain : Text.hasChar '\n' line = false :=
    eq_false_of_ne_true fun broken => one_line (Text.hasChar_iff.mp broken)
  rw [writable, List.takeWhile_cons_of_pos (by rw [plain]; rfl), writable]

theorem writable_broken {line : String} (broken : '\n' ∈ line.toList) (lines : List String) :
    writable (line :: lines) = [] := by
  rw [writable, List.takeWhile_cons_of_neg (by rw [Text.hasChar_iff.mpr broken]; decide)]

theorem writable_plain {lines : List String} (one_line : ∀ line ∈ lines, '\n' ∉ line.toList) :
    writable lines = lines := by
  induction lines with
  | nil => rfl
  | cons line lines ih =>
      rw [writable_cons (one_line line List.mem_cons_self),
        ih fun other member => one_line other (List.mem_cons_of_mem line member)]

theorem writable_one_line {line : String} {lines : List String} (member : line ∈ writable lines) :
    '\n' ∉ line.toList := by
  intro broken
  have plain := List.all_eq_true.mp List.all_takeWhile line member
  rw [Text.hasChar_iff.mpr broken] at plain
  cases plain

theorem Endpoint.writeAll_writable (endpoint : Endpoint) (lines : List String) :
    (endpoint.writeAll lines).2 = endpoint.wroteAll (writable lines) := by
  induction lines generalizing endpoint with
  | nil => rfl
  | cons line lines ih =>
      by_cases broken : '\n' ∈ line.toList
      · have refused : endpoint.write line = (.error .lineBreakInLine, endpoint) := by
          rw [write, endpoint.encode_broken broken]
        rw [writable_broken broken, writeAll, refused]
        rfl
      · rw [writable_cons broken, writeAll, endpoint.write_wrote broken]
        exact ih (endpoint.wrote line)

def oneLine (line : String) : List String := if '\n' ∈ line.toList then [] else [line]

section Channels

variable {π : Type} [Peer π]

theorem Channel.receive_wrote (channel : Channel π) :
    Wrote channel.endpoint [] channel.receive.2.endpoint := by
  rw [receive]
  split
  · exact Wrote.nothing _
  · exact channel.endpoint.decode_wrote _

theorem Channel.send_broken (channel : Channel π) {line : String} (broken : '\n' ∈ line.toList) :
    channel.send line = (.error .lineBreakInLine, channel) := by
  simp only [send, channel.endpoint.encode_broken broken]

theorem Channel.send_endpoint (channel : Channel π) {line : String}
    (one_line : '\n' ∉ line.toList) :
    (channel.send line).2.endpoint = channel.endpoint.wrote line := by
  rcases heard : Peer.hear channel.peer (lineBytes (channel.endpoint.outbound.wire line)) with
    ⟨result, peer⟩
  simp only [send, Endpoint.encode_wrote channel.endpoint one_line, heard]
  cases result with
  | ok more => rfl
  | error error => rfl

theorem Channel.send_wrote (channel : Channel π) (line : String) :
    Wrote channel.endpoint (oneLine line) (channel.send line).2.endpoint := by
  by_cases broken : '\n' ∈ line.toList
  · rw [oneLine, if_pos broken, channel.send_broken broken]
    exact Wrote.nothing _
  · rw [oneLine, if_neg broken, channel.send_endpoint broken]
    exact Wrote.line _ _

end Channels

namespace Talk

variable {π α β : Type}

/-- A computation that writes these lines, whatever comes of it. -/
def Writes (talk : Talk π α) (lines : List String) : Prop :=
  ∀ channel, Wrote channel.endpoint lines (talk.run channel).2.endpoint

theorem writes_pure (value : α) : (pure value : Talk π α).Writes [] :=
  fun channel => Wrote.nothing channel.endpoint

theorem writes_ofExcept (result : Except Error α) : (ofExcept result : Talk π α).Writes [] :=
  fun channel => Wrote.nothing channel.endpoint

theorem writes_throw (error : Error) : (throw error : Talk π α).Writes [] :=
  fun channel => Wrote.nothing channel.endpoint

theorem Writes.bind {talk : Talk π α} {next : α → Talk π β} {lines : List String}
    (writes : talk.Writes lines) (reads : ∀ value, (next value).Writes []) :
    (talk >>= next).Writes lines := by
  intro channel
  have wrote := writes channel
  rcases ran : talk.run channel with ⟨result, middle⟩
  rw [ran] at wrote
  cases result with
  | error error =>
      rw [run_error ran]
      exact wrote
  | ok value =>
      rw [run_ok ran]
      have whole := wrote.append (reads value middle)
      rw [List.append_nil] at whole
      exact whole

variable [Peer π]

theorem writes_readLine : (readLine : Talk π String).Writes [] :=
  fun channel => channel.receive_wrote

theorem writes_writeLine (line : String) : (writeLine line : Talk π Unit).Writes (oneLine line) :=
  fun channel => channel.send_wrote line

theorem writes_request (line : String) : (request line : Talk π String).Writes (oneLine line) :=
  (writes_writeLine line).bind fun _ => writes_readLine

end Talk

namespace Endpoint

def exchanged (endpoint : Endpoint) (exchanges : List (String × String)) : Endpoint :=
  exchanges.foldl (fun endpoint exchange => (endpoint.wrote exchange.1).took exchange.2) endpoint

theorem exchanged_append (endpoint : Endpoint) (first second : List (String × String)) :
    endpoint.exchanged (first ++ second) = (endpoint.exchanged first).exchanged second :=
  List.foldl_append

theorem exchanged_heard (endpoint : Endpoint) (exchanges : List (String × String)) :
    (endpoint.exchanged exchanges).heard = endpoint.heard ++ exchanges.map Prod.snd := by
  induction exchanges generalizing endpoint with
  | nil => exact (List.append_nil _).symm
  | cons exchange exchanges ih =>
      calc (endpoint.exchanged (exchange :: exchanges)).heard
        _ = endpoint.heard ++ [exchange.2] ++ exchanges.map Prod.snd := ih _
        _ = endpoint.heard ++ (exchange :: exchanges).map Prod.snd := by
            rw [List.append_assoc]
            rfl

theorem exchanged_sent {endpoint : Endpoint} (clear : endpoint.cipher = none)
    (exchanges : List (String × String)) :
    (endpoint.exchanged exchanges).sent = endpoint.sent ++ exchanges.map Prod.fst := by
  induction exchanges generalizing endpoint with
  | nil => exact (List.append_nil _).symm
  | cons exchange exchanges ih =>
      have still_clear : ((endpoint.wrote exchange.1).took exchange.2).cipher = none := by
        rw [took, wrote, clear]
        rfl
      have said : ((endpoint.wrote exchange.1).took exchange.2).sent =
          endpoint.sent ++ [exchange.1] := by
        rw [took_sent, wrote_in_clear clear]
      calc (endpoint.exchanged (exchange :: exchanges)).sent
        _ = endpoint.sent ++ [exchange.1] ++ exchanges.map Prod.fst := by
            rw [← said]
            exact ih still_clear
        _ = endpoint.sent ++ (exchange :: exchanges).map Prod.fst := by
            rw [List.append_assoc]
            rfl

end Endpoint

section Conversing

variable {π α β : Type} {channel after : Channel π}

theorem Talk.bind_ok {talk : Talk π α} {next : α → Talk π β} {result : β}
    (done : (talk >>= next).run channel = (.ok result, after)) :
    ∃ value middle, talk.run channel = (.ok value, middle) ∧
      (next value).run middle = (.ok result, after) := by
  rcases first : talk.run channel with ⟨outcome, middle⟩
  cases outcome with
  | error error =>
      rw [run_error first] at done
      cases done
  | ok value =>
      rw [run_ok first] at done
      exact ⟨value, middle, rfl, done⟩

variable [Peer π]

theorem Channel.receive_took {line : String} (received : channel.receive = (.ok line, after)) :
    after.endpoint = channel.endpoint.took line := by
  rw [receive] at received
  split at received
  · cases received
  · rename_i frame unread _
    rcases decoded : channel.endpoint.decode (some frame) with ⟨result, endpoint⟩
    rw [decoded] at received
    cases received
    exact Endpoint.decode_took decoded

theorem Channel.send_written {line : String} (sent : channel.send line = (.ok (), after)) :
    after.endpoint = channel.endpoint.wrote line := by
  by_cases broken : '\n' ∈ line.toList
  · rw [send, Endpoint.encode_broken channel.endpoint broken] at sent
    cases sent
  · rw [← channel.send_endpoint broken, sent]

theorem Talk.request_exchanged {line reply : String}
    (asked : (Talk.request line).run channel = (.ok reply, after)) :
    after.endpoint = channel.endpoint.exchanged [(line, reply)] := by
  obtain ⟨_, middle, written, read⟩ := Talk.bind_ok asked
  rw [Channel.receive_took read, Channel.send_written written]
  rfl

end Conversing

end MailExchange.Wire
