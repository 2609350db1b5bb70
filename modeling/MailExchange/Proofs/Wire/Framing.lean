import MailExchange.Proofs.Wire.Writing

namespace MailExchange.Wire

open Text (Bytes)

/-- A line as it is read: in clear, one CR at its end is lost. -/
def arrival (secure : Bool) (line : String) : String := if secure then line else chomp line

theorem arrival_plain {secure : Bool} {line : String}
    (plain : secure = false → line.toList.getLast? ≠ some '\r') : arrival secure line = line := by
  cases secure with
  | true => rfl
  | false => exact chomp_plain (plain rfl)

theorem arrival_free {secure : Bool} {line : String} (free : '\r' ∉ line.toList) :
    arrival secure line = line :=
  arrival_plain fun _ last => free (List.mem_of_getLast? last)

theorem arrival_start {start : String} (plain : start.toList.getLast? ≠ some '\r') (secure : Bool)
    (line : String) : arrival secure (start ++ line) = start ++ arrival secure line := by
  cases secure with
  | true => rfl
  | false => exact chomp_append plain line

theorem chomp_cr (start : String) : chomp (start ++ "\r") = start := by
  have chars : (start ++ "\r").toList = start.toList ++ ['\r'] := String.toList_append
  rw [chomp, if_pos (by rw [chars, List.getLast?_concat]), chars, List.dropLast_concat,
    String.ofList_toList]

namespace Lane

variable {lane : Lane} {line : String}

theorem wire_one_line (lane : Lane) (one_line : '\n' ∉ line.toList) :
    '\n' ∉ (lane.wire line).toList := by
  cases lane with
  | none => exact one_line
  | some stream => exact Base64.encode_free _ (by decide) (by decide)

theorem wire_fits (one_line : '\n' ∉ line.toList) (short : wireSize lane.isSome line ≤ maxLine) :
    Fits (lane.wire line) := by
  refine ⟨lane.wire_one_line one_line, ?_⟩
  rw [wire_size]
  exact short

/-- Encryption leaves no CR at the end of what is on the wire. -/
theorem chomp_wire (lane : Lane) (line : String) :
    chomp (lane.wire line) = lane.wire (arrival lane.isSome line) := by
  cases lane with
  | none => rfl
  | some stream => exact chomp_free (Base64.encode_free _ (by decide) (by decide))

theorem after_arrival (lane : Lane) (line : String) :
    lane.after (arrival lane.isSome line) = lane.after line := by
  cases lane with
  | none => rfl
  | some stream => rfl

end Lane

theorem Endpoint.decode_arrival (endpoint : Endpoint) (line : String) :
    endpoint.decode (some (.line (Text.utf8 (endpoint.inbound.wire line)))) =
      (.ok (arrival endpoint.isEncrypted line),
        endpoint.took (arrival endpoint.isEncrypted line)) := by
  have text : Text.ofUtf8? (withoutCr (Text.utf8 (endpoint.inbound.wire line))) =
      some (endpoint.inbound.wire (arrival endpoint.isEncrypted line)) := by
    rw [withoutCr_utf8, Lane.chomp_wire, Text.ofUtf8_utf8, inbound_isSome]
  simp only [decode, text, decodeText_wire]
  rfl

namespace Channel

variable {π : Type} [Peer π] {line : String} {rest : Bytes}

theorem receive_arrival (channel : Channel π) (fits : Fits (channel.endpoint.inbound.wire line))
    (unread : channel.unread = lineBytes (channel.endpoint.inbound.wire line) ++ rest) :
    channel.receive = (.ok (arrival channel.endpoint.isEncrypted line),
      ⟨channel.endpoint.took (arrival channel.endpoint.isEncrypted line), rest, channel.peer⟩) := by
  simp only [receive, unread, takeFrame_fits fits, Endpoint.decode_arrival]

theorem receive_long (channel : Channel π) (one_line : '\n' ∉ line.toList)
    (long : maxLine < wireSize channel.endpoint.isEncrypted line)
    (unread : channel.unread = lineBytes (channel.endpoint.inbound.wire line) ++ rest) :
    channel.receive = (.error .lineTooLong,
      { channel with unread := channel.unread.drop maxLine }) := by
  have cut := takeFrame_long (channel.endpoint.inbound.wire_one_line one_line)
    (by rw [Lane.wire_size, Endpoint.inbound_isSome]; exact long) rest
  simp only [receive, unread, cut, Endpoint.decode]

end Channel

namespace Talk

variable {π α : Type}

def each : List (Talk π α) → Channel π → List (Except Error α) × Channel π
  | [], channel => ([], channel)
  | talk :: talks, channel =>
    let (result, middle) := talk.run channel
    let (results, after) := each talks middle
    (result :: results, after)

theorem each_append (first second : List (Talk π α)) (channel : Channel π) :
    each (first ++ second) channel =
      ((each first channel).1 ++ (each second (each first channel).2).1,
        (each second (each first channel).2).2) := by
  induction first generalizing channel with
  | nil => rfl
  | cons talk first ih =>
      rcases ran : talk.run channel with ⟨result, middle⟩
      simp only [List.cons_append, each, ran, ih]

end Talk

section Reading

/-- As many lines as one asks for, read one after the other from these bytes and no more. -/
def Endpoint.reads (endpoint : Endpoint) (input : Bytes) (count : Nat) :
    List (Except Error String) × Channel Silent :=
  Talk.each (List.replicate count Talk.readLine) ⟨endpoint, input, {}⟩

variable {endpoint : Endpoint} {lines : List String}

theorem Endpoint.reads_add (endpoint : Endpoint) (input : Bytes) (first second : Nat) :
    endpoint.reads input (first + second) =
      let (results, middle) := endpoint.reads input first
      let (more, after) := middle.endpoint.reads middle.unread second
      (results ++ more, after) := by
  rw [reads, ← List.replicate_append_replicate, Talk.each_append]
  rfl

theorem Endpoint.reads_nothing (endpoint : Endpoint) (count : Nat) :
    endpoint.reads [] count =
      (List.replicate count (.error .unexpectedEof), ⟨endpoint, [], {}⟩) := by
  induction count with
  | zero => rfl
  | succ count ih =>
      have read : Talk.readLine.run (⟨endpoint, [], {}⟩ : Channel Silent) =
        (.error .unexpectedEof, ⟨endpoint, [], {}⟩) := rfl
      rw [reads, List.replicate_succ, Talk.each, read]
      change (_ :: (endpoint.reads [] count).1, (endpoint.reads [] count).2) = _
      rw [ih, List.replicate_succ]

theorem Endpoint.reads_lines (one_line : ∀ line ∈ lines, '\n' ∉ line.toList)
    (short : ∀ line ∈ lines, wireSize endpoint.isEncrypted line ≤ maxLine) (rest : Bytes) :
    ∃ beyond, endpoint.reads ((endpoint.inbound.wires lines).flatMap lineBytes ++ rest)
        lines.length =
      (lines.map fun line => .ok (arrival endpoint.isEncrypted line), ⟨beyond, rest, {}⟩) ∧
      beyond.inbound = endpoint.inbound.afterAll lines := by
  induction lines generalizing endpoint with
  | nil => exact ⟨endpoint, rfl, rfl⟩
  | cons line lines ih =>
      let next := endpoint.took (arrival endpoint.isEncrypted line)
      have secure : next.isEncrypted = endpoint.isEncrypted := endpoint.took_isEncrypted _
      have lane : next.inbound = endpoint.inbound.after line := by
        rw [Endpoint.took_inbound, ← Endpoint.inbound_isSome, Lane.after_arrival]
      obtain ⟨beyond, read, stands⟩ := @ih next
        (fun other member => one_line other (List.mem_cons_of_mem line member))
        (fun other member => by
          rw [secure]
          exact short other (List.mem_cons_of_mem line member))
      rw [lane, secure] at read
      rw [lane] at stands
      have fits : Fits (endpoint.inbound.wire line) :=
        Lane.wire_fits (one_line line List.mem_cons_self) (by
          rw [Endpoint.inbound_isSome]
          exact short line List.mem_cons_self)
      have unread : (endpoint.inbound.wires (line :: lines)).flatMap lineBytes ++ rest =
          lineBytes (endpoint.inbound.wire line) ++
            (((endpoint.inbound.after line).wires lines).flatMap lineBytes ++ rest) := by
        rw [Lane.wires, List.flatMap_cons, List.append_assoc]
      have first := Channel.receive_arrival ⟨endpoint, _, Silent.mk⟩ fits unread
      refine ⟨beyond, ?_, stands⟩
      rw [reads, List.length_cons, List.replicate_succ, Talk.each, Talk.run_readLine, first]
      change (_ :: (next.reads _ lines.length).1, (next.reads _ lines.length).2) = _
      rw [read, List.map_cons]

end Reading

inductive Writing where
  | line (text : String)
  | lines (texts : List String)

namespace Writing

def asked : Writing → List String
  | .line text => [text]
  | .lines texts => texts

/-- What is written of it: the lines before the first that is none. -/
def written (writing : Writing) : List String := writable writing.asked

def all (calls : List Writing) : List String := calls.flatMap written

theorem all_cons (call : Writing) (calls : List Writing) :
    all (call :: calls) = call.written ++ all calls := List.flatMap_cons

def outcome (writing : Writing) : Except Error Unit :=
  if ∀ line ∈ writing.asked, '\n' ∉ line.toList then .ok () else .error .lineBreakInLine

def talk {π : Type} [Peer π] : Writing → Talk π Unit
  | .line text => Talk.writeLine text
  | .lines texts => Talk.writeLines texts

end Writing

structure Tape where
  bytes : Bytes := []

instance : Peer Tape where
  hear tape bytes := (.ok [], ⟨tape.bytes ++ bytes⟩)

section WritingLines

variable {π : Type} [Peer π]

theorem Talk.writeLines_cons (line : String) (lines : List String) :
    (Talk.writeLines (line :: lines) : Talk π Unit) =
      Talk.writeLine line >>= fun _ => Talk.writeLines lines := rfl

theorem Talk.writeLines_broken (before : List String) {broken : String}
    (line_break : '\n' ∈ broken.toList) (after : List String) (channel : Channel π) :
    (Talk.writeLines (before ++ broken :: after)).run channel =
      (Talk.writeLines before >>= fun _ => throw .lineBreakInLine).run channel := by
  induction before generalizing channel with
  | nil =>
      have refused : (Talk.writeLine broken).run channel = _ := channel.send_broken line_break
      rw [List.nil_append, Talk.writeLines_cons, Talk.run_error refused]
      rfl
  | cons line before ih =>
      rw [List.cons_append, Talk.writeLines_cons, Talk.writeLines_cons, bind_assoc]
      rcases sent : (Talk.writeLine line).run channel with ⟨result, middle⟩
      cases result with
      | ok value =>
          rw [Talk.run_ok sent, Talk.run_ok sent]
          exact ih middle
      | error error => rw [Talk.run_error sent, Talk.run_error sent]

end WritingLines

def Endpoint.onTape (endpoint : Endpoint) (bytes : Bytes) : Channel Tape := ⟨endpoint, [], ⟨bytes⟩⟩

def Endpoint.writes (endpoint : Endpoint) (calls : List Writing) :
    List (Except Error Unit) × Channel Tape :=
  Talk.each (calls.map Writing.talk) (endpoint.onTape [])

section Taping

variable {endpoint : Endpoint} {bytes : Bytes}

theorem Channel.send_tape {line : String} (one_line : '\n' ∉ line.toList) :
    (endpoint.onTape bytes).send line = (.ok (), (endpoint.wrote line).onTape
      (bytes ++ lineBytes (endpoint.outbound.wire line))) := by
  simp only [send, Endpoint.onTape, Endpoint.encode_wrote endpoint one_line, Peer.hear,
    List.append_nil]

theorem Writing.outcome_lines (lines : List String) :
    (Writing.lines lines).outcome =
      if ∀ line ∈ lines, '\n' ∉ line.toList then .ok () else .error .lineBreakInLine := rfl

theorem Talk.writeLines_tape (lines : List String) (endpoint : Endpoint) (bytes : Bytes) :
    (Talk.writeLines lines).run (endpoint.onTape bytes) =
      ((Writing.lines lines).outcome, (endpoint.wroteAll (writable lines)).onTape
        (bytes ++ (endpoint.outbound.wires (writable lines)).flatMap lineBytes)) := by
  induction lines generalizing endpoint bytes with
  | nil => exact congrArg (fun kept => (_, endpoint.onTape kept)) (List.append_nil bytes).symm
  | cons line lines ih =>
      by_cases broken : '\n' ∈ line.toList
      · have refused : (Talk.writeLine line).run (endpoint.onTape bytes) = _ :=
          (endpoint.onTape bytes).send_broken broken
        rw [Talk.writeLines_cons, Talk.run_error refused, writable_broken broken,
          Writing.outcome_lines, if_neg fun all => all line List.mem_cons_self broken]
        exact congrArg (fun kept => (_, endpoint.onTape kept)) (List.append_nil bytes).symm
      · have sent : (Talk.writeLine line).run (endpoint.onTape bytes) = _ :=
          Channel.send_tape broken
        rw [Talk.writeLines_cons, Talk.run_ok sent, ih, writable_cons broken, Lane.wires,
          List.flatMap_cons, ← List.append_assoc, Endpoint.wrote_outbound]
        simp only [Writing.outcome_lines, List.forall_mem_cons, broken, not_false_eq_true, true_and]
        rfl

theorem Writing.talk_tape (call : Writing) (endpoint : Endpoint) (bytes : Bytes) :
    call.talk.run (endpoint.onTape bytes) =
      (call.outcome, (endpoint.wroteAll call.written).onTape
        (bytes ++ (endpoint.outbound.wires call.written).flatMap lineBytes)) := by
  cases call with
  | lines texts => exact Talk.writeLines_tape texts endpoint bytes
  | line text =>
      have alone : (Talk.writeLine text : Talk Tape Unit) = Talk.writeLines [text] := by
        rw [Talk.writeLines_cons]
        exact (bind_pure_unit).symm
      rw [talk, alone]
      exact Talk.writeLines_tape [text] endpoint bytes

theorem Writing.each_tape (calls : List Writing) (endpoint : Endpoint) (bytes : Bytes) :
    Talk.each (calls.map Writing.talk) (endpoint.onTape bytes) =
      (calls.map Writing.outcome, (endpoint.wroteAll (Writing.all calls)).onTape
        (bytes ++ (endpoint.outbound.wires (Writing.all calls)).flatMap lineBytes)) := by
  induction calls generalizing endpoint bytes with
  | nil => exact congrArg (fun kept => (_, endpoint.onTape kept)) (List.append_nil bytes).symm
  | cons call calls ih =>
      rw [List.map_cons, Talk.each, talk_tape]
      simp only [ih, List.map_cons, all_cons, Endpoint.wroteAll_outbound, Lane.wires_append,
        List.flatMap_append, List.append_assoc]
      rw [Endpoint.wroteAll, Endpoint.wroteAll, Endpoint.wroteAll, ← List.foldl_append]

end Taping

section RoundTrip

variable {near far : Endpoint} {lines : List String}

def Endpoint.output (endpoint : Endpoint) (calls : List Writing) : Bytes :=
  (endpoint.writes calls).2.peer.bytes

theorem Writing.all_one_line (calls : List Writing) :
    ∀ line ∈ Writing.all calls, '\n' ∉ line.toList := by
  intro line member
  obtain ⟨call, _, written⟩ := List.mem_flatMap.mp member
  exact writable_one_line written

theorem Writing.all_plain {calls : List Writing}
    (one_line : ∀ call ∈ calls, ∀ line ∈ call.asked, '\n' ∉ line.toList) :
    Writing.all calls = calls.flatMap Writing.asked ∧
      calls.map Writing.outcome = calls.map fun _ => .ok () := by
  constructor
  · have same : calls.map Writing.written = calls.map Writing.asked :=
      List.map_congr_left fun call member => writable_plain (one_line call member)
    rw [Writing.all, List.flatMap_def, List.flatMap_def, same]
  · exact List.map_congr_left fun call member => if_pos (one_line call member)

theorem Endpoint.writes_all (endpoint : Endpoint) (calls : List Writing) :
    endpoint.writes calls = (calls.map Writing.outcome,
      (endpoint.wroteAll (Writing.all calls)).onTape
        ((endpoint.outbound.wires (Writing.all calls)).flatMap lineBytes)) := by
  rw [writes, Writing.each_tape, List.nil_append]

theorem Endpoint.output_all (endpoint : Endpoint) (calls : List Writing) :
    endpoint.output calls = (endpoint.outbound.wires (Writing.all calls)).flatMap lineBytes := by
  rw [output, writes_all]
  rfl

theorem reads_all (mirrored : far.inbound = near.outbound)
    (one_line : ∀ line ∈ lines, '\n' ∉ line.toList)
    (short : ∀ line ∈ lines, wireSize near.isEncrypted line ≤ maxLine) (more : Nat) :
    (far.reads ((near.outbound.wires lines).flatMap lineBytes) (lines.length + more)).1 =
      (lines.map fun line => .ok (arrival near.isEncrypted line)) ++
        List.replicate more (.error .unexpectedEof) := by
  have secure : far.isEncrypted = near.isEncrypted := by
    rw [← Endpoint.inbound_isSome, mirrored, Endpoint.outbound_isSome]
  rw [← secure] at short ⊢
  obtain ⟨beyond, read, _⟩ := Endpoint.reads_lines one_line short []
  rw [List.append_nil, mirrored] at read
  rw [Endpoint.reads_add, read]
  simp only [Endpoint.reads_nothing]

/-- Reading stops at the first line that does not fit. -/
theorem reads_long (mirrored : far.inbound = near.outbound) {before after : List String}
    {long : String} (one_line : ∀ line ∈ before ++ long :: after, '\n' ∉ line.toList)
    (short : ∀ line ∈ before, wireSize near.isEncrypted line ≤ maxLine)
    (too_long : maxLine < wireSize near.isEncrypted long) :
    (far.reads ((near.outbound.wires (before ++ long :: after)).flatMap lineBytes)
        (before.length + 1)).1 =
      (before.map fun line => .ok (arrival near.isEncrypted line)) ++ [.error .lineTooLong] := by
  have secure : far.isEncrypted = near.isEncrypted := by
    rw [← Endpoint.inbound_isSome, mirrored, Endpoint.outbound_isSome]
  rw [← secure] at short too_long ⊢
  have before_one_line : ∀ line ∈ before, '\n' ∉ line.toList := fun line member =>
    one_line line (List.mem_append_left _ member)
  let rest := ((far.inbound.afterAll before).wires (long :: after)).flatMap lineBytes
  obtain ⟨beyond, read, stands⟩ := Endpoint.reads_lines before_one_line short rest
  have beyond_secure : beyond.isEncrypted = far.isEncrypted := by
    rw [← Endpoint.inbound_isSome, stands, Lane.afterAll_isSome, Endpoint.inbound_isSome]
  have unread : rest = lineBytes (beyond.inbound.wire long) ++
      ((beyond.inbound.after long).wires after).flatMap lineBytes := by
    rw [stands]
    exact List.flatMap_cons
  have stopped := Channel.receive_long ⟨beyond, rest, Silent.mk⟩
    (one_line long (List.mem_append_right _ List.mem_cons_self))
    (by rw [beyond_secure]; exact too_long) unread
  rw [← mirrored, Lane.wires_append, List.flatMap_append, Endpoint.reads_add, read]
  simp only [Endpoint.reads, List.replicate_one, Talk.each, Talk.run_readLine, stopped]

/-- Lines that one end writes, in any grouping, and the other reads. Those that fit are read one by
one, but for a CR at the end of a line in clear, and after the last nothing is left. A line that
does not fit is an error. A line with a line break in it is refused before anything of it is
written. -/
theorem written_lines_read (mirrored : far.inbound = near.outbound) (calls : List Writing) :
    (∀ (lane : Lane) line, (lineBytes (lane.wire line)).length = wireSize lane.isSome line) ∧
    ((near.writes calls).1 = calls.map Writing.outcome ∧
      (near.writes calls).2.endpoint = near.wroteAll (Writing.all calls) ∧
      near.output calls = (near.outbound.wires (Writing.all calls)).flatMap lineBytes) ∧
    ((∀ call ∈ calls, ∀ line ∈ call.asked, '\n' ∉ line.toList) →
      Writing.all calls = calls.flatMap Writing.asked ∧
        calls.map Writing.outcome = calls.map fun _ => .ok ()) ∧
    ((∀ line ∈ Writing.all calls, wireSize near.isEncrypted line ≤ maxLine) → ∀ more,
      (far.reads (near.output calls) ((Writing.all calls).length + more)).1 =
        ((Writing.all calls).map fun line => .ok (arrival near.isEncrypted line)) ++
          List.replicate more (.error .unexpectedEof)) ∧
    (∀ line, (near.isEncrypted = false → line.toList.getLast? ≠ some '\r') →
      arrival near.isEncrypted line = line) ∧
    (∀ start, arrival false (start ++ "\r") = start) ∧
    (∀ before long after, Writing.all calls = before ++ long :: after →
      (∀ line ∈ before, wireSize near.isEncrypted line ≤ maxLine) →
      maxLine < wireSize near.isEncrypted long →
      (far.reads (near.output calls) (before.length + 1)).1 =
        (before.map fun line => .ok (arrival near.isEncrypted line)) ++ [.error .lineTooLong]) ∧
    (∀ {π : Type} [Peer π] (channel : Channel π) (broken : String), '\n' ∈ broken.toList →
      (Talk.writeLine broken).run channel = (.error .lineBreakInLine, channel) ∧
      ∀ before after, (Talk.writeLines (before ++ broken :: after)).run channel =
        (Talk.writeLines before >>= fun _ => throw .lineBreakInLine).run channel) := by
  refine ⟨Lane.wire_size, ⟨?_, ?_, near.output_all calls⟩, Writing.all_plain, fun short more => ?_,
    fun line plain => arrival_plain plain, fun start => chomp_cr start,
    fun before long after cut short too_long => ?_, fun channel broken line_break => ⟨?_, ?_⟩⟩
  · rw [Endpoint.writes_all]
  · rw [Endpoint.writes_all]
    rfl
  · rw [Endpoint.output_all]
    exact reads_all mirrored (Writing.all_one_line calls) short more
  · have one_line := Writing.all_one_line calls
    rw [cut] at one_line
    rw [Endpoint.output_all, cut]
    exact reads_long mirrored one_line short too_long
  · exact channel.send_broken line_break
  · exact fun before after => Talk.writeLines_broken before line_break after channel

/-- The two ends of a secret session: the CR of the first line arrives, the line break in a later
one stops the call that it is in, and 49150 bytes are too long once they are encrypted. -/
theorem written_lines_read_secret :
    let near : Endpoint := ⟨⟨"a", none, none, true⟩, some (Cipher.start [1] [2] .initiator), [], []⟩
    let far : Endpoint := ⟨⟨"b", none, none, true⟩, some (Cipher.start [1] [2] .responder), [], []⟩
    far.inbound = near.outbound ∧
      (far.reads (near.output [.lines ["list\r", ""], .lines ["show 1", "a\nb", "c"],
        .line (Text.filler 49150)]) 4).1 =
        [.ok "list\r", .ok "", .ok "show 1", .error .lineTooLong] := by
  intro near far
  have mirrored : far.inbound = near.outbound := rfl
  have stops {long : String} (one_line : '\n' ∉ long.toList)
      (too_long : maxLine < wireSize true long) :
      (far.reads (near.output [.lines ["list\r", ""], .lines ["show 1", "a\nb", "c"],
        .line long]) 4).1 = [.ok "list\r", .ok "", .ok "show 1", .error .lineTooLong] := by
    have last : (Writing.line long).written = [long] :=
      writable_plain (List.forall_mem_singleton.mpr one_line)
    have all : Writing.all [.lines ["list\r", ""], .lines ["show 1", "a\nb", "c"], .line long] =
        ["list\r", "", "show 1"] ++ [long] := by
      rw [Writing.all, List.flatMap_cons, List.flatMap_cons, List.flatMap_singleton, last]
      rfl
    obtain ⟨_, _, _, _, _, _, stopped, _⟩ := written_lines_read mirrored
      [.lines ["list\r", ""], .lines ["show 1", "a\nb", "c"], .line long]
    exact stopped ["list\r", "", "show 1"] long [] all (by decide) too_long
  refine ⟨mirrored, stops (fun member => absurd (Text.mem_filler member) (by decide)) ?_⟩
  rw [wireSize, if_pos rfl, Text.utf8_filler]
  decide

end RoundTrip

end MailExchange.Wire
