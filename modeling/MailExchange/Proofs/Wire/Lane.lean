import MailExchange.Proofs.Crypto.CounterMode
import MailExchange.Proofs.Wire.Frame

/-!
A lane is one direction of a connection: it carries its lines in clear, or under a keystream that
runs on from line to line. An end writes to one lane and reads from another. Two ends are in step if
each reads where the other writes, and then every line that a lane can carry is read as it was
written.
-/

namespace MailExchange.Wire

open Text (Bytes)

abbrev Lane := Option Keystream

namespace Lane

def wire (lane : Lane) (line : String) : String :=
  match lane with
  | none => line
  | some stream => Base64.encode (stream.apply (Text.utf8 line)).1

def after (lane : Lane) (line : String) : Lane :=
  lane.map fun stream => (stream.apply (Text.utf8 line)).2

def wires : Lane → List String → List String
  | _, [] => []
  | lane, line :: lines => lane.wire line :: wires (lane.after line) lines

def afterAll (lane : Lane) (lines : List String) : Lane := lines.foldl after lane

@[simp] theorem after_isSome (lane : Lane) (line : String) :
    (lane.after line).isSome = lane.isSome := Option.isSome_map

@[simp] theorem afterAll_isSome (lane : Lane) (lines : List String) :
    (lane.afterAll lines).isSome = lane.isSome := by
  induction lines generalizing lane with
  | nil => rfl
  | cons line lines ih =>
      calc (lane.afterAll (line :: lines)).isSome
        _ = (lane.after line).isSome := ih (lane.after line)
        _ = lane.isSome := after_isSome lane line

theorem wires_append (lane : Lane) (first second : List String) :
    lane.wires (first ++ second) = lane.wires first ++ (lane.afterAll first).wires second := by
  induction first generalizing lane with
  | nil => rfl
  | cons line first ih => exact congrArg (lane.wire line :: ·) (ih (lane.after line))

theorem afterAll_append (lane : Lane) (first second : List String) :
    lane.afterAll (first ++ second) = (lane.afterAll first).afterAll second :=
  List.foldl_append

theorem wires_clear (lines : List String) : wires none lines = lines := by
  induction lines with
  | nil => rfl
  | cons line lines ih => exact congrArg (line :: ·) ih

end Lane

def wireSize (secure : Bool) (line : String) : Nat :=
  (if secure then 4 * (((Text.utf8 line).length + 2) / 3) else (Text.utf8 line).length) + 1

/-- A line that a lane carries as it is. -/
structure Carriable (secure : Bool) (line : String) : Prop where
  one_line : '\n' ∉ line.toList
  short : wireSize secure line ≤ maxLine
  plain : secure = false → line.toList.getLast? ≠ some '\r'

instance (secure : Bool) (line : String) : Decidable (Carriable secure line) :=
  decidable_of_iff ('\n' ∉ line.toList ∧ wireSize secure line ≤ maxLine ∧
      (secure = false → line.toList.getLast? ≠ some '\r'))
    ⟨fun ⟨one_line, short, plain⟩ => ⟨one_line, short, plain⟩,
      fun carriable => ⟨carriable.one_line, carriable.short, carriable.plain⟩⟩

section Carrying

variable {lane : Lane} {line : String}

theorem Lane.wire_size (lane : Lane) (line : String) :
    (lineBytes (lane.wire line)).length = wireSize lane.isSome line := by
  rw [lineBytes_length]
  cases lane with
  | none => rfl
  | some stream =>
      rw [wire, Base64.encode_size, Keystream.apply_length]
      rfl

theorem Carriable.fits (carriable : Carriable lane.isSome line) : Fits (lane.wire line) := by
  refine ⟨?_, ?_⟩
  · cases lane with
    | none => exact carriable.one_line
    | some stream => exact Base64.encode_free _ (by decide) (by decide)
  · rw [Lane.wire_size]
    exact carriable.short

theorem Carriable.chomp_wire (carriable : Carriable lane.isSome line) :
    chomp (lane.wire line) = lane.wire line := by
  cases lane with
  | none => exact chomp_plain (carriable.plain rfl)
  | some stream => exact chomp_free (Base64.encode_free _ (by decide) (by decide))

end Carrying

namespace Endpoint

def outbound (endpoint : Endpoint) : Lane := endpoint.cipher.map (·.outgoing)

def inbound (endpoint : Endpoint) : Lane := endpoint.cipher.map (·.incoming)

def wrote (endpoint : Endpoint) (line : String) : Endpoint :=
  { endpoint with
    cipher := endpoint.cipher.map fun cipher =>
      { cipher with outgoing := (cipher.outgoing.apply (Text.utf8 line)).2 }
    sent := endpoint.sent ++ [endpoint.outbound.wire line] }

def took (endpoint : Endpoint) (line : String) : Endpoint :=
  { endpoint with
    cipher := endpoint.cipher.map fun cipher =>
      { cipher with incoming := (cipher.incoming.apply (Text.utf8 line)).2 }
    heard := endpoint.heard ++ [line] }

def wroteAll (endpoint : Endpoint) (lines : List String) : Endpoint := lines.foldl wrote endpoint

theorem wrote_in_clear {endpoint : Endpoint} (clear : endpoint.cipher = none) (line : String) :
    (endpoint.wrote line).sent = endpoint.sent ++ [line] := by
  rw [wrote, outbound, clear]
  rfl

theorem cipher_none {endpoint : Endpoint} (clear : endpoint.isEncrypted = false) :
    endpoint.cipher = none := Option.isNone_iff_eq_none.mp (Option.isSome_eq_false_iff.mp clear)

section Lanes

variable (endpoint : Endpoint) (line : String) (lines : List String)

@[simp] theorem outbound_isSome : endpoint.outbound.isSome = endpoint.isEncrypted :=
  Option.isSome_map

@[simp] theorem inbound_isSome : endpoint.inbound.isSome = endpoint.isEncrypted :=
  Option.isSome_map

@[simp] theorem wrote_outbound : (endpoint.wrote line).outbound = endpoint.outbound.after line := by
  simp only [outbound, wrote, Lane.after, Option.map_map, Function.comp_def]

@[simp] theorem wrote_inbound : (endpoint.wrote line).inbound = endpoint.inbound := by
  simp only [inbound, wrote, Option.map_map, Function.comp_def]

@[simp] theorem took_inbound : (endpoint.took line).inbound = endpoint.inbound.after line := by
  simp only [inbound, took, Lane.after, Option.map_map, Function.comp_def]

@[simp] theorem took_outbound : (endpoint.took line).outbound = endpoint.outbound := by
  simp only [outbound, took, Option.map_map, Function.comp_def]

@[simp] theorem wrote_isEncrypted :
    (endpoint.wrote line).isEncrypted = endpoint.isEncrypted := by
  rw [← inbound_isSome, wrote_inbound, inbound_isSome]

@[simp] theorem took_isEncrypted : (endpoint.took line).isEncrypted = endpoint.isEncrypted := by
  rw [← outbound_isSome, took_outbound, outbound_isSome]

@[simp] theorem took_sent : (endpoint.took line).sent = endpoint.sent := rfl

@[simp] theorem wroteAll_inbound : (endpoint.wroteAll lines).inbound = endpoint.inbound := by
  induction lines generalizing endpoint with
  | nil => rfl
  | cons line lines ih => exact (ih (endpoint.wrote line)).trans (wrote_inbound endpoint line)

@[simp] theorem wroteAll_isEncrypted :
    (endpoint.wroteAll lines).isEncrypted = endpoint.isEncrypted := by
  rw [← inbound_isSome, wroteAll_inbound, inbound_isSome]

@[simp] theorem wroteAll_outbound :
    (endpoint.wroteAll lines).outbound = endpoint.outbound.afterAll lines := by
  induction lines generalizing endpoint with
  | nil => rfl
  | cons line lines ih =>
      calc (endpoint.wroteAll (line :: lines)).outbound
        _ = (endpoint.wrote line).outbound.afterAll lines := ih (endpoint.wrote line)
        _ = endpoint.outbound.afterAll (line :: lines) := by rw [wrote_outbound]; rfl

@[simp] theorem wroteAll_sent :
    (endpoint.wroteAll lines).sent = endpoint.sent ++ endpoint.outbound.wires lines := by
  induction lines generalizing endpoint with
  | nil => exact (List.append_nil _).symm
  | cons line lines ih =>
      calc (endpoint.wroteAll (line :: lines)).sent
        _ = (endpoint.wrote line).sent ++ (endpoint.wrote line).outbound.wires lines :=
            ih (endpoint.wrote line)
        _ = endpoint.sent ++ endpoint.outbound.wires (line :: lines) := by
            rw [wrote_outbound, wrote, List.append_assoc]
            rfl

end Lanes

section Coding

variable {endpoint : Endpoint} {line : String}

theorem encode_wrote (endpoint : Endpoint) (one_line : '\n' ∉ line.toList) :
    endpoint.encode line = .ok (endpoint.outbound.wire line, endpoint.wrote line) := by
  have plain : Text.hasChar '\n' line = false :=
    eq_false_of_ne_true fun broken => one_line (Text.hasChar_iff.mp broken)
  rcases endpoint with ⟨label, cipher, sent, heard⟩
  rw [encode, plain, if_neg Bool.false_ne_true]
  cases cipher with
  | none => rfl
  | some cipher => rfl

theorem encode_broken (endpoint : Endpoint) (broken : '\n' ∈ line.toList) :
    endpoint.encode line = .error .lineBreakInLine := by
  rw [encode, if_pos (Text.hasChar_iff.mpr broken)]

theorem write_wrote (endpoint : Endpoint) (one_line : '\n' ∉ line.toList) :
    endpoint.write line = (.ok (), endpoint.wrote line) := by
  rw [write, encode_wrote endpoint one_line]

theorem writeAll_wrote (endpoint : Endpoint) {lines : List String}
    (one_line : ∀ line ∈ lines, '\n' ∉ line.toList) :
    endpoint.writeAll lines = (.ok (), endpoint.wroteAll lines) := by
  induction lines generalizing endpoint with
  | nil => rfl
  | cons line lines ih =>
      rw [writeAll, write_wrote endpoint (one_line line List.mem_cons_self)]
      exact ih (endpoint.wrote line) fun other member =>
        one_line other (List.mem_cons_of_mem line member)

theorem decodeText_wire (endpoint : Endpoint) (line : String) :
    endpoint.decodeText (endpoint.inbound.wire line) =
      (.ok line, { endpoint.took line with heard := endpoint.heard }) := by
  rcases endpoint with ⟨label, cipher, sent, heard⟩
  cases cipher with
  | none => rfl
  | some cipher =>
      simp only [decodeText, inbound, Option.map_some, Lane.wire, Cipher.decrypt,
        Base64.decode_encode, Keystream.apply_twice, Text.ofUtf8_utf8, took]

theorem decode_wire (endpoint : Endpoint) (carriable : Carriable endpoint.inbound.isSome line) :
    endpoint.decode (some (.line (Text.utf8 (endpoint.inbound.wire line)))) =
      (.ok line, endpoint.took line) := by
  have text : Text.ofUtf8? (withoutCr (Text.utf8 (endpoint.inbound.wire line))) =
      some (endpoint.inbound.wire line) := by
    rw [withoutCr_utf8, carriable.chomp_wire, Text.ofUtf8_utf8]
  simp only [decode, text, decodeText_wire]
  rfl

theorem decodeText_took {after : Endpoint} {wire : String}
    (read : endpoint.decodeText wire = (.ok line, after)) :
    after = { endpoint.took line with heard := endpoint.heard } := by
  rcases endpoint with ⟨label, cipher, sent, heard⟩
  cases cipher with
  | none =>
      cases read
      rfl
  | some cipher =>
      cases decoded : Base64.decode? wire with
      | none =>
          simp only [decodeText, Cipher.decrypt, decoded] at read
          cases read
      | some bytes =>
          cases clear : Text.ofUtf8? (cipher.incoming.apply bytes).1 with
          | none =>
              simp only [decodeText, Cipher.decrypt, decoded, clear] at read
              cases read
          | some text =>
              have size : (Text.utf8 text).length = bytes.length := by
                rw [Text.utf8_ofUtf8 clear, Keystream.apply_length]
              simp only [decodeText, Cipher.decrypt, decoded, clear] at read
              cases read
              simp only [took, Option.map_some, Keystream.apply_stream, size]

theorem decode_took {after : Endpoint} {frame : Option Frame}
    (read : endpoint.decode frame = (.ok line, after)) : after = endpoint.took line := by
  cases frame with
  | none => cases read
  | some frame =>
      cases frame with
      | overlong => cases read
      | line bytes =>
          cases wire : Text.ofUtf8? (withoutCr bytes) with
          | none =>
              simp only [decode, wire] at read
              cases read
          | some wire_line =>
              rcases decoded : endpoint.decodeText wire_line with ⟨result, middle⟩
              simp only [decode, wire, decoded] at read
              cases result with
              | error error => cases read
              | ok line =>
                  cases read
                  rw [decodeText_took decoded]
                  rfl

end Coding

end Endpoint

/-- Two ends of a connection with nothing on the way between them. -/
structure InStep (near far : Endpoint) : Prop where
  outbound : near.outbound = far.inbound
  inbound : near.inbound = far.outbound

namespace InStep

variable {near far : Endpoint}

theorem clear (near_clear : near.cipher = none) (far_clear : far.cipher = none) :
    InStep near far := by
  constructor <;>
    simp only [Endpoint.outbound, Endpoint.inbound, near_clear, far_clear, Option.map_none]

theorem isEncrypted (in_step : InStep near far) : near.isEncrypted = far.isEncrypted := by
  rw [← Endpoint.outbound_isSome, in_step.outbound, Endpoint.inbound_isSome]

end InStep

end MailExchange.Wire
