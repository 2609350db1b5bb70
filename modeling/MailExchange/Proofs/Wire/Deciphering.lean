import MailExchange.Proofs.Wire.CipherPair
import MailExchange.Proofs.Wire.Session
import MailExchange.Wire.Channel

namespace MailExchange.Wire

open Text (Bytes)

/-- The next line of a stream, and what follows it. One CR before the LF is no part of the line. -/
def NextLine (input : Bytes) (line : String) (rest : Bytes) : Prop :=
  ∃ bytes, input = bytes ++ lineFeed :: rest ∧ lineFeed ∉ bytes ∧ bytes.length < maxLine ∧
    withoutCr bytes = Text.utf8 line

section Reading

variable {input rest : Bytes} {frame : Frame} {endpoint : Endpoint} {line text : String}

theorem nextLine_frame : NextLine input line rest ↔
    ∃ bytes, takeFrame? input = some (.line bytes, rest) ∧
      Text.ofUtf8? (withoutCr bytes) = some line := by
  constructor
  · rintro ⟨bytes, rfl, free, short, same⟩
    exact ⟨bytes, takeFrame_line free short rest, by rw [same, Text.ofUtf8_utf8]⟩
  · rintro ⟨bytes, found, read⟩
    rcases takeFrame_cases found with ⟨other, same, free, short, whole⟩ | ⟨overlong, _⟩
    · cases same
      exact ⟨bytes, whole, free, short, (Text.utf8_ofUtf8 read).symm⟩
    · cases overlong

theorem lineBytes_next {line : String} (fits : Fits line) (rest : Bytes) :
    NextLine (lineBytes line ++ rest) (chomp line) rest :=
  nextLine_frame.mpr ⟨Text.utf8 line, takeFrame_fits fits rest, by
    rw [withoutCr_utf8, Text.ofUtf8_utf8]⟩

theorem nextLine_pending (pending : takeFrame? input = none) : ¬ NextLine input line rest := by
  intro next
  obtain ⟨bytes, found, _⟩ := nextLine_frame.mp next
  rw [pending] at found
  cases found

theorem NextLine.unique {other : String} {after : Bytes} (next : NextLine input line rest)
    (again : NextLine input other after) : line = other ∧ rest = after := by
  rcases nextLine_frame.mp next with ⟨bytes, found, read⟩
  rcases nextLine_frame.mp again with ⟨same, found_again, read_again⟩
  rw [found] at found_again
  cases found_again
  rw [read] at read_again
  cases read_again
  exact ⟨rfl, rfl⟩

theorem Endpoint.decode_next (found : takeFrame? input = some (frame, rest)) :
    (endpoint.decode (some frame)).1 = .ok text ↔
      ∃ line, NextLine input line rest ∧ (endpoint.decodeText line).1 = .ok text := by
  constructor
  · intro read
    cases frame with
    | overlong => cases read
    | line bytes =>
        cases clear : Text.ofUtf8? (withoutCr bytes) with
        | none =>
            simp only [decode, clear] at read
            cases read
        | some line =>
            refine ⟨line, nextLine_frame.mpr ⟨bytes, found, clear⟩, ?_⟩
            rcases decoded : endpoint.decodeText line with ⟨result, after⟩
            simp only [decode, clear, decoded] at read
            cases result with
            | error error => cases read
            | ok other => exact read
  · rintro ⟨line, next, read⟩
    obtain ⟨bytes, cut, clear⟩ := nextLine_frame.mp next
    rw [found] at cut
    cases cut
    rcases decoded : endpoint.decodeText line with ⟨result, after⟩
    rw [decoded] at read
    cases read
    simp only [decode, clear, decoded]

theorem Endpoint.decode_input :
    (endpoint.decode ((takeFrame? input).map Prod.fst)).1 = .ok text ↔
      ∃ line rest, NextLine input line rest ∧ (endpoint.decodeText line).1 = .ok text := by
  cases found : takeFrame? input with
  | none =>
      simp only [Option.map_none, decode, reduceCtorEq, false_iff]
      rintro ⟨line, rest, next, _⟩
      exact nextLine_pending found next
  | some cut =>
      rcases cut with ⟨frame, rest⟩
      rw [Option.map_some, decode_next found]
      constructor
      · rintro ⟨line, next, decoded⟩
        exact ⟨line, rest, next, decoded⟩
      · rintro ⟨line, other, next, decoded⟩
        rcases nextLine_frame.mp next with ⟨bytes, same, _⟩
        rw [found] at same
        cases same
        exact ⟨line, next, decoded⟩

theorem Endpoint.decode_label (endpoint : Endpoint) (frame : Option Frame) :
    (endpoint.decode frame).2.label = endpoint.label := by
  have text (line : String) : (endpoint.decodeText line).2.label = endpoint.label := by
    rw [decodeText]
    split <;> rfl
  rcases frame with _ | bytes | _
  · rfl
  · rw [decode]
    split
    · rfl
    · rename_i line _
      have same := text line
      split <;> rename_i decoded <;> rw [decoded] at same <;> exact same
  · rfl

theorem Channel.receive_next {π : Type} [Peer π] {channel : Channel π} :
    channel.receive.1 = .ok text ↔ ∃ line rest, NextLine channel.unread line rest ∧
      (channel.endpoint.decodeText line).1 = .ok text := by
  rw [← Endpoint.decode_input]
  cases found : takeFrame? channel.unread with
  | none => simp only [receive, found, Option.map_none, Endpoint.decode, reduceCtorEq]
  | some cut => simp only [receive, found, Option.map_some]

theorem Channel.receive_label {π : Type} [Peer π] (channel : Channel π) :
    channel.receive.2.endpoint.label = channel.endpoint.label := by
  rw [receive]
  split
  · rfl
  · exact Endpoint.decode_label _ _

end Reading

section Ciphers

variable {key iv : Bytes} {sender : Role} {cipher : Cipher} {line text : String}

/-- A line that means this text at the beginning of one direction of a session. -/
def Deciphers (key iv : Bytes) (sender : Role) (line text : String) : Prop :=
  ∃ bytes, Base64.Spells line bytes ∧
    CounterMode.encrypt key (Cipher.firstBlock iv sender) bytes = Text.utf8 text

def enciphered (key iv : Bytes) (sender : Role) (text : String) : String :=
  Base64.encode (CounterMode.encrypt key (Cipher.firstBlock iv sender) (Text.utf8 text))

theorem Cipher.readText_ok {clear : Bytes} : readText clear = .ok text ↔ clear = Text.utf8 text := by
  constructor
  · intro read
    cases found : Text.ofUtf8? clear with
    | none =>
        rw [readText, found] at read
        cases read
    | some other =>
        rw [readText, found] at read
        cases read
        exact (Text.utf8_ofUtf8 found).symm
  · rintro rfl
    exact readText_utf8 text

theorem Cipher.apply_fresh (iv_length : iv.length = 16) (key : Bytes) (sender : Role)
    (bytes : Bytes) : ((keystream key iv sender).apply bytes).1 =
      CounterMode.encrypt key (firstBlock iv sender) bytes :=
  Keystream.apply_counterMode (firstCounter_firstBlock iv_length sender) bytes

theorem Cipher.decrypt_fresh (iv_length : iv.length = 16)
    (fresh : cipher.incoming = keystream key iv sender) :
    (cipher.decrypt line).1 = .ok text ↔ Deciphers key iv sender line text := by
  constructor
  · intro read
    cases decoded : Base64.decode? line with
    | none =>
        rw [decrypt_stray decoded] at read
        cases read
    | some bytes =>
        rw [decrypt_decoded decoded, fresh, apply_fresh iv_length] at read
        exact ⟨bytes, Base64.decode_spells.mp decoded, readText_ok.mp read⟩
  · rintro ⟨bytes, spells, same⟩
    rw [decrypt_decoded (Base64.decode_spells.mpr spells), fresh, apply_fresh iv_length, same,
      readText_utf8]

theorem Endpoint.decodeText_fresh {endpoint : Endpoint} (iv_length : iv.length = 16)
    (fresh : endpoint.inbound = some (Cipher.keystream key iv sender)) :
    (endpoint.decodeText line).1 = .ok text ↔ Deciphers key iv sender line text := by
  cases found : endpoint.cipher with
  | none =>
      rw [inbound, found] at fresh
      cases fresh
  | some cipher =>
      rw [inbound, found, Option.map_some, Option.some_inj] at fresh
      rw [← Cipher.decrypt_fresh iv_length fresh, decodeText, found]

theorem Lane.wire_fresh (iv_length : iv.length = 16) (key : Bytes) (sender : Role) (text : String) :
    wire (some (Cipher.keystream key iv sender)) text = enciphered key iv sender text := by
  rw [wire, Cipher.apply_fresh iv_length, enciphered]

theorem enciphered_next (iv_length : iv.length = 16) (key : Bytes) (sender : Role)
    (carriable : Carriable true text) (rest : Bytes) :
    NextLine (lineBytes (enciphered key iv sender text) ++ rest) (enciphered key iv sender text)
      rest := by
  let lane : Lane := some (Cipher.keystream key iv sender)
  have carried : Carriable (Option.isSome lane) text := carriable
  have next := lineBytes_next carried.fits rest
  rw [carried.chomp_wire, show lane.wire text = _ from Lane.wire_fresh iv_length key sender text]
    at next
  exact next

theorem deciphers_enciphered (iv_length : iv.length = 16) (key : Bytes) (sender : Role)
    (text : String) : Deciphers key iv sender (enciphered key iv sender text) text := by
  refine ⟨_, Base64.encode_spells _, ?_⟩
  rw [← Cipher.apply_fresh iv_length, ← Cipher.apply_fresh iv_length, Keystream.apply_twice]

/-- What a line means, it alone means: up to padding it is the line that is written for its text. -/
theorem deciphers_iff (iv_length : iv.length = 16) : Deciphers key iv sender line text ↔
    Base64.Spells line (CounterMode.encrypt key (Cipher.firstBlock iv sender) (Text.utf8 text)) := by
  constructor
  · rintro ⟨bytes, spells, same⟩
    rw [← same, ← Cipher.apply_fresh iv_length, ← Cipher.apply_fresh iv_length,
      Keystream.apply_twice]
    exact spells
  · intro spells
    refine ⟨_, spells, ?_⟩
    rw [← Cipher.apply_fresh iv_length, ← Cipher.apply_fresh iv_length, Keystream.apply_twice]

end Ciphers

/-- The lines at the start of a stream, and what follows them. -/
inductive Lines : Bytes → List String → Bytes → Prop
  | none (input : Bytes) : Lines input [] input
  | more {input middle rest : Bytes} {line : String} {lines : List String}
      (next : NextLine input line middle) (later : Lines middle lines rest) :
      Lines input (line :: lines) rest

/-- A stream that does not start with a line of text, and how the next read fails: the stream ends
before the line does, the line goes on past the limit, or its bytes are no text. -/
inductive Unreadable (input : Bytes) : Error → Prop
  | ended (free : lineFeed ∉ input) (short : input.length < maxLine) : Unreadable input .unexpectedEof
  | long (free : lineFeed ∉ input.take maxLine) (enough : maxLine ≤ input.length) :
      Unreadable input .lineTooLong
  | garbled (bytes rest : Bytes) (cut : input = bytes ++ lineFeed :: rest) (free : lineFeed ∉ bytes)
      (short : bytes.length < maxLine) (no_text : Text.ofUtf8? (withoutCr bytes) = none) :
      Unreadable input .framing

section Frames

variable {input rest bytes : Bytes}

theorem unreadable_pending (pending : takeFrame? input = none) :
    Unreadable input .unexpectedEof := by
  by_cases ended : lineFeed ∈ input
  · obtain ⟨bytes, after, rfl, free⟩ := List.eq_append_cons_of_mem ended
    by_cases short : bytes.length < maxLine
    · rw [takeFrame_line free short] at pending
      cases pending
    · simp only [takeFrame?, Text.takeWhile_before free, if_pos (Nat.le_of_not_lt short)] at pending
      cases pending
  · refine .ended ended (Nat.lt_of_not_le fun long => ?_)
    simp only [takeFrame?, Text.takeWhile_plain ended, if_pos long] at pending
    cases pending

theorem unreadable_overlong (found : takeFrame? input = some (.overlong, rest)) :
    Unreadable input .lineTooLong := by
  obtain ⟨free, enough, _⟩ := overlong_start found
  exact .long free enough

theorem unreadable_garbled (found : takeFrame? input = some (.line bytes, rest))
    (no_text : Text.ofUtf8? (withoutCr bytes) = none) : Unreadable input .framing := by
  rcases takeFrame_cases found with ⟨_, same, free, short, cut⟩ | ⟨overlong, _⟩
  · cases same
    exact .garbled bytes rest cut free short no_text
  · cases overlong

end Frames

namespace Session

variable {σ : Type} [Session σ]

theorem feed_consumed (session : σ) (input : Bytes) : ∃ consumed,
    input = consumed ++ (feed session input).2 ∧
      feed session consumed = ((feed session input).1, []) := by
  fun_induction feed session input with
  | case1 session input finished => exact ⟨[], rfl, feed_over finished []⟩
  | case2 session input running pending => exact ⟨[], rfl, feed_pending session takeFrame_nil⟩
  | case3 session input running frame rest found shorter ih =>
      obtain ⟨head, cut, taken⟩ := takeFrame_head found
      obtain ⟨consumed, whole, fed⟩ := ih
      refine ⟨head ++ consumed, ?_, ?_⟩
      · rw [List.append_assoc, ← whole, cut]
      · rw [feed_frame (eq_false_of_ne_true running) (taken consumed), fed]

/-- A session that is over does not depend on what it has left unread. -/
theorem run_consumed {session after : σ} {input consumed rest : Bytes}
    (fed : feed session input = (after, rest)) (finished : isOver after = true)
    (cut : input = consumed ++ rest) (more : Bytes) : run session (consumed ++ more) = after := by
  obtain ⟨read, whole, same⟩ := feed_consumed session input
  rw [fed] at whole same
  rw [List.append_cancel_right (whole.symm.trans cut)] at same
  have longer : feed session (consumed ++ more) = (after, more) := by
    rw [feed_append, same, List.nil_append, feed_over finished]
  simp only [run, longer, finished, if_true]

end Session

end MailExchange.Wire
