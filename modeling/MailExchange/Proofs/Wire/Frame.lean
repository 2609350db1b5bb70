import MailExchange.Proofs.Text.Split
import MailExchange.Proofs.Text.Utf8
import MailExchange.Wire.Endpoint
import MailExchange.Wire.Frame

namespace MailExchange.Wire

open Text (Bytes)

theorem lineBytes_length (line : String) :
    (lineBytes line).length = (Text.utf8 line).length + 1 := by
  rw [lineBytes, List.length_append, List.length_singleton]

theorem lineBytes_append (start value : String) : (lineBytes (start ++ value)).length =
    (Text.utf8 start).length + (Text.utf8 value).length + 1 := by
  rw [lineBytes_length, Text.utf8_append, List.length_append]

/-- A line that fits on the wire. -/
structure Fits (line : String) : Prop where
  one_line : '\n' ∉ line.toList
  short : (lineBytes line).length ≤ maxLine

/-- A line as it arrives: one CR at its end is lost. -/
def chomp (line : String) : String :=
  if line.toList.getLast? = some '\r' then String.ofList line.toList.dropLast else line

theorem chomp_plain {line : String} (plain : line.toList.getLast? ≠ some '\r') :
    chomp line = line := if_neg plain

theorem chomp_eq {line : String} : chomp line = line ↔ line.toList.getLast? ≠ some '\r' := by
  refine ⟨fun same cr => ?_, chomp_plain⟩
  rw [chomp, if_pos cr] at same
  have shorter := congrArg (fun text => text.toList.length) same
  have some_char := List.length_pos_of_mem (List.mem_of_getLast? cr)
  simp only [String.toList_ofList, List.length_dropLast] at shorter
  omega

theorem chomp_free {line : String} (free : '\r' ∉ line.toList) : chomp line = line :=
  chomp_plain fun last => free (List.mem_of_getLast? last)

theorem mem_chomp {line : String} {c : Char} (member : c ∈ (chomp line).toList) :
    c ∈ line.toList := by
  unfold chomp at member
  split at member
  · rw [String.toList_ofList] at member
    exact List.dropLast_subset _ member
  · exact member

theorem chomp_append {start : String} (plain : start.toList.getLast? ≠ some '\r')
    (line : String) : chomp (start ++ line) = start ++ chomp line := by
  have last : (start ++ line).toList.getLast? = line.toList.getLast?.or start.toList.getLast? := by
    rw [String.toList_append, List.getLast?_append]
  unfold chomp
  cases found : line.toList.getLast? with
  | none =>
      rw [found, Option.none_or] at last
      rw [last, if_neg plain, if_neg (by simp only [reduceCtorEq, not_false_eq_true])]
  | some c =>
      rw [found, Option.some_or] at last
      rw [last]
      by_cases cr : some c = some '\r'
      · rw [if_pos cr, if_pos cr]
        have some_char : line.toList ≠ [] := by
          intro empty
          rw [empty] at found
          cases found
        apply String.toList_inj.mp
        rw [String.toList_append, String.toList_append, String.toList_ofList, String.toList_ofList,
          List.dropLast_append_of_ne_nil some_char]
      · rw [if_neg cr, if_neg cr]

theorem withoutCr_utf8 (line : String) : withoutCr (Text.utf8 line) = Text.utf8 (chomp line) := by
  have ends : (Text.utf8 line).getLast? = some carriageReturn ↔ _ :=
    Text.utf8_getLast_ascii (c := '\r') (by decide) line
  unfold withoutCr chomp
  by_cases cr : line.toList.getLast? = some '\r'
  · rw [if_pos cr, if_pos (ends.mpr cr)]
    obtain ⟨start, split⟩ := List.getLast?_eq_some_iff.mp cr
    rw [Text.utf8_flatMap, Text.utf8_ofList, split, List.dropLast_concat, List.flatMap_append,
      List.flatMap_singleton, Text.encodeChar_ascii (by decide), List.dropLast_concat]
  · rw [if_neg cr, if_neg (fun byte => cr (ends.mp byte))]

theorem lineFeed_free {line : String} (one_line : '\n' ∉ line.toList) :
    lineFeed ∉ Text.utf8 line := fun member =>
  one_line ((Text.ascii_mem_utf8 (c := '\n') (by decide) line).mp member)

theorem takeFrame_nil : takeFrame? [] = none := rfl

theorem takeFrame_line {bytes : Bytes} (free : lineFeed ∉ bytes) (short : bytes.length < maxLine)
    (rest : Bytes) : takeFrame? (bytes ++ lineFeed :: rest) = some (.line bytes, rest) := by
  simp only [takeFrame?, Text.takeWhile_before free, if_neg (Nat.not_le_of_gt short),
    List.drop_left]

theorem takeFrame_fits {line : String} (fits : Fits line) (rest : Bytes) :
    takeFrame? (lineBytes line ++ rest) = some (.line (Text.utf8 line), rest) := by
  have short := fits.short
  rw [lineBytes_length] at short
  rw [lineBytes, List.append_assoc, List.singleton_append]
  exact takeFrame_line (lineFeed_free fits.one_line) short rest

/-- A line that does not fit is cut off where the limit is, and the stream goes on inside it. -/
theorem takeFrame_long {line : String} (one_line : '\n' ∉ line.toList)
    (long : maxLine < (lineBytes line).length) (rest : Bytes) :
    takeFrame? (lineBytes line ++ rest) =
      some (.overlong, (lineBytes line ++ rest).drop maxLine) := by
  have whole : (lineBytes line ++ rest).takeWhile (· != lineFeed) = Text.utf8 line := by
    rw [lineBytes, List.append_assoc, List.singleton_append,
      Text.takeWhile_before (lineFeed_free one_line)]
  have full : maxLine ≤ (Text.utf8 line).length := by
    rw [lineBytes_length] at long
    exact Nat.le_of_lt_succ long
  simp only [takeFrame?, whole, if_pos full]

theorem takeFrame_cases {input rest : Bytes} {frame : Frame}
    (found : takeFrame? input = some (frame, rest)) :
    (∃ bytes, frame = .line bytes ∧ lineFeed ∉ bytes ∧ bytes.length < maxLine ∧
      input = bytes ++ lineFeed :: rest) ∨
    (frame = .overlong ∧ maxLine ≤ (input.takeWhile (· != lineFeed)).length ∧
      rest = input.drop maxLine) := by
  by_cases long : maxLine ≤ (input.takeWhile (· != lineFeed)).length
  · simp only [takeFrame?, if_pos long] at found
    cases found
    exact Or.inr ⟨rfl, long, rfl⟩
  · left
    by_cases ended : lineFeed ∈ input
    · obtain ⟨bytes, after, cut, free⟩ := List.eq_append_cons_of_mem ended
      rw [cut, Text.takeWhile_before free] at long
      rw [cut, takeFrame_line free (Nat.lt_of_not_le long)] at found
      cases found
      exact ⟨bytes, rfl, free, Nat.lt_of_not_le long, cut⟩
    · rw [Text.takeWhile_plain ended] at long
      simp only [takeFrame?, Text.takeWhile_plain ended, if_neg long, List.drop_length] at found
      cases found

def Frame.Cut : Frame → Prop
  | .line bytes => lineFeed ∉ bytes ∧ bytes.length < maxLine
  | .overlong => True

theorem takeFrame_cut {input rest : Bytes} {frame : Frame}
    (found : takeFrame? input = some (frame, rest)) : frame.Cut := by
  rcases takeFrame_cases found with ⟨bytes, rfl, free, short, _⟩ | ⟨rfl, _, _⟩
  · exact ⟨free, short⟩
  · trivial

theorem cut_one_line {bytes : Bytes} {text : String} (cut : (Frame.line bytes).Cut)
    (read : Text.utf8 text = withoutCr bytes) : '\n' ∉ text.toList := by
  intro broken
  have byte := (Text.ascii_mem_utf8 (c := '\n') (by decide) text).mpr broken
  rw [read, withoutCr] at byte
  split at byte
  · exact cut.1 (List.dropLast_subset _ byte)
  · exact cut.1 byte

theorem overlong_start {input rest : Bytes} (found : takeFrame? input = some (.overlong, rest)) :
    lineFeed ∉ input.take maxLine ∧ maxLine ≤ input.length ∧ rest = input.drop maxLine := by
  rcases takeFrame_cases found with ⟨bytes, same, _⟩ | ⟨_, long, left⟩
  · cases same
  · have start : input.takeWhile (· != lineFeed) <+: input := List.takeWhile_prefix _
    have within : input.take maxLine <+: input.takeWhile (· != lineFeed) :=
      List.prefix_of_prefix_length_le (List.take_prefix maxLine input) start
        (Nat.le_trans (List.length_take_le maxLine input) long)
    refine ⟨fun member => ?_, Nat.le_trans long start.length_le, left⟩
    have other := List.all_eq_true.mp List.all_takeWhile lineFeed (within.subset member)
    rw [bne_self_eq_false] at other
    cases other

theorem takeFrame_overlong {bytes : Bytes} (free : lineFeed ∉ bytes) (full : bytes.length = maxLine)
    (rest : Bytes) : takeFrame? (bytes ++ rest) = some (.overlong, rest) := by
  have plain : ∀ byte ∈ bytes, (byte != lineFeed) = true := by
    intro byte member
    rw [bne_iff_ne]
    rintro rfl
    exact free member
  have long : maxLine ≤ ((bytes ++ rest).takeWhile (· != lineFeed)).length := by
    rw [List.takeWhile_append_of_pos plain, List.length_append, full]
    exact Nat.le_add_right _ _
  simp only [takeFrame?, if_pos long, List.drop_left' full]

theorem takeFrame_head {input rest : Bytes} {frame : Frame}
    (found : takeFrame? input = some (frame, rest)) :
    ∃ head, input = head ++ rest ∧ ∀ more, takeFrame? (head ++ more) = some (frame, more) := by
  cases frame with
  | line bytes =>
      rcases takeFrame_cases found with ⟨_, same, free, short, rfl⟩ | ⟨overlong, _⟩
      · cases same
        refine ⟨bytes ++ [lineFeed], by rw [List.append_assoc, List.singleton_append], ?_⟩
        intro more
        rw [List.append_assoc, List.singleton_append]
        exact takeFrame_line free short more
      · cases overlong
  | overlong =>
      obtain ⟨free, enough, rfl⟩ := overlong_start found
      refine ⟨input.take maxLine, (List.take_append_drop maxLine input).symm, ?_⟩
      exact takeFrame_overlong free (List.length_take_of_le enough)

theorem takeFrame_append {input rest : Bytes} {frame : Frame}
    (found : takeFrame? input = some (frame, rest)) (more : Bytes) :
    takeFrame? (input ++ more) = some (frame, rest ++ more) := by
  obtain ⟨head, rfl, taken⟩ := takeFrame_head found
  rw [List.append_assoc, taken]

end MailExchange.Wire

namespace MailExchange.Wire.Endpoint

open Text (Bytes)

variable {endpoint : Endpoint}

def say (endpoint : Endpoint) (line : String) : Endpoint :=
  { endpoint with sent := endpoint.sent ++ [line] }

@[simp] theorem say_sent (line : String) : (endpoint.say line).sent = endpoint.sent ++ [line] := rfl

@[simp] theorem say_heard (line : String) : (endpoint.say line).heard = endpoint.heard := rfl

@[simp] theorem hear_sent (line : String) : (endpoint.hear line).sent = endpoint.sent := rfl

@[simp] theorem hear_heard (line : String) :
    (endpoint.hear line).heard = endpoint.heard ++ [line] := rfl

theorem encode_clear (clear : endpoint.cipher = none) {line : String}
    (one_line : '\n' ∉ line.toList) : endpoint.encode line = .ok (line, endpoint.say line) := by
  have plain : Text.hasChar '\n' line = false :=
    eq_false_of_ne_true fun broken => one_line (Text.hasChar_iff.mp broken)
  simp only [encode, plain, Bool.false_eq_true, if_false, clear, say]

theorem write_clear (clear : endpoint.cipher = none) {line : String}
    (one_line : '\n' ∉ line.toList) : endpoint.write line = (.ok (), endpoint.say line) := by
  rw [write, encode_clear clear one_line]

theorem decode_text (clear : endpoint.cipher = none) {bytes : Bytes} {line : String}
    (text : Text.ofUtf8? (withoutCr bytes) = some line) :
    endpoint.decode (some (.line bytes)) = (.ok line, endpoint.hear line) := by
  simp only [decode, text, decodeText, clear]

theorem decode_line (endpoint : Endpoint) (clear : endpoint.cipher = none) (line : String) :
    endpoint.decode (some (.line (Text.utf8 line))) =
      (.ok (chomp line), endpoint.hear (chomp line)) := by
  apply decode_text clear
  rw [withoutCr_utf8, Text.ofUtf8_utf8]

theorem decode_cases (clear : endpoint.cipher = none) (frame : Option Frame) :
    (∃ error, endpoint.decode frame = (.error error, endpoint)) ∨
      ∃ bytes line, frame = some (.line bytes) ∧ Text.utf8 line = withoutCr bytes ∧
        endpoint.decode frame = (.ok line, endpoint.hear line) := by
  match frame with
  | none => exact Or.inl ⟨.unexpectedEof, rfl⟩
  | some .overlong => exact Or.inl ⟨.lineTooLong, rfl⟩
  | some (.line bytes) =>
      cases text : Text.ofUtf8? (withoutCr bytes) with
      | none => exact Or.inl ⟨.framing, by simp only [decode, text]⟩
      | some line =>
          exact Or.inr ⟨bytes, line, rfl, Text.utf8_ofUtf8 text, decode_text clear text⟩

end MailExchange.Wire.Endpoint
