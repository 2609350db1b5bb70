import MailExchange.Text.Basic

namespace MailExchange.Text

theorem hasChar_iff {c : Char} {text : String} : hasChar c text = true ↔ c ∈ text.toList := by
  rw [hasChar, List.contains_eq_mem, decide_eq_true_iff]

section Separator

variable {α : Type} [BEq α] [LawfulBEq α] {sep : α}

theorem takeWhile_plain {items : List α} (free : sep ∉ items) :
    items.takeWhile (· != sep) = items := by
  induction items with
  | nil => rfl
  | cons item items ih =>
      rw [List.mem_cons, not_or] at free
      rw [List.takeWhile_cons, if_pos (bne_iff_ne.mpr (Ne.symm free.1)), ih free.2]

theorem takeWhile_before {head : List α} (free : sep ∉ head) (rest : List α) :
    (head ++ sep :: rest).takeWhile (· != sep) = head := by
  rw [List.takeWhile_append_of_pos]
  · simp only [List.takeWhile_cons, bne_self_eq_false, Bool.false_eq_true, if_false,
      List.append_nil]
  · intro item member
    rw [bne_iff_ne]
    rintro rfl
    exact free member

end Separator

theorem pieces_nil (sep : Char) : pieces sep [] = [[]] := rfl

theorem pieces_cons_sep (sep : Char) (cs : List Char) :
    pieces sep (sep :: cs) = [] :: pieces sep cs := by
  simp only [pieces, List.foldr_cons, if_pos]

theorem pieces_cons_other {sep c : Char} (other : c ≠ sep) (cs : List Char) :
    pieces sep (c :: cs) = (pieces sep cs).modifyHead (c :: ·) ∧ pieces sep cs ≠ [] := by
  have some_piece : pieces sep cs ≠ [] := by
    cases cs with
    | nil => simp only [pieces_nil, ne_eq, reduceCtorEq, not_false_eq_true]
    | cons head tail =>
        simp only [pieces, List.foldr_cons]
        split
        · exact List.cons_ne_nil _ _
        · split <;> exact List.cons_ne_nil _ _
  refine ⟨?_, some_piece⟩
  cases found : pieces sep cs with
  | nil => exact absurd found some_piece
  | cons piece others =>
      rw [pieces] at found
      rw [pieces, List.foldr_cons, if_neg other, found]
      rfl

theorem pieces_splitOn (sep : Char) (cs : List Char) : pieces sep cs = cs.splitOn sep := by
  induction cs with
  | nil => rw [pieces_nil, List.splitOn_nil]
  | cons c cs ih =>
      rw [List.splitOn_cons_eq_if_modifyHead]
      by_cases same : c = sep
      · subst same
        rw [pieces_cons_sep, ih, if_pos (beq_self_eq_true c)]
      · rw [(pieces_cons_other same cs).1, ih, if_neg (by simpa using same)]

theorem mem_pieces {sep : Char} {cs piece : List Char} (member : piece ∈ pieces sep cs) :
    sep ∉ piece := by
  induction cs generalizing piece with
  | nil =>
      rw [pieces_nil, List.mem_singleton] at member
      rw [member]
      exact List.not_mem_nil
  | cons c cs ih =>
      by_cases same : c = sep
      · subst same
        rw [pieces_cons_sep, List.mem_cons] at member
        rcases member with rfl | later
        · exact List.not_mem_nil
        · exact ih later
      · obtain ⟨step, some_piece⟩ := pieces_cons_other same cs
        obtain ⟨first, others, found⟩ := List.exists_cons_of_ne_nil some_piece
        rw [step, found, List.modifyHead_cons, List.mem_cons] at member
        rw [found] at ih
        rcases member with rfl | later
        · rw [List.mem_cons, not_or]
          exact ⟨fun equal => same equal.symm, ih List.mem_cons_self⟩
        · exact ih (List.mem_cons_of_mem first later)

theorem pieces_append_sep {sep : Char} {piece : List Char} (free : sep ∉ piece)
    (rest : List Char) : pieces sep (piece ++ sep :: rest) = piece :: pieces sep rest := by
  induction piece with
  | nil => exact pieces_cons_sep sep rest
  | cons c piece ih =>
      rw [List.mem_cons, not_or] at free
      rw [List.cons_append, (pieces_cons_other (Ne.symm free.1) _).1, ih free.2,
        List.modifyHead_cons]

theorem pieces_lines {sep : Char} {lines : List (List Char)} (free : ∀ line ∈ lines, sep ∉ line) :
    pieces sep (lines.flatMap (· ++ [sep])) = lines ++ [[]] := by
  induction lines with
  | nil => exact pieces_nil sep
  | cons line lines ih =>
      rw [List.flatMap_cons, List.append_assoc, List.singleton_append,
        pieces_append_sep (free line List.mem_cons_self),
        ih fun other member => free other (List.mem_cons_of_mem line member), List.cons_append]

theorem append_free {c : Char} {first second : String} :
    c ∉ (first ++ second).toList ↔ c ∉ first.toList ∧ c ∉ second.toList := by
  rw [String.toList_append, List.mem_append, not_or]

section Joining

variable {sep : Char} {glue : String}

theorem splitAtEach_join (single : glue.toList = [sep]) {texts : List String}
    (some_text : texts ≠ []) (free : ∀ text ∈ texts, sep ∉ text.toList) :
    splitAtEach sep (join glue texts) = texts := by
  have cut : pieces sep (join glue texts).toList = texts.map String.toList := by
    rw [join, String.toList_intercalate, single, pieces_splitOn]
    apply List.splitOn_intercalate
    · intro piece member
      obtain ⟨text, present, rfl⟩ := List.mem_map.mp member
      exact free text present
    · simpa only [ne_eq, List.map_eq_nil_iff] using some_text
  rw [splitAtEach, cut, List.map_map]
  simp only [Function.comp_def, String.ofList_toList, List.map_id']

theorem join_injective (single : glue.toList = [sep]) {texts others : List String}
    (some_text : texts ≠ []) (some_other : others ≠ []) (free : ∀ text ∈ texts, sep ∉ text.toList)
    (others_free : ∀ text ∈ others, sep ∉ text.toList) (same : join glue texts = join glue others) :
    texts = others := by
  rw [← splitAtEach_join single some_text free, same, splitAtEach_join single some_other others_free]

theorem join_splitAtEach (single : glue.toList = [sep]) (text : String) :
    join glue (splitAtEach sep text) = text := by
  apply String.toList_inj.mp
  rw [join, String.toList_intercalate, single, splitAtEach, List.map_map]
  simp only [Function.comp_def, String.toList_ofList, List.map_id']
  rw [pieces_splitOn, List.intercalate_splitOn]

theorem mem_splitAtEach {text piece : String} (member : piece ∈ splitAtEach sep text) :
    sep ∉ piece.toList := by
  obtain ⟨cs, found, rfl⟩ := List.mem_map.mp member
  rw [String.toList_ofList]
  exact mem_pieces found

theorem splitAtEach_ne_nil (text : String) : splitAtEach sep text ≠ [] := by
  rw [splitAtEach, pieces_splitOn, ne_eq, List.map_eq_nil_iff]
  exact List.splitOn_ne_nil sep text.toList

theorem mem_join {c : Char} {texts : List String} (member : c ∈ (join glue texts).toList) :
    c ∈ glue.toList ∨ ∃ text ∈ texts, c ∈ text.toList := by
  induction texts with
  | nil => simp only [join, String.intercalate_nil, String.toList_empty, List.not_mem_nil] at member
  | cons first others ih =>
      cases others with
      | nil =>
          rw [join, String.intercalate_singleton] at member
          exact Or.inr ⟨first, List.mem_singleton_self first, member⟩
      | cons second others =>
          rw [join, String.intercalate_cons_cons, String.toList_append, String.toList_append,
            List.append_assoc, List.mem_append, List.mem_append] at member
          rcases member with here | between | later
          · exact Or.inr ⟨first, List.mem_cons_self, here⟩
          · exact Or.inl between
          · rcases ih later with between | ⟨text, present, inside⟩
            · exact Or.inl between
            · exact Or.inr ⟨text, List.mem_cons_of_mem first present, inside⟩

theorem join_free {c : Char} {texts : List String} (glue_free : c ∉ glue.toList)
    (free : ∀ text ∈ texts, c ∉ text.toList) : c ∉ (join glue texts).toList := by
  intro member
  rcases mem_join member with between | ⟨text, present, inside⟩
  · exact glue_free between
  · exact free text present inside

theorem join_ends (before : List String) (last : String) :
    ∃ start, join glue (before ++ [last]) = start ++ last := by
  cases before with
  | nil => exact ⟨"", String.intercalate_singleton.trans String.empty_append.symm⟩
  | cons first others =>
      exact ⟨join glue (first :: others) ++ glue, String.intercalate_append_of_ne_nil
        (List.cons_ne_nil first others) (List.cons_ne_nil last [])⟩

theorem infix_join {text : String} {texts : List String} (present : text ∈ texts) :
    text.toList <:+: (join glue texts).toList := by
  induction texts with
  | nil => cases present
  | cons first others ih =>
      cases others with
      | nil =>
          refine ⟨[], [], ?_⟩
          rw [List.mem_singleton.mp present, join, String.intercalate_singleton, List.nil_append,
            List.append_nil]
      | cons second others =>
          rw [join, String.intercalate_cons_cons, String.toList_append, String.toList_append,
            List.append_assoc]
          rcases List.mem_cons.mp present with rfl | later
          · exact (List.prefix_append _ _).isInfix
          · have within := (ih later).trans (List.suffix_append glue.toList _).isInfix
            exact within.trans (List.suffix_append first.toList _).isInfix

theorem mem_join_of_mem {c : Char} {text : String} {texts : List String} (present : text ∈ texts)
    (member : c ∈ text.toList) : c ∈ (join glue texts).toList :=
  (infix_join present).subset member

theorem length_le_join (single : glue.toList = [sep]) (texts : List String) :
    texts.length ≤ (join glue texts).length + 1 := by
  induction texts with
  | nil => exact Nat.zero_le _
  | cons first others ih =>
      cases others with
      | nil => simp only [List.length_cons, List.length_nil]; omega
      | cons second others =>
          have one : glue.length = 1 := by rw [← String.length_toList, single]; rfl
          rw [join, String.intercalate_cons_cons, String.length_append, String.length_append, one]
          rw [join] at ih
          simp only [List.length_cons] at ih ⊢
          omega

end Joining

section First

variable {sep : Char}

theorem splitAtFirst_append {glue : String} (single : glue.toList = [sep]) {head : String}
    (free : sep ∉ head.toList) (rest : String) :
    splitAtFirst sep (head ++ glue ++ rest) = (head, some rest) := by
  have text : (head ++ glue ++ rest).toList = head.toList ++ sep :: rest.toList := by
    simp only [String.toList_append, single, List.append_assoc, List.singleton_append]
  simp only [splitAtFirst, text, takeWhile_before free, List.drop_left, String.ofList_toList]

theorem splitAtFirst_plain {text : String} (free : sep ∉ text.toList) :
    splitAtFirst sep text = (text, none) := by
  have whole : text.toList.takeWhile (· != sep) = text.toList :=
    takeWhile_plain free
  simp only [splitAtFirst, whole, List.drop_length]

theorem splitAtFirst_cases (sep : Char) (text : String) :
    (sep ∉ text.toList ∧ splitAtFirst sep text = (text, none)) ∨
      ∃ head rest, sep ∉ head.toList ∧ text.toList = head.toList ++ sep :: rest.toList ∧
        splitAtFirst sep text = (head, some rest) := by
  by_cases present : sep ∈ text.toList
  · right
    obtain ⟨head, rest, cut, free⟩ := List.eq_append_cons_of_mem present
    refine ⟨String.ofList head, String.ofList rest, ?_, ?_, ?_⟩
    · rwa [String.toList_ofList]
    · rw [cut, String.toList_ofList, String.toList_ofList]
    · simp only [splitAtFirst, cut, takeWhile_before free, List.drop_left]
  · exact Or.inl ⟨present, splitAtFirst_plain present⟩

theorem splitAtFirst_text {head rest text : String}
    (cut : splitAtFirst sep text = (head, some rest)) :
    text.toList = head.toList ++ sep :: rest.toList := by
  rcases splitAtFirst_cases sep text with ⟨_, plain⟩ | ⟨other, more, _, whole, found⟩
  · cases plain.symm.trans cut
  · cases found.symm.trans cut
    exact whole

theorem cut_word {word : String} (free : ' ' ∉ word.toList) (rest : String) :
    splitAtFirst ' ' (word ++ " " ++ rest) = (word, some rest) :=
  splitAtFirst_append rfl free rest

theorem cut_cases (line : String) :
    splitAtFirst ' ' line = (line, none) ∨
      ∃ word rest, line = word ++ " " ++ rest ∧ splitAtFirst ' ' line = (word, some rest) := by
  rcases splitAtFirst_cases ' ' line with ⟨_, plain⟩ | ⟨word, rest, _, whole, cut⟩
  · exact Or.inl plain
  · refine Or.inr ⟨word, rest, ?_, cut⟩
    apply String.toList_inj.mp
    rw [whole, String.toList_append, String.toList_append, List.append_assoc]
    rfl

end First

end MailExchange.Text
