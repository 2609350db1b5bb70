import MailExchange.Address

namespace MailExchange.Address

theorem parse_parts {text : String} {parsed : Address} (found : parse? text = some parsed) :
    text.toList = parsed.user.toList ++ '@' :: parsed.domain.toList ∧ parsed.user ≠ "" ∧
      (∀ c ∈ parsed.user.toList, isPlain c = true) ∧
      (∀ c ∈ parsed.domain.toList, isPlain c = true) := by
  have whole := List.prefix_iff_eq_append.mp (List.takeWhile_prefix isPlain (l := text.toList))
  simp only [parse?] at found
  split at found
  · rename_i domain after
    split at found
    · rename_i checked
      obtain ⟨some_user, plain, _⟩ := checked
      rw [← Option.some.inj found]
      simp only [String.toList_ofList]
      refine ⟨?_, ?_, List.all_eq_true.mp List.all_takeWhile, List.all_eq_true.mp plain⟩
      · rw [← after, whole]
      · intro empty
        apply some_user
        rw [← String.toList_ofList (l := text.toList.takeWhile isPlain), empty, String.toList_empty]
    · cases found
  · cases found

theorem parse_made {user domain : String} (some_user : user ≠ "")
    (user_plain : ∀ c ∈ user.toList, isPlain c = true)
    (domain_plain : domain.toList.all isPlain = true)
    (dotted : hasInnerDot domain.toList = true) :
    parse? (user ++ "@" ++ domain) = some ⟨user, domain⟩ := by
  have text : (user ++ "@" ++ domain).toList = user.toList ++ '@' :: domain.toList := by
    simp only [String.toList_append, List.append_assoc]
    rfl
  have first : (user.toList ++ '@' :: domain.toList).takeWhile isPlain = user.toList := by
    rw [List.takeWhile_append_of_pos user_plain]
    exact List.append_nil _
  have some_char : user.toList ≠ [] := fun empty => some_user (String.toList_eq_nil_iff.mp empty)
  simp only [parse?, text, first, List.drop_left, domain_plain, dotted, some_char, ne_eq,
    not_false_eq_true, and_self, if_true, String.ofList_toList]

theorem isValid_parse {text : String} (valid : isValid text = true) :
    ∃ parsed, parse? text = some parsed := Option.isSome_iff_exists.mp valid

theorem mem_valid {text : String} (valid : isValid text = true) {c : Char}
    (member : c ∈ text.toList) : c = '@' ∨ isPlain c = true := by
  obtain ⟨parsed, found⟩ := isValid_parse valid
  obtain ⟨split, _, user_plain, domain_plain⟩ := parse_parts found
  rw [split, List.mem_append, List.mem_cons] at member
  rcases member with before | at_sign | after
  · exact Or.inr (user_plain c before)
  · exact Or.inl at_sign
  · exact Or.inr (domain_plain c after)

theorem valid_free {text : String} (valid : isValid text = true) {c : Char} (other : c ≠ '@')
    (special : isPlain c = false) : c ∉ text.toList := by
  intro member
  rcases mem_valid valid member with at_sign | plain
  · exact other at_sign
  · rw [special] at plain
    cases plain

theorem valid_space {text : String} (valid : isValid text = true) : ' ' ∉ text.toList :=
  valid_free valid (by decide) (by decide)

theorem valid_comma {text : String} (valid : isValid text = true) : ',' ∉ text.toList :=
  valid_free valid (by decide) (by decide)

theorem valid_ne_empty {text : String} (valid : isValid text = true) : text ≠ "" := by
  rintro rfl
  exact absurd valid (by decide)

theorem valid_user {text : String} (valid : isValid text = true) :
    ∃ user, user? text = some user ∧ ∀ c ∈ user.toList, isPlain c = true := by
  obtain ⟨parsed, found⟩ := isValid_parse valid
  obtain ⟨_, _, user_plain, _⟩ := parse_parts found
  exact ⟨parsed.user, by rw [user?, found, Option.map_some], user_plain⟩

theorem user_plain {text user : String} (found : user? text = some user) {c : Char}
    (member : c ∈ user.toList) : isPlain c = true := by
  obtain ⟨parsed, parts, rfl⟩ := Option.map_eq_some_iff.mp found
  exact (parse_parts parts).2.2.1 c member

end MailExchange.Address
