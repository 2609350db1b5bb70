import MailExchange.Proofs.Access.Command

/-!
The lines of the access protocol: four bare words, a login of two words, and two verbs with an id of
one to nineteen digits. A line stands for one command, and only zeros before an id tell it from the
line of that command.
-/

namespace MailExchange.Access.Command

def bareWords : List String := ["startsecure", "list", "logout", "quit"]

def IsWord (text : String) : Prop := text ≠ "" ∧ ' ' ∉ text.toList

/-- One to nineteen ASCII digits. -/
structure IsNumber (text : String) : Prop where
  some_digit : 1 ≤ text.length
  short : text.length ≤ 19
  digits : ∀ c ∈ text.toList, '0' ≤ c ∧ c ≤ '9'

/-- The lines of the protocol, and the commands they spell. -/
inductive Spells : String → Command → Prop where
  | startSecure : Spells "startsecure" startSecure
  | list : Spells "list" list
  | logout : Spells "logout" logout
  | quit : Spells "quit" quit
  | login {user password : String} (user_word : IsWord user) (password_word : IsWord password) :
      Spells ("login " ++ user ++ " " ++ password) (login user password)
  | view {digits : String} {id : MessageId} (number : IsNumber digits)
      (converted : Text.word64? digits = some id) : Spells ("show " ++ digits) (view id)
  | delete {digits : String} {id : MessageId} (number : IsNumber digits)
      (converted : Text.word64? digits = some id) : Spells ("delete " ++ digits) (delete id)

def spelling (zeros : Nat) : Command → String
  | view id => "show " ++ (String.ofList (List.replicate zeros '0') ++ Text.decimal id.toNat)
  | delete id => "delete " ++ (String.ofList (List.replicate zeros '0') ++ Text.decimal id.toNat)
  | command => command.line

namespace IsNumber

variable {text : String}

theorem ne_nil (number : IsNumber text) : text.toList ≠ [] := by
  apply List.ne_nil_of_length_pos
  rw [String.length_toList]
  exact number.some_digit

theorem isDigit (number : IsNumber text) : ∀ c ∈ text.toList, Text.isDigit c = true :=
  fun c member => decide_eq_true (number.digits c member)

theorem small (number : IsNumber text) : Text.decimalValue text.toList < 10 ^ 19 := by
  have below := Text.decimalValue_lt number.isDigit
  rw [String.length_toList] at below
  exact Nat.lt_of_lt_of_le below (Nat.pow_le_pow_right (by decide) number.short)

theorem converted (number : IsNumber text) :
    Text.word64? text = some (UInt64.ofNat (Text.decimalValue text.toList)) ∧
      (UInt64.ofNat (Text.decimalValue text.toList)).toNat = Text.decimalValue text.toList := by
  have fits : Text.decimalValue text.toList < 2 ^ 64 := Nat.lt_trans number.small (by decide)
  refine ⟨?_, UInt64.toNat_ofNat_of_lt' fits⟩
  rw [Text.word64?, Text.word_digits number.ne_nil number.isDigit fits, Option.map_some]

end IsNumber

theorem id_some {text : String} {id : MessageId} :
    id? text = some id ↔ IsNumber text ∧ Text.word64? text = some id := by
  constructor
  · intro found
    rw [id?, Option.ite_none_right_eq_some] at found
    obtain ⟨short, read⟩ := found
    obtain ⟨value, decimal, rfl⟩ := Option.map_eq_some_iff.mp read
    obtain ⟨⟨some_digit, digits⟩, rfl⟩ := Text.decimal_some.mp decimal
    have number : IsNumber text :=
      ⟨String.length_toList ▸ List.length_pos_iff.mpr some_digit, short,
        fun c member => of_decide_eq_true (digits c member)⟩
    exact ⟨number, number.converted.1⟩
  · rintro ⟨number, converted⟩
    have read : Text.decimal? text.toList = some (Text.decimalValue text.toList) :=
      Text.decimal_some.mpr ⟨⟨number.ne_nil, number.isDigit⟩, rfl⟩
    rw [id?, if_pos number.short, read, Option.map_some, ← number.converted.1, converted]

theorem id_spelling {text : String} {id : MessageId} (found : id? text = some id) :
    id.toNat < 10 ^ 19 ∧
      ∃ zeros, text = String.ofList (List.replicate zeros '0') ++ Text.decimal id.toNat := by
  obtain ⟨number, converted⟩ := id_some.mp found
  rw [number.converted.1, Option.some.injEq] at converted
  rw [← converted, number.converted.2]
  refine ⟨number.small, ?_⟩
  obtain ⟨zeros, padded⟩ := Text.leading_zeros number.ne_nil number.isDigit
  refine ⟨zeros, ?_⟩
  rw [Text.decimal, ← String.ofList_append, ← padded, String.ofList_toList]

theorem login_some {text : String} {command : Command} : login? text = some command ↔
    ∃ user password, (IsWord user ∧ IsWord password) ∧ text = user ++ " " ++ password ∧
      command = login user password := by
  constructor
  · intro found
    rw [login?] at found
    split at found
    · rename_i user password pieces
      have glued : Text.join " " [user, password] = text := by
        rw [← pieces]
        exact Text.join_splitAtEach rfl text
      have free (word : String) (member : word ∈ [user, password]) : ' ' ∉ word.toList := by
        rw [← pieces] at member
        exact Text.mem_splitAtEach member
      split at found
      · cases found
      · rename_i some_char
        rw [not_or] at some_char
        refine ⟨user, password, ⟨⟨some_char.1, free user (by simp)⟩, some_char.2,
          free password (by simp)⟩, ?_, (Option.some.inj found).symm⟩
        rw [← glued, Text.join, String.intercalate_cons_cons, String.intercalate_singleton]
    · cases found
  · rintro ⟨user, password, words, rfl, rfl⟩
    exact login_words words

theorem parse_spells {text : String} {command : Command} (found : parse? text = some command) :
    Spells text command := by
  rcases Text.cut_cases text with cut | ⟨head, rest, rejoined, cut⟩
  · rw [parse?, cut] at found
    split at found
    case h_8 => cases found
    all_goals
      rename_i same
      cases same
    all_goals cases found
    · exact .startSecure
    · exact .list
    · exact .logout
    · exact .quit
  · rw [parse?, cut] at found
    split at found
    case h_8 => cases found
    all_goals
      rename_i same
      cases same
    · obtain ⟨user, password, ⟨user_word, password_word⟩, rfl, rfl⟩ := login_some.mp found
      have glued : text = "login " ++ user ++ " " ++ password := by
        rw [rejoined]
        simp only [String.append_assoc]
        rfl
      rw [glued]
      exact .login user_word password_word
    · obtain ⟨id, read, rfl⟩ := Option.map_eq_some_iff.mp found
      obtain ⟨number, converted⟩ := id_some.mp read
      rw [rejoined]
      exact .view number converted
    · obtain ⟨id, read, rfl⟩ := Option.map_eq_some_iff.mp found
      obtain ⟨number, converted⟩ := id_some.mp read
      rw [rejoined]
      exact .delete number converted

theorem spells_parse {text : String} {command : Command} (spells : Spells text command) :
    parse? text = some command := by
  cases spells with
  | startSecure => rfl
  | list => rfl
  | logout => rfl
  | quit => rfl
  | @login user password user_word password_word =>
      have formed : (login user password).WellFormed := ⟨user_word, password_word⟩
      have written : (login user password).line = "login " ++ user ++ " " ++ password := rfl
      rw [← written, parse_line formed]
  | view number converted =>
      rw [parse_view, id_some.mpr ⟨number, converted⟩, Option.map_some]
  | delete number converted =>
      rw [parse_delete, id_some.mpr ⟨number, converted⟩, Option.map_some]

theorem parse_iff {text : String} {command : Command} :
    parse? text = some command ↔ Spells text command := ⟨parse_spells, spells_parse⟩

/-- What a line spells is well-formed, and its own line is that line but for zeros before the id. -/
theorem Spells.spelled {text : String} {command : Command} (spells : Spells text command) :
    command.WellFormed ∧ ∃ zeros, text = command.spelling zeros := by
  cases spells with
  | startSecure => exact ⟨trivial, 0, rfl⟩
  | list => exact ⟨trivial, 0, rfl⟩
  | logout => exact ⟨trivial, 0, rfl⟩
  | quit => exact ⟨trivial, 0, rfl⟩
  | login user_word password_word => exact ⟨⟨user_word, password_word⟩, 0, rfl⟩
  | view number converted =>
      obtain ⟨small, zeros, padded⟩ := id_spelling (id_some.mpr ⟨number, converted⟩)
      exact ⟨small, zeros, congrArg ("show " ++ ·) padded⟩
  | delete number converted =>
      obtain ⟨small, zeros, padded⟩ := id_spelling (id_some.mpr ⟨number, converted⟩)
      exact ⟨small, zeros, congrArg ("delete " ++ ·) padded⟩

theorem parse_line_iff {command : Command} :
    parse? command.line = some command ↔ command.WellFormed :=
  ⟨fun found => (parse_iff.mp found).spelled.1, parse_line⟩

/-- Which lines are read, that the digits of an id always convert to 64 bits, and that a command that is
read comes back from its own line, which is the line that was read but for zeros before the id. -/
theorem lines_accepted :
    (∀ text, (∃ command, parse? text = some command) ↔
      text ∈ bareWords ∨
      (∃ user password, IsWord user ∧ IsWord password ∧
        text = "login " ++ user ++ " " ++ password) ∨
      ∃ verb ∈ ["show", "delete"], ∃ digits, IsNumber digits ∧ text = verb ++ " " ++ digits) ∧
    (∀ digits, IsNumber digits → ∃ id, Text.word64? digits = some id ∧
      parse? ("show " ++ digits) = some (view id) ∧
      parse? ("delete " ++ digits) = some (delete id)) ∧
    ∀ text command, parse? text = some command →
      parse? command.line = some command ∧ ∃ zeros, text = command.spelling zeros := by
  refine ⟨fun text => ⟨?_, ?_⟩, ?_, ?_⟩
  · rintro ⟨command, found⟩
    cases parse_iff.mp found with
    | login user_word password_word =>
        exact Or.inr (Or.inl ⟨_, _, user_word, password_word, rfl⟩)
    | view number _ => exact Or.inr (Or.inr ⟨"show", by decide, _, number, rfl⟩)
    | delete number _ => exact Or.inr (Or.inr ⟨"delete", by decide, _, number, rfl⟩)
    | _ => exact Or.inl (by decide)
  · rintro (bare | ⟨user, password, user_word, password_word, rfl⟩ |
      ⟨verb, known, digits, number, rfl⟩)
    · simp only [bareWords, List.mem_cons, List.not_mem_nil, or_false] at bare
      rcases bare with rfl | rfl | rfl | rfl
      · exact ⟨_, parse_iff.mpr .startSecure⟩
      · exact ⟨_, parse_iff.mpr .list⟩
      · exact ⟨_, parse_iff.mpr .logout⟩
      · exact ⟨_, parse_iff.mpr .quit⟩
    · exact ⟨_, parse_iff.mpr (.login user_word password_word)⟩
    · simp only [List.mem_cons, List.not_mem_nil, or_false] at known
      rcases known with rfl | rfl
      · exact ⟨_, parse_iff.mpr (.view number number.converted.1)⟩
      · exact ⟨_, parse_iff.mpr (.delete number number.converted.1)⟩
  · intro digits number
    have converted := number.converted.1
    exact ⟨_, converted, parse_iff.mpr (.view number converted),
      parse_iff.mpr (.delete number converted)⟩
  · intro text command found
    obtain ⟨formed, spelled⟩ := (parse_iff.mp found).spelled
    exact ⟨parse_line formed, spelled⟩

example : parse? "show 007" = some (view 7) ∧ (view 7).spelling 2 = "show 007" := by decide

end MailExchange.Access.Command
