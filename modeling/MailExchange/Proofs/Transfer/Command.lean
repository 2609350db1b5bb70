import MailExchange.Proofs.Text.Split
import MailExchange.Transfer.Command

namespace MailExchange.Transfer.Command

def IsTag (text : String) : Prop :=
  ∃ digits padding, text.toList = digits ++ padding ∧ digits ≠ [] ∧
    (∀ c ∈ digits, isTagChar c = true) ∧ ∀ c ∈ padding, c = '='

/-- A command whose line says all there is to it. -/
def WellFormed : Command → Prop
  | recipients addresses => addresses ≠ [] ∧
      ∀ address ∈ addresses, address ≠ "" ∧ ' ' ∉ address.toList ∧ ',' ∉ address.toList
  | sender address => address ≠ "" ∧ ' ' ∉ address.toList
  | subject text => '\n' ∉ text.toList
  | body text => '\n' ∉ text.toList
  | tag text => IsTag text
  | begin => True
  | send => True
  | quit => True

theorem word_some {text word : String} :
    word? text = some word ↔ word = text ∧ text ≠ "" ∧ ' ' ∉ text.toList := by
  rw [word?]
  split
  · rename_i bad
    constructor
    · intro found
      cases found
    · rintro ⟨_, some_char, free⟩
      rcases bad with empty | space
      · exact absurd empty some_char
      · exact absurd (Text.hasChar_iff.mp space) free
  · rename_i good
    rw [not_or, Text.hasChar_iff] at good
    rw [Option.some.injEq]
    exact ⟨fun same => ⟨same.symm, good⟩, fun found => found.1.symm⟩

theorem text_some {text read : String} :
    text? text = some read ↔ read = text ∧ '\n' ∉ text.toList := by
  rw [text?]
  split
  · rename_i broken
    constructor
    · intro found
      cases found
    · rintro ⟨_, one_line⟩
      exact absurd (Text.hasChar_iff.mp broken) one_line
  · rename_i one_line
    rw [Text.hasChar_iff] at one_line
    rw [Option.some.injEq]
    exact ⟨fun same => ⟨same.symm, one_line⟩, fun found => found.1.symm⟩

theorem tag_some {text read : String} : tag? text = some read ↔ read = text ∧ IsTag text := by
  have whole := List.prefix_iff_eq_append.mp (List.takeWhile_prefix isTagChar (l := text.toList))
  simp only [tag?]
  constructor
  · intro found
    split at found
    · rename_i good
      refine ⟨(Option.some.inj found).symm, _, _, whole.symm, good.1,
        List.all_eq_true.mp List.all_takeWhile, ?_⟩
      intro c member
      exact beq_iff_eq.mp (List.all_eq_true.mp good.2 c member)
    · cases found
  · rintro ⟨rfl, digits, padding, cut, some_digit, coded, padded⟩
    have taken : read.toList.takeWhile isTagChar = digits := by
      rw [cut, List.takeWhile_append_of_pos coded]
      cases padding with
      | nil => rw [List.takeWhile_nil, List.append_nil]
      | cons c rest =>
          have pad := padded c List.mem_cons_self
          subst pad
          rw [List.takeWhile_cons, if_neg (by decide), List.append_nil]
    rw [taken, cut, List.drop_left, if_pos]
    refine ⟨some_digit, List.all_eq_true.mpr ?_⟩
    intro c member
    exact beq_iff_eq.mpr (padded c member)

theorem recipients_some {text : String} {addresses : List String} :
    recipients? text = some addresses ↔
      addresses = Text.splitAtEach ',' text ∧ "" ∉ Text.splitAtEach ',' text := by
  simp only [recipients?, List.contains_eq_mem, decide_eq_true_eq]
  split
  · rename_i empty
    constructor
    · intro found
      cases found
    · intro good
      exact absurd empty good.2
  · rename_i full
    rw [Option.some.injEq]
    exact ⟨fun same => ⟨same.symm, full⟩, fun found => found.1.symm⟩

theorem parse_recipients (text : String) :
    parse? ("to " ++ text) = ((word? text).bind recipients?).map recipients := by
  rw [parse?, show "to " = "to" ++ " " from rfl, Text.cut_word (by decide)]
  rfl

theorem parse_sender (text : String) : parse? ("from " ++ text) = (word? text).map sender := by
  rw [parse?, show "from " = "from" ++ " " from rfl, Text.cut_word (by decide)]
  rfl

theorem parse_subject (text : String) : parse? ("subject " ++ text) = (text? text).map subject := by
  rw [parse?, show "subject " = "subject" ++ " " from rfl, Text.cut_word (by decide)]
  rfl

theorem parse_body (text : String) : parse? ("data " ++ text) = (text? text).map body := by
  rw [parse?, show "data " = "data" ++ " " from rfl, Text.cut_word (by decide)]
  rfl

theorem parse_tag (text : String) : parse? ("hash " ++ text) = (tag? text).map tag := by
  rw [parse?, show "hash " = "hash" ++ " " from rfl, Text.cut_word (by decide)]
  rfl

theorem read_recipients {addresses : List String} (formed : (recipients addresses).WellFormed) :
    (word? (Text.join "," addresses)).bind recipients? = some addresses := by
  obtain ⟨some_address, good⟩ := formed
  have split : Text.splitAtEach ',' (Text.join "," addresses) = addresses :=
    Text.splitAtEach_join rfl some_address fun address member => (good address member).2.2
  have some_char : Text.join "," addresses ≠ "" := by
    intro empty
    rw [empty] at split
    rw [← split] at good
    exact (good "" List.mem_cons_self).1 rfl
  have free : ' ' ∉ (Text.join "," addresses).toList := by
    intro member
    rcases Text.mem_join member with between | ⟨address, present, inside⟩
    · exact absurd between (by decide)
    · exact (good address present).2.1 inside
  rw [word_some.mpr ⟨rfl, some_char, free⟩, Option.bind_some, recipients_some, split]
  exact ⟨rfl, fun member => (good "" member).1 rfl⟩

theorem parse_line {command : Command} (formed : command.WellFormed) :
    parse? command.line = some command := by
  cases command with
  | begin => rfl
  | send => rfl
  | quit => rfl
  | recipients addresses => rw [line, parse_recipients, read_recipients formed, Option.map_some]
  | sender address => rw [line, parse_sender, word_some.mpr ⟨rfl, formed⟩, Option.map_some]
  | subject text => rw [line, parse_subject, text_some.mpr ⟨rfl, formed⟩, Option.map_some]
  | body text => rw [line, parse_body, text_some.mpr ⟨rfl, formed⟩, Option.map_some]
  | tag text => rw [line, parse_tag, tag_some.mpr ⟨rfl, formed⟩, Option.map_some]

theorem written_recipients {text : String} {addresses : List String}
    (found : (word? text).bind recipients? = some addresses) :
    (recipients addresses).WellFormed ∧ Text.join "," addresses = text := by
  obtain ⟨word, read, listed⟩ := Option.bind_eq_some_iff.mp found
  obtain ⟨rfl, _, free⟩ := word_some.mp read
  obtain ⟨rfl, full⟩ := recipients_some.mp listed
  have joined : Text.join "," (Text.splitAtEach ',' word) = word := Text.join_splitAtEach rfl word
  refine ⟨⟨Text.splitAtEach_ne_nil word, ?_⟩, joined⟩
  intro address member
  refine ⟨?_, ?_, Text.mem_splitAtEach member⟩
  · rintro rfl
    exact full member
  · intro space
    rw [← joined] at free
    exact free (Text.mem_join_of_mem member space)

/-- A line that is read is the line of what it is read as, but for two bare words. -/
theorem line_parse {text : String} {command : Command} (found : parse? text = some command) :
    command.WellFormed ∧ (command.line = text ∨ (text = "subject" ∧ command = subject "") ∨
      (text = "data" ∧ command = body "")) := by
  rcases Text.cut_cases text with cut | ⟨head, rest, rejoined, cut⟩
  · rw [parse?, cut] at found
    split at found
    case h_11 => cases found
    all_goals
      rename_i same
      cases same
    all_goals cases found
    · exact ⟨trivial, Or.inl rfl⟩
    · exact ⟨trivial, Or.inl rfl⟩
    · exact ⟨trivial, Or.inl rfl⟩
    · exact ⟨List.not_mem_nil, Or.inr (Or.inl ⟨rfl, rfl⟩)⟩
    · exact ⟨List.not_mem_nil, Or.inr (Or.inr ⟨rfl, rfl⟩)⟩
  · rw [parse?, cut] at found
    split at found
    case h_11 => cases found
    all_goals
      rename_i same
      cases same
    · obtain ⟨addresses, read, rfl⟩ := Option.map_eq_some_iff.mp found
      obtain ⟨formed, joined⟩ := written_recipients read
      rw [line, joined, rejoined]
      exact ⟨formed, Or.inl rfl⟩
    · obtain ⟨address, read, rfl⟩ := Option.map_eq_some_iff.mp found
      obtain ⟨rfl, formed⟩ := word_some.mp read
      exact ⟨formed, Or.inl rejoined.symm⟩
    · obtain ⟨content, read, rfl⟩ := Option.map_eq_some_iff.mp found
      obtain ⟨rfl, formed⟩ := text_some.mp read
      exact ⟨formed, Or.inl rejoined.symm⟩
    · obtain ⟨content, read, rfl⟩ := Option.map_eq_some_iff.mp found
      obtain ⟨rfl, formed⟩ := text_some.mp read
      exact ⟨formed, Or.inl rejoined.symm⟩
    · obtain ⟨content, read, rfl⟩ := Option.map_eq_some_iff.mp found
      obtain ⟨rfl, formed⟩ := tag_some.mp read
      exact ⟨formed, Or.inl rejoined.symm⟩

theorem line_respelled {text : String} {command : Command} (found : parse? text = some command) :
    command.line = if text = "subject" ∨ text = "data" then text ++ " " else text := by
  by_cases bare : text = "subject" ∨ text = "data"
  · rw [if_pos bare]
    rcases bare with rfl | rfl
    · cases (show parse? "subject" = some (subject "") from rfl).symm.trans found
      rfl
    · cases (show parse? "data" = some (body "") from rfl).symm.trans found
      rfl
  · rw [if_neg bare]
    rw [not_or] at bare
    obtain ⟨_, same | ⟨empty, _⟩ | ⟨empty, _⟩⟩ := line_parse found
    · exact same
    · exact absurd empty bare.1
    · exact absurd empty bare.2

/-- A command is read from its own line exactly if it is well-formed, and whatever is read from a line
is well-formed and has that line for its own, up to the space behind a bare word. -/
theorem written_and_read :
    (∀ command : Command, parse? command.line = some command ↔ command.WellFormed) ∧
      ∀ text command, parse? text = some command →
        command.WellFormed ∧
          command.line = if text = "subject" ∨ text = "data" then text ++ " " else text := by
  constructor
  · intro command
    exact ⟨fun found => (line_parse found).1, parse_line⟩
  · intro text command found
    exact ⟨(line_parse found).1, line_respelled found⟩

example : parse? (recipients ["dib,gaz"]).line = some (recipients ["dib", "gaz"]) := by decide

end MailExchange.Transfer.Command
