import MailExchange.Proofs.Access.Replies
import MailExchange.Proofs.Address
import MailExchange.Proofs.Transfer.Server
import Mathlib.Data.List.Basic

namespace MailExchange.Address

structure Part (text : String) : Prop where
  some_char : text ≠ ""
  free : ∀ c ∈ text.toList, c ≠ '@' ∧ c ≠ ',' ∧ Text.isBlank c = false

/-- Two parts and a dot between them. The parts may have dots of their own. -/
def Dotted (domain : String) : Prop :=
  ∃ first second, domain = first ++ "." ++ second ∧ Part first ∧ Part second

theorem isPlain_iff {c : Char} :
    isPlain c = true ↔ c ≠ '@' ∧ c ≠ ',' ∧ Text.isBlank c = false := by
  simp only [isPlain, Bool.and_eq_true, bne_iff_ne, Bool.not_eq_true', and_assoc]

theorem Part.plain {text : String} (part : Part text) : ∀ c ∈ text.toList, isPlain c = true :=
  fun c member => isPlain_iff.mpr (part.free c member)

theorem Part.of_plain {text : String} (some_char : text ≠ "")
    (plain : ∀ c ∈ text.toList, isPlain c = true) : Part text :=
  ⟨some_char, fun c member => isPlain_iff.mp (plain c member)⟩

/-- A dot is inside exactly if it can be told which characters stand on either side of it. -/
theorem hasInnerDot_iff {cs : List Char} : hasInnerDot cs = true ↔
    ∃ first second, cs = first ++ '.' :: second ∧ first ≠ [] ∧ second ≠ [] := by
  rw [hasInnerDot, List.contains_iff_mem]
  constructor
  · intro inside
    have some_rest : cs.drop 1 ≠ [] := by
      intro empty
      rw [empty] at inside
      cases inside
    obtain ⟨before, after, cut⟩ := List.append_of_mem inside
    obtain ⟨c, rest, rfl⟩ : ∃ c rest, cs = c :: rest :=
      List.exists_cons_of_ne_nil fun empty => some_rest (by rw [empty, List.drop_nil])
    rw [List.drop_one, List.tail_cons] at cut some_rest
    refine ⟨c :: before, after ++ [rest.getLast some_rest], ?_, List.cons_ne_nil c before,
      List.append_ne_nil_of_right_ne_nil after (List.cons_ne_nil _ [])⟩
    calc c :: rest
      _ = c :: (rest.dropLast ++ [rest.getLast some_rest]) := by
          rw [List.dropLast_append_getLast some_rest]
      _ = c :: before ++ '.' :: (after ++ [rest.getLast some_rest]) := by
          rw [cut, List.append_assoc, List.cons_append, List.cons_append]
  · rintro ⟨first, second, rfl, some_first, some_second⟩
    obtain ⟨c, first, rfl⟩ := List.exists_cons_of_ne_nil some_first
    rw [List.cons_append, List.drop_one, List.tail_cons,
      List.dropLast_append_of_ne_nil (List.cons_ne_nil '.' second),
      List.dropLast_cons_of_ne_nil some_second]
    exact List.mem_append_right first List.mem_cons_self

theorem dotted_iff {domain : String} : Dotted domain ↔
    (∀ c ∈ domain.toList, isPlain c = true) ∧ hasInnerDot domain.toList = true := by
  rw [hasInnerDot_iff]
  constructor
  · rintro ⟨first, second, rfl, first_part, second_part⟩
    have chars : (first ++ "." ++ second).toList = first.toList ++ '.' :: second.toList := by
      simp only [String.toList_append, List.append_assoc]
      rfl
    rw [chars]
    refine ⟨?_, _, _, rfl, mt String.toList_eq_nil_iff.mp first_part.some_char,
      mt String.toList_eq_nil_iff.mp second_part.some_char⟩
    intro c member
    rcases List.mem_append.mp member with before | here_or_after
    · exact first_part.plain c before
    · rcases List.mem_cons.mp here_or_after with rfl | after
      · decide
      · exact second_part.plain c after
  · rintro ⟨plain, first, second, cut, some_first, some_second⟩
    rw [cut] at plain
    refine ⟨String.ofList first, String.ofList second, ?_, .of_plain ?_ ?_, .of_plain ?_ ?_⟩
    · apply String.toList_inj.mp
      simp only [cut, String.toList_append, String.toList_ofList, List.append_assoc]
      rfl
    · simpa only [ne_eq, String.ofList_eq_empty_iff] using some_first
    · rw [String.toList_ofList]
      exact fun c member => plain c (List.mem_append_left _ member)
    · simpa only [ne_eq, String.ofList_eq_empty_iff] using some_second
    · rw [String.toList_ofList]
      exact fun c member => plain c (List.mem_append_right _ (List.mem_cons_of_mem _ member))

theorem parse_dotted {text : String} {parsed : Address} (found : parse? text = some parsed) :
    hasInnerDot parsed.domain.toList = true := by
  simp only [parse?] at found
  split at found
  · split at found
    · rename_i checked
      rw [← Option.some.inj found, String.toList_ofList]
      exact checked.2.2
    · cases found
  · cases found

theorem parse_some {text user domain : String} : parse? text = some ⟨user, domain⟩ ↔
    text = user ++ "@" ++ domain ∧ Part user ∧ Dotted domain := by
  constructor
  · intro found
    obtain ⟨whole, some_user, user_plain, domain_plain⟩ := parse_parts found
    refine ⟨?_, .of_plain some_user user_plain, dotted_iff.mpr ⟨domain_plain, parse_dotted found⟩⟩
    apply String.toList_inj.mp
    rw [whole, String.toList_append, String.toList_append, List.append_assoc]
    rfl
  · rintro ⟨rfl, user_part, domain_dotted⟩
    obtain ⟨domain_plain, dotted⟩ := dotted_iff.mp domain_dotted
    exact parse_made user_part.some_char user_part.plain (List.all_eq_true.mpr domain_plain) dotted

theorem isValid_iff {text : String} : isValid text = true ↔
    ∃ user first second, text = user ++ "@" ++ first ++ "." ++ second ∧
      Part user ∧ Part first ∧ Part second := by
  rw [isValid, Option.isSome_iff_exists]
  constructor
  · rintro ⟨⟨user, domain⟩, found⟩
    obtain ⟨rfl, user_part, first, second, rfl, first_part, second_part⟩ := parse_some.mp found
    refine ⟨user, first, second, ?_, user_part, first_part, second_part⟩
    simp only [String.append_assoc]
  · rintro ⟨user, first, second, rfl, user_part, first_part, second_part⟩
    refine ⟨⟨user, first ++ "." ++ second⟩, parse_some.mpr ⟨?_, user_part, first, second, rfl,
      first_part, second_part⟩⟩
    simp only [String.append_assoc]

theorem parse_parts_iff {text user domain : String} :
    user? text = some user ∧ domain? text = some domain ↔ parse? text = some ⟨user, domain⟩ := by
  rw [user?, domain?]
  rcases parse? text with _ | ⟨found_user, found_domain⟩
  · simp only [Option.map_none, reduceCtorEq, and_self]
  · simp only [Option.map_some, Option.some.injEq, Address.mk.injEq]

section Lines

variable {addresses : List String}

theorem words_pair {word rest : String} (word_free : ' ' ∉ word.toList)
    (rest_free : ' ' ∉ rest.toList) : Text.splitAtEach ' ' (word ++ " " ++ rest) = [word, rest] := by
  have spaced : word ++ " " ++ rest = Text.join " " [word, rest] := by
    rw [Text.join, String.intercalate_cons_cons, String.intercalate_singleton]
  rw [spaced]
  apply Text.splitAtEach_join rfl (List.cons_ne_nil _ _)
  intro piece member
  rcases List.mem_pair.mp member with rfl | rfl
  · exact word_free
  · exact rest_free

theorem words_recipients (valid : ∀ address ∈ addresses, isValid address = true) :
    Text.splitAtEach ' ' (Transfer.Command.recipients addresses).line =
      ["to", Text.join "," addresses] := by
  rw [Transfer.Command.line, show "to " = "to" ++ " " from rfl]
  apply words_pair (by decide)
  exact Text.join_free (by decide) fun address member => valid_space (valid address member)

theorem words_sender {address : String} (valid : isValid address = true) :
    Text.splitAtEach ' ' (Transfer.Command.sender address).line = ["from", address] := by
  rw [Transfer.Command.line, show "from " = "from" ++ " " from rfl]
  exact words_pair (by decide) (valid_space valid)

end Lines

/-- Addresses are what has a user, an at sign and a domain with a dot inside it, and both parts are
read from exactly those texts. Lists of addresses fall into the same addresses again, and an address is
one word of any line that holds it. -/
theorem splits_exactly :
    (∀ text, isValid text = true ↔
      ∃ user first second, text = user ++ "@" ++ first ++ "." ++ second ∧
        Part user ∧ Part first ∧ Part second) ∧
    (∀ text, (user? text).isSome = isValid text ∧ (domain? text).isSome = isValid text) ∧
    (∀ text user domain, user? text = some user ∧ domain? text = some domain ↔
      text = user ++ "@" ++ domain ∧ Part user ∧ Dotted domain) ∧
    (∀ mail : Mail, mail.recipients ≠ [] →
      (∀ recipient ∈ mail.recipients, isValid recipient = true) →
      Text.splitAtEach ',' mail.joinedRecipients = mail.recipients ∧
      Text.splitAtEach ' ' (Transfer.Command.recipients mail.recipients).line =
        ["to", mail.joinedRecipients] ∧
      Transfer.Command.parse? (Transfer.Command.recipients mail.recipients).line =
        some (.recipients mail.recipients)) ∧
    ∀ address, isValid address = true →
      ' ' ∉ address.toList ∧
      Text.splitAtEach ' ' (Transfer.Command.sender address).line = ["from", address] ∧
      Transfer.Command.parse? (Transfer.Command.sender address).line = some (.sender address) ∧
      ∀ id mail, mail.sender = address →
        Access.Client.readSummary (Access.summaryLine (id, mail)) =
          .ok ⟨id, address, mail.subject⟩ := by
  refine ⟨fun _ => isValid_iff, fun text => ?_, fun _ _ _ => parse_parts_iff.trans parse_some,
    fun mail some_recipient valid => ?_, fun address valid => ?_⟩
  · rw [user?, domain?, isValid, Option.isSome_map, Option.isSome_map]
    exact ⟨rfl, rfl⟩
  · refine ⟨?_, words_recipients valid,
      Transfer.Command.parse_line (Transfer.Command.recipients_formed some_recipient valid)⟩
    exact Text.splitAtEach_join rfl some_recipient fun recipient member =>
      valid_comma (valid recipient member)
  · have free := valid_space valid
    refine ⟨free, words_sender valid,
      Transfer.Command.parse_line (Transfer.Command.sender_formed valid), ?_⟩
    rintro id mail rfl
    have listed : Access.summaryLine (id, mail) =
        Access.Answer.summaryLine ⟨id, mail.sender, mail.subject⟩ := by
      rw [Access.summaryLine, Access.Answer.summaryLine]
    rw [listed]
    exact Access.Client.readSummary_line free

theorem accented_address_split :
    let address := "gäz@sub.earth.planet"
    (∃ user first second, address = user ++ "@" ++ first ++ "." ++ second ∧
      Part user ∧ Part first ∧ Part second) ∧
    Text.splitAtEach ',' (Text.join "," [address, address]) = [address, address] ∧
    Transfer.Command.parse? ("from " ++ address) = some (.sender address) := by
  intro address
  have valid : isValid address = true := by decide
  have both : ∀ recipient ∈ [address, address], isValid recipient = true := by
    intro recipient member
    rcases List.mem_pair.mp member with rfl | rfl <;> exact valid
  obtain ⟨made, _, _, lists, words⟩ := splits_exactly
  have listed := lists ⟨address, [address, address], "", "", none⟩ (List.cons_ne_nil _ _) both
  exact ⟨(made address).mp valid, listed.1, (words address valid).2.2.1⟩

end MailExchange.Address
