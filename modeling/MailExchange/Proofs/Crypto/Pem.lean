import MailExchange.Crypto.Pem
import MailExchange.Proofs.Bytes.Encoding
import MailExchange.Proofs.Text.Split
import MailExchange.Proofs.Text.Utf8

namespace MailExchange.Pem

open Text (Bytes)

variable {label : String} {wanted : List String} {content : Bytes}

theorem findBlock_none {lines : List Line}
    (unwanted : ∀ line ∈ lines, ∀ label ∈ wanted, beginLine label ≠ line) :
    findBlock wanted lines = none := by
  induction lines with
  | nil => rfl
  | cons line lines ih =>
      have unmatched : wanted.find? (beginLine · == line) = none := by
        rw [List.find?_eq_none]
        intro label member same
        exact unwanted line List.mem_cons_self label member (eq_of_beq same)
      rw [findBlock, unmatched]
      exact ih fun other member => unwanted other (List.mem_cons_of_mem line member)

theorem mem_wrapped {count : Nat} {text line : Line} (member : line ∈ wrapped count text) :
    line ⊆ text := by
  induction count generalizing text with
  | zero => cases member
  | succ count ih =>
      rw [wrapped] at member
      split at member
      · cases member
      · rcases List.mem_cons.mp member with rfl | later
        · exact List.take_subset 64 text
        · intro c inside
          exact List.mem_of_mem_drop (ih later inside)

theorem trimmed_prefix (line : Line) : trimmed line <+: line := by
  rw [trimmed, ← List.reverse_suffix, List.reverse_reverse]
  exact List.dropWhile_suffix _

def fileLines (label : String) (content : Bytes) : List Line :=
  let text := Base64.encodeChars content
  beginLine label :: wrapped text.length text ++ [endLine label]

theorem mem_encodeChars {c : Char} (member : c ∈ Base64.encodeChars content) :
    c.toNat < 128 ∧ c ≠ '-' ∧ c ≠ '\n' := by
  have here : c ∈ (Base64.encode content).toList := by
    rwa [Base64.encode, String.toList_ofList]
  refine ⟨Base64.encode_ascii content c here, ?_, ?_⟩
  · rintro rfl
    exact Base64.encode_free content (by decide) (by decide) here
  · rintro rfl
    exact Base64.encode_free content (by decide) (by decide) here

theorem mem_fileLines {line : Line} (member : line ∈ fileLines label content) :
    line = beginLine label ∨ line = endLine label ∨ line ⊆ Base64.encodeChars content := by
  rw [fileLines, List.cons_append, List.mem_cons, List.mem_append, List.mem_singleton] at member
  rcases member with first | middle | last
  · exact Or.inl first
  · exact Or.inr (Or.inr (mem_wrapped middle))
  · exact Or.inr (Or.inl last)

def IsLabel (label : String) : Prop :=
  ∀ c ∈ beginLine label ++ endLine label, c.toNat < 128 ∧ c ≠ '\n'

instance (label : String) : Decidable (IsLabel label) :=
  List.decidableBAll (fun c : Char => c.toNat < 128 ∧ c ≠ '\n')
    (beginLine label ++ endLine label)

theorem lines_block (labelled : IsLabel label) (content : Bytes) :
    lines (block label content) = (fileLines label content ++ [[]]).map trimmed := by
  have plain (line : Line) (member : line ∈ fileLines label content) :
      ∀ c ∈ line, c.toNat < 128 ∧ c ≠ '\n' := by
    intro c inside
    rcases mem_fileLines member with rfl | rfl | encoded
    · exact labelled c (List.mem_append_left _ inside)
    · exact labelled c (List.mem_append_right _ inside)
    · obtain ⟨ascii, _, one_line⟩ := mem_encodeChars (encoded inside)
      exact ⟨ascii, one_line⟩
  have ascii : ∀ c ∈ (fileLines label content).flatMap (· ++ ['\n']), c.toNat < 128 := by
    intro c member
    obtain ⟨line, present, inside⟩ := List.mem_flatMap.mp member
    rcases List.mem_append.mp inside with inside | last
    · exact (plain line present c inside).1
    · rw [List.mem_singleton.mp last]
      decide
  have whole : block label content =
      Text.utf8 (String.ofList ((fileLines label content).flatMap (· ++ ['\n']))) := rfl
  rw [lines, whole, Text.chars_utf8 ascii, Text.pieces_lines]
  intro line member inside
  exact (plain line member '\n' inside).2 rfl

theorem findBlock_block (labelled : IsLabel label)
    (other : ∀ name ∈ wanted,
      ¬ beginLine name <+: beginLine label ∧ ¬ beginLine name <+: endLine label) :
    findBlock wanted (lines (block label content)) = none := by
  apply findBlock_none
  rw [lines_block labelled]
  intro line member name is_wanted begins
  obtain ⟨whole, present, rfl⟩ := List.mem_map.mp member
  have starts : beginLine name <+: whole := begins ▸ trimmed_prefix whole
  have dash : '-' ∈ beginLine name := List.mem_append_left _ (List.mem_append_left _ (by decide))
  rcases List.mem_append.mp present with inside | last
  · rcases mem_fileLines inside with rfl | rfl | encoded
    · exact (other name is_wanted).1 starts
    · exact (other name is_wanted).2 starts
    · exact (mem_encodeChars (encoded (starts.subset dash))).2.1 rfl
  · rw [List.mem_singleton.mp last] at starts
    cases starts.subset dash

theorem readPrivateKey_publicKey (key : Rsa.PublicKey) : readPrivateKey (publicKey key) = none := by
  have unfound : findBlock [privateLabel, framedLabel] (lines (publicKey key)) = none :=
    findBlock_block (by decide) (by decide)
  rw [readPrivateKey, block?, unfound]
  rfl

theorem readPublicKey_privateKey (key : Rsa.PrivateKey) :
    readPublicKey (privateKey key) = none := by
  have unfound : findBlock [publicLabel] (lines (privateKey key)) = none :=
    findBlock_block (by decide) (by decide)
  rw [readPublicKey, block?, unfound]
  rfl

end MailExchange.Pem
