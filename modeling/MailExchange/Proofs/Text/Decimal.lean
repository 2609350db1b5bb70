import MailExchange.Text.Basic
import Mathlib.Algebra.Group.Nat.Defs
import Mathlib.Data.List.Induction

namespace MailExchange.Text

theorem decimalValue_ofDigitChars (digits : List Char) :
    decimalValue digits = Nat.ofDigitChars 10 digits 0 := by
  rw [decimalValue, Nat.ofDigitChars_eq_foldl]
  congr 1
  funext value c
  rw [Nat.mul_comm value 10, digitValue]

theorem toDigits_isDigit {value : Nat} {c : Char} (member : c ∈ Nat.toDigits 10 value) :
    isDigit c = true := by
  have digit := Nat.isDigit_of_mem_toDigits (by decide) (by decide) member
  simp only [Char.isDigit, Bool.and_eq_true, decide_eq_true_eq] at digit
  exact decide_eq_true ⟨digit.1, digit.2⟩

theorem decimal_toDigits (value : Nat) : decimal? (Nat.toDigits 10 value) = some value := by
  have digits : (Nat.toDigits 10 value).all isDigit = true :=
    List.all_eq_true.mpr fun _ member => toDigits_isDigit member
  rw [decimal?, if_pos ⟨Nat.toDigits_ne_nil, digits⟩, decimalValue_ofDigitChars,
    Nat.ofDigitChars_ten_toDigits]

theorem decimal_some {digits : List Char} {value : Nat} : decimal? digits = some value ↔
    (digits ≠ [] ∧ ∀ c ∈ digits, isDigit c = true) ∧ decimalValue digits = value := by
  rw [decimal?, Option.ite_none_right_eq_some, List.all_eq_true, Option.some.injEq]

theorem word_digits {bits : Nat} {text : String} (some_digit : text.toList ≠ [])
    (digits : ∀ c ∈ text.toList, isDigit c = true)
    (small : decimalValue text.toList < Nat.pow 2 bits) :
    word? bits text = some (decimalValue text.toList) := by
  have read : decimal? text.toList = some (decimalValue text.toList) :=
    decimal_some.mpr ⟨⟨some_digit, digits⟩, rfl⟩
  have unsigned (rest : List Char) : text.toList ≠ '+' :: rest := by
    intro signed
    have plus := digits '+' (by rw [signed]; exact List.mem_cons_self)
    exact absurd plus (by decide)
  rw [word?]
  split
  · rename_i value found
    split at found
    · rename_i rest signed
      exact absurd signed (unsigned rest)
    · rw [read] at found
      rw [← Option.some.inj found, if_pos small]
  · rename_i found
    split at found
    · rename_i rest signed
      exact absurd signed (unsigned rest)
    · rw [read] at found
      cases found

theorem word_toString {bits value : Nat} (small : value < Nat.pow 2 bits) :
    word? bits (toString value) = some value := by
  have text : (toString value).toList = Nat.toDigits 10 value := Nat.toList_repr
  have same : decimalValue (toString value).toList = value := by
    rw [text]
    exact (decimal_some.mp (decimal_toDigits value)).2
  have some_digit : (toString value).toList ≠ [] := by
    rw [text]
    exact Nat.toDigits_ne_nil
  have digits : ∀ c ∈ (toString value).toList, isDigit c = true := by
    rw [text]
    exact fun _ => toDigits_isDigit
  have fits : decimalValue (toString value).toList < Nat.pow 2 bits := by rwa [same]
  rw [word_digits some_digit digits fits, same]

theorem word64_toString {value : Nat} (small : value < UInt64.size) :
    (word64? (toString value)).map UInt64.toNat = some value := by
  rw [word64?, word_toString small, Option.map_some, Option.map_some, UInt64.toNat_ofNat_of_lt']
  exact small

theorem mem_toString {value : Nat} {c : Char} (member : c ∈ (toString value).toList) :
    isDigit c = true := by
  have text : (toString value).toList = Nat.toDigits 10 value := Nat.toList_repr
  rw [text] at member
  exact toDigits_isDigit member

theorem toString_length {value : Nat} (small : value < UInt64.size) :
    (toString value).length ≤ 20 :=
  (Nat.length_repr_le_iff (by decide)).mpr (Nat.lt_trans small (by decide))

section Digits

variable {c : Char} {digits : List Char}

theorem isDigit_iff : isDigit c = true ↔ 48 ≤ c.toNat ∧ c.toNat ≤ 57 := by
  rw [isDigit, decide_eq_true_eq]
  exact Iff.rfl

theorem digitValue_lt (digit : isDigit c = true) : digitValue c < 10 := by
  obtain ⟨_, small⟩ := isDigit_iff.mp digit
  have zero : '0'.toNat = 48 := rfl
  rw [digitValue, zero]
  omega

theorem digitChar_digitValue (digit : isDigit c = true) : (digitValue c).digitChar = c := by
  obtain ⟨large, _⟩ := isDigit_iff.mp digit
  have zero : '0'.toNat = 48 := rfl
  apply Char.toNat_inj.mp
  rw [Nat.toNat_digitChar_of_lt_ten (digitValue_lt digit), digitValue, zero]
  omega

theorem decimalValue_snoc (digits : List Char) (c : Char) :
    decimalValue (digits ++ [c]) = decimalValue digits * 10 + digitValue c := by
  rw [decimalValue, List.foldl_append]
  rfl

theorem decimalValue_lt (all_digits : ∀ c ∈ digits, isDigit c = true) :
    decimalValue digits < 10 ^ digits.length := by
  induction digits using List.reverseRecOn with
  | nil => decide
  | append_singleton digits c ih =>
      rw [List.forall_mem_append, List.forall_mem_singleton] at all_digits
      have before := ih all_digits.1
      have last := digitValue_lt all_digits.2
      rw [decimalValue_snoc, List.length_append, List.length_singleton, Nat.pow_succ]
      omega

/-- Digits are the decimal of their value, with zeros before it. -/
theorem leading_zeros (some_digit : digits ≠ []) (all_digits : ∀ c ∈ digits, isDigit c = true) :
    ∃ zeros, digits = List.replicate zeros '0' ++ Nat.toDigits 10 (decimalValue digits) := by
  induction digits using List.reverseRecOn with
  | nil => exact absurd rfl some_digit
  | append_singleton digits c ih =>
      rw [List.forall_mem_append, List.forall_mem_singleton] at all_digits
      have last : Nat.toDigits 10 (digitValue c) = [c] := by
        rw [Nat.toDigits_of_lt_base (digitValue_lt all_digits.2),
          digitChar_digitValue all_digits.2]
      rw [decimalValue_snoc]
      by_cases first : digits = []
      · refine ⟨0, ?_⟩
        rw [first, List.replicate_zero, List.nil_append, decimalValue, List.foldl_nil, Nat.zero_mul,
          Nat.zero_add, last]
        rfl
      · obtain ⟨zeros, before⟩ := ih first all_digits.1
        by_cases nothing : decimalValue digits = 0
        · -- The digits before are zeros, and the last of them stood for the value.
          rw [nothing, Nat.toDigits_zero] at before
          refine ⟨zeros + 1, ?_⟩
          rw [nothing, Nat.zero_mul, Nat.zero_add, last, before, List.replicate_succ',
            List.append_assoc]
        · refine ⟨zeros, ?_⟩
          rw [Nat.mul_comm, ← Nat.toDigits_append_toDigits (by decide)
            (Nat.pos_of_ne_zero nothing) (digitValue_lt all_digits.2), last, ← List.append_assoc,
            ← before]

end Digits

end MailExchange.Text
