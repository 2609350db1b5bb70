import MailExchange.Text.Lowercase
import Mathlib.Data.List.Basic

namespace MailExchange.Text

def IsAscii (text : String) : Prop := ∀ c ∈ text.toList, c.toNat < 128

instance (text : String) : Decidable (IsAscii text) :=
  List.decidableBAll (fun c : Char => c.toNat < 128) text.toList

structure IsLower (text : String) : Prop where
  ascii : IsAscii text
  small : ∀ c ∈ text.toList, lowerAscii c = c

theorem isLower_iff (text : String) :
    (∀ c ∈ text.toList, c.toNat < 128 ∧ lowerAscii c = c) ↔ IsLower text :=
  ⟨fun all => ⟨fun c member => (all c member).1, fun c member => (all c member).2⟩,
    fun lower c member => ⟨lower.ascii c member, lower.small c member⟩⟩

instance (text : String) : Decidable (IsLower text) :=
  @decidable_of_iff _ _ (isLower_iff text) (List.decidableBAll _ text.toList)

theorem lowerChar_ascii {c : Char} (ascii : c.toNat < 128) : lowerChar c = [lowerAscii c] :=
  if_pos ascii

theorem lowerAfter_ascii {text : List Char} (ascii : ∀ c ∈ text, c.toNat < 128)
    (before : List Char) : lowerAfter before text = text.map lowerAscii := by
  induction text generalizing before with
  | nil => rfl
  | cons c rest ih =>
      have c_ascii := ascii c List.mem_cons_self
      have no_sigma : c ≠ 'Σ' := by
        rintro rfl
        exact absurd c_ascii (by decide)
      rw [lowerAfter, if_neg no_sigma, lowerChar_ascii c_ascii,
        ih fun other member => ascii other (List.mem_cons_of_mem c member)]
      rfl

theorem lowercase_ascii {text : String} (ascii : IsAscii text) :
    (lowercase text).toList = text.toList.map lowerAscii := by
  rw [lowercase, lowerAfter_ascii ascii, String.toList_ofList]

theorem lowerAscii_twice {c : Char} (ascii : c.toNat < 128) :
    (lowerAscii c).toNat < 128 ∧ lowerAscii (lowerAscii c) = lowerAscii c := by
  have all : ∀ code < 128, (lowerAscii (Char.ofNat code)).toNat < 128 ∧
      lowerAscii (lowerAscii (Char.ofNat code)) = lowerAscii (Char.ofNat code) := by
    decide
  have this_one := all c.toNat ascii
  rwa [Char.ofNat_toNat] at this_one

theorem lowercase_lower {text : String} (ascii : IsAscii text) : IsLower (lowercase text) := by
  refine (isLower_iff (lowercase text)).mp fun c member => ?_
  rw [lowercase_ascii ascii] at member
  obtain ⟨capital, present, rfl⟩ := List.mem_map.mp member
  exact lowerAscii_twice (ascii capital present)

theorem lowercase_small {text : String} (lower : IsLower text) : lowercase text = text := by
  apply String.toList_inj.mp
  calc (lowercase text).toList
    _ = text.toList.map lowerAscii := lowercase_ascii lower.ascii
    _ = text.toList.map id := List.map_congr_left lower.small
    _ = text.toList := List.map_id text.toList

theorem sameIgnoringAsciiCase_lower {text lower : String} (ascii : IsAscii text)
    (is_lower : IsLower lower) :
    sameIgnoringAsciiCase text lower = true ↔ lowercase text = lower := by
  rw [sameIgnoringAsciiCase, beq_iff_eq, ← lowercase_ascii ascii,
    ← lowercase_ascii is_lower.ascii, lowercase_small is_lower]
  exact String.toList_inj

namespace CaseRun

def lowest (run : CaseRun) : Nat := (run.first + run.shift).toNat

def highest (run : CaseRun) : Nat := (run.last + run.shift).toNat

/-- No letter of a run is mapped to a letter of the other: they are apart, or alternate. -/
def misses (run other : CaseRun) : Bool :=
  Nat.ble (run.highest + 1) other.first || Nat.ble (other.last + 1) run.lowest ||
    ((Nat.beq run.first run.last || Nat.beq run.step 2) && Nat.beq other.step 2 &&
      Nat.beq ((run.lowest + other.first) % 2) 1)

/-- The lower-case letters are characters past the capital letters of ASCII. -/
def InPlace (run : CaseRun) : Prop :=
  0x61 ≤ run.lowest ∧ (run.highest < 0xd800 ∨ 0xdfff < run.lowest ∧ run.highest < 0x110000)

instance (run : CaseRun) : Decidable run.InPlace :=
  inferInstanceAs (Decidable (_ ∧ (_ ∨ _ ∧ _)))

/-- The letter `İ`, which is mapped to two characters. -/
def dotted : CaseRun := ⟨0x130, 0x130, 2, 0⟩

theorem caseRuns_in_place : ∀ run ∈ caseRuns, run.InPlace := by
  decide +kernel

theorem caseRuns_miss : (caseRuns.all fun run => (dotted :: caseRuns).all run.misses) = true := by
  decide +kernel

variable {run other : CaseRun} {code : Nat}

theorem image_bounds (placed : run.InPlace) (covered : run.covers code = true) :
    run.lowest ≤ (code + run.shift).toNat ∧ (code + run.shift).toNat ≤ run.highest := by
  have low := placed.1
  rw [covers, decide_eq_true_eq] at covered
  rw [lowest] at low ⊢
  rw [highest]
  omega

theorem misses_image (placed : run.InPlace) (misses : run.misses other = true)
    (covered : run.covers code = true) : other.covers (code + run.shift).toNat = false := by
  have low := placed.1
  obtain ⟨above, below⟩ := image_bounds placed covered
  simp only [CaseRun.misses, Bool.or_eq_true, Bool.and_eq_true, Nat.ble_eq, Nat.beq_eq] at misses
  rw [covers, decide_eq_true_eq] at covered
  rw [covers, decide_eq_false_iff_not]
  rintro ⟨from_first, to_last, on_step⟩
  rw [lowest] at low misses
  rcases misses with (short | far) | ⟨⟨one | even, other_even⟩, odd⟩
  · omega
  · omega
  · rw [other_even] at on_step
    omega
  · rw [other_even] at on_step
    rw [even] at covered
    omega

end CaseRun

/-- A character that lower-casing leaves as it is. -/
structure Settled (c : Char) : Prop where
  no_sigma : c ≠ 'Σ'
  same : lowerChar c = [c]

instance (c : Char) : Decidable (Settled c) :=
  decidable_of_iff (c ≠ 'Σ' ∧ lowerChar c = [c])
    ⟨fun both => ⟨both.1, both.2⟩, fun settled => ⟨settled.no_sigma, settled.same⟩⟩

theorem lowerAscii_past {c : Char} (past : 0x61 ≤ c.toNat) : lowerAscii c = c := by
  rw [lowerAscii, if_neg]
  rintro ⟨_, below⟩
  have small : c.toNat ≤ 0x5a := UInt32.le_iff_toNat_le.mp below
  omega

theorem toNat_ofNat {code : Nat} (valid : code.isValidChar) : (Char.ofNat code).toNat = code := by
  rw [Char.ofNat, dif_pos valid]
  rfl

def IsAsciiLetter (c : Char) : Prop :=
  0x41 ≤ c.toNat ∧ c.toNat ≤ 0x5a ∨ 0x61 ≤ c.toNat ∧ c.toNat ≤ 0x7a

theorem lowerAscii_cases (c : Char) :
    lowerAscii c = c ∨ IsAsciiLetter c ∧ IsAsciiLetter (lowerAscii c) := by
  rw [lowerAscii]
  split
  · rename_i capital
    have above : 0x41 ≤ c.toNat := UInt32.le_iff_toNat_le.mp capital.1
    have below : c.toNat ≤ 0x5a := UInt32.le_iff_toNat_le.mp capital.2
    refine Or.inr ⟨Or.inl ⟨above, below⟩, Or.inr ?_⟩
    rw [toNat_ofNat (Or.inl (by omega))]
    omega
  · exact Or.inl rfl

theorem settled_uncovered {c : Char} (past : 0x61 ≤ c.toNat)
    (uncovered : ∀ run ∈ CaseRun.dotted :: caseRuns, run.covers c.toNat = false) : Settled c := by
  have no_cover {run : CaseRun} (member : run ∈ CaseRun.dotted :: caseRuns) :
      ¬run.covers c.toNat = true := by
    rw [uncovered run member]
    exact Bool.false_ne_true
  constructor
  · rintro rfl
    have sigma : caseRuns.any (·.covers 'Σ'.toNat) = true := by decide
    obtain ⟨run, member, covers⟩ := List.any_eq_true.mp sigma
    exact no_cover (List.mem_cons_of_mem _ member) covers
  · have undotted : c ≠ 'İ' := by
      rintro rfl
      exact no_cover List.mem_cons_self (by decide)
    have no_run : caseRuns.find? (·.covers c.toNat) = none :=
      List.find?_eq_none.mpr fun run member => no_cover (List.mem_cons_of_mem _ member)
    by_cases ascii : c.toNat < 0x80
    · rw [lowerChar, if_pos ascii, lowerAscii_past past]
    · rw [lowerChar, if_neg ascii, if_neg undotted, no_run]

theorem settled_ascii {c : Char} (ascii : c.toNat < 0x80) : Settled (lowerAscii c) := by
  obtain ⟨still_ascii, lower⟩ := lowerAscii_twice ascii
  refine ⟨?_, by rw [lowerChar_ascii still_ascii, lower]⟩
  intro sigma
  rw [sigma] at still_ascii
  exact absurd still_ascii (by decide)

theorem toNat_image {run : CaseRun} {code : Nat} (member : run ∈ caseRuns)
    (covered : run.covers code = true) :
    (Char.ofNat (code + run.shift).toNat).toNat = (code + run.shift).toNat := by
  have placed := CaseRun.caseRuns_in_place run member
  obtain ⟨above, below⟩ := CaseRun.image_bounds placed covered
  apply toNat_ofNat
  rcases placed.2 with low | ⟨high, bound⟩
  · exact Or.inl (Nat.lt_of_le_of_lt below low)
  · exact Or.inr ⟨Nat.lt_of_lt_of_le high above, Nat.lt_of_le_of_lt below bound⟩

theorem settled_image {run : CaseRun} {code : Nat} (member : run ∈ caseRuns)
    (covered : run.covers code = true) : Settled (Char.ofNat (code + run.shift).toNat) := by
  have placed := CaseRun.caseRuns_in_place run member
  have image := toNat_image member covered
  apply settled_uncovered
  · rw [image]
    exact Nat.le_trans placed.1 (CaseRun.image_bounds placed covered).1
  · intro other other_member
    rw [image]
    have misses := List.all_eq_true.mp
      (List.all_eq_true.mp CaseRun.caseRuns_miss run member) other other_member
    exact CaseRun.misses_image placed misses covered

theorem lowerChar_cases (c : Char) :
    c.toNat < 0x80 ∧ lowerChar c = [lowerAscii c] ∨
    c = 'İ' ∧ lowerChar c = ['i', '\u0307'] ∨
    (∃ run ∈ caseRuns, run.covers c.toNat = true ∧
      lowerChar c = [Char.ofNat (c.toNat + run.shift).toNat]) ∨
    0x80 ≤ c.toNat ∧ c ≠ 'Σ' ∧ lowerChar c = [c] := by
  by_cases ascii : c.toNat < 0x80
  · exact Or.inl ⟨ascii, lowerChar_ascii ascii⟩
  · by_cases is_dotted : c = 'İ'
    · exact Or.inr (Or.inl ⟨is_dotted, by rw [is_dotted]; rfl⟩)
    · rw [lowerChar, if_neg ascii, if_neg is_dotted]
      cases found : caseRuns.find? (·.covers c.toNat) with
      | some run =>
          have covers := List.find?_some found
          exact Or.inr (Or.inr (Or.inl ⟨run, List.mem_of_find?_eq_some found, covers, rfl⟩))
      | none =>
          refine Or.inr (Or.inr (Or.inr ⟨Nat.not_lt.mp ascii, ?_, rfl⟩))
          rintro rfl
          exact absurd found (by decide)

theorem lowerChar_settled {c lower : Char} (member : lower ∈ lowerChar c) : Settled lower := by
  rcases lowerChar_cases c with ⟨ascii, same⟩ | ⟨_, same⟩ | ⟨run, listed, covered, same⟩ |
    ⟨_, no_sigma, same⟩
  · rw [same, List.mem_singleton] at member
    rw [member]
    exact settled_ascii ascii
  · rw [same, List.mem_pair] at member
    rcases member with rfl | rfl
    · exact ⟨by decide, by decide⟩
    · exact ⟨by decide, by decide⟩
  · rw [same, List.mem_singleton] at member
    rw [member]
    exact settled_image listed covered
  · rw [same, List.mem_singleton] at member
    rw [member]
    exact ⟨no_sigma, same⟩

theorem lowerChar_small {c lower : Char} (member : lower ∈ lowerChar c) (small : lower.toNat < 0x41) :
    lower = c := by
  rcases lowerChar_cases c with ⟨_, same⟩ | ⟨_, same⟩ | ⟨run, listed, covered, same⟩ | ⟨_, _, same⟩
  · rw [same, List.mem_singleton] at member
    rw [member] at small ⊢
    rcases lowerAscii_cases c with unchanged | ⟨_, above | above⟩
    · exact unchanged
    · omega
    · omega
  · rw [same, List.mem_pair] at member
    rcases member with rfl | rfl
    · exact absurd small (by decide)
    · exact absurd small (by decide)
  · rw [same, List.mem_singleton] at member
    have placed := CaseRun.caseRuns_in_place run listed
    have above := (CaseRun.image_bounds placed covered).1
    have low := placed.1
    rw [member, toNat_image listed covered] at small
    omega
  · rw [same] at member
    exact List.mem_singleton.mp member

theorem lowerAfter_small {before text : List Char} {c : Char} (member : c ∈ lowerAfter before text)
    (small : c.toNat < 0x41) : c ∈ text := by
  induction text generalizing before with
  | nil => exact absurd member List.not_mem_nil
  | cons letter rest ih =>
      rw [lowerAfter] at member
      rcases List.mem_append.mp member with here | later
      · split at here
        · rw [List.mem_singleton.mp here] at small
          split at small
          · exact absurd small (by decide)
          · exact absurd small (by decide)
        · rw [lowerChar_small here small]
          exact List.mem_cons_self
      · exact List.mem_cons_of_mem letter (ih later)

theorem lowercase_small_mem {text : String} {c : Char} (member : c ∈ (lowercase text).toList)
    (small : c.toNat < 0x41) : c ∈ text.toList := by
  rw [lowercase, String.toList_ofList] at member
  exact lowerAfter_small member small

theorem lowerAfter_settled {before text : List Char} :
    ∀ c ∈ lowerAfter before text, Settled c := by
  induction text generalizing before with
  | nil => exact fun c member => absurd member List.not_mem_nil
  | cons letter rest ih =>
      intro c member
      rw [lowerAfter] at member
      rcases List.mem_append.mp member with here | later
      · split at here
        · rw [List.mem_singleton.mp here]
          split
          · exact ⟨by decide, by decide⟩
          · exact ⟨by decide, by decide⟩
        · exact lowerChar_settled here
      · exact ih c later

theorem lowerAfter_same {text : List Char} (settled : ∀ c ∈ text, Settled c) (before : List Char) :
    lowerAfter before text = text := by
  induction text generalizing before with
  | nil => rfl
  | cons letter rest ih =>
      obtain ⟨here, later⟩ := List.forall_mem_cons.mp settled
      rw [lowerAfter, if_neg here.no_sigma, here.same, ih later]
      rfl

theorem lowercase_settled {text : String} : ∀ c ∈ (lowercase text).toList, Settled c := by
  rw [lowercase, String.toList_ofList]
  exact lowerAfter_settled

theorem lowercase_twice (text : String) : lowercase (lowercase text) = lowercase text := by
  rw [lowercase, lowerAfter_same lowercase_settled, String.ofList_toList]

theorem Settled.lower {c : Char} (settled : Settled c) : lowerAscii c = c := by
  by_cases ascii : c.toNat < 0x80
  · exact List.singleton_inj.mp ((lowerChar_ascii ascii).symm.trans settled.same)
  · exact lowerAscii_past (by omega)

theorem lowercase_lowerAscii (text : String) :
    (lowercase text).toList.map lowerAscii = (lowercase text).toList := by
  calc (lowercase text).toList.map lowerAscii
    _ = (lowercase text).toList.map id :=
        List.map_congr_left fun c member => (lowercase_settled c member).lower
    _ = (lowercase text).toList := List.map_id _

section AsciiFirst

theorem lowerAscii_wide {c : Char} (wide : 0x80 ≤ c.toNat) : lowerAscii c = c :=
  lowerAscii_past (by omega)

theorem letter_cased {c : Char} (letter : IsAsciiLetter c) : casedLetters.has c = true := by
  rw [CharClass.has, List.any_eq_true]
  rcases letter with capital | small
  · exact ⟨(0x41, 0x5a), List.mem_cons_self, decide_eq_true capital⟩
  · exact ⟨(0x61, 0x7a), List.mem_cons_of_mem _ List.mem_cons_self, decide_eq_true small⟩

theorem letter_not_ignorable {c : Char} (letter : IsAsciiLetter c) :
    caseIgnorable.has c = false := by
  have apart : ∀ range ∈ caseIgnorable,
      range.2 < 0x41 ∨ 0x5a < range.1 ∧ range.2 < 0x61 ∨ 0x7a < range.1 := by
    decide +kernel
  rw [CharClass.has, List.any_eq_false]
  intro range member
  have here := apart range member
  rw [decide_eq_true_eq]
  rcases letter with capital | small <;> omega

theorem cased_lowerAscii (c : Char) : casedLetters.has (lowerAscii c) = casedLetters.has c := by
  rcases lowerAscii_cases c with same | ⟨letter, small⟩
  · rw [same]
  · rw [letter_cased letter, letter_cased small]

theorem ignorable_lowerAscii (c : Char) :
    caseIgnorable.has (lowerAscii c) = caseIgnorable.has c := by
  rcases lowerAscii_cases c with same | ⟨letter, small⟩
  · rw [same]
  · rw [letter_not_ignorable letter, letter_not_ignorable small]

theorem startsCased_lowerAscii (text : List Char) :
    startsCased (text.map lowerAscii) = startsCased text := by
  have ignorable : caseIgnorable.has ∘ lowerAscii = caseIgnorable.has :=
    funext ignorable_lowerAscii
  rw [startsCased, List.dropWhile_map, ignorable, startsCased]
  cases text.dropWhile caseIgnorable.has with
  | nil => rfl
  | cons c _ => exact cased_lowerAscii c

theorem lowerChar_lowerAscii (c : Char) : lowerChar (lowerAscii c) = lowerChar c := by
  by_cases ascii : c.toNat < 0x80
  · rw [(settled_ascii ascii).same, lowerChar_ascii ascii]
  · rw [lowerAscii_wide (Nat.not_lt.mp ascii)]

theorem lowerAscii_sigma {c : Char} : lowerAscii c = 'Σ' ↔ c = 'Σ' := by
  by_cases ascii : c.toNat < 0x80
  · refine iff_of_false (settled_ascii ascii).no_sigma ?_
    rintro rfl
    exact absurd ascii (by decide)
  · rw [lowerAscii_wide (Nat.not_lt.mp ascii)]

theorem lowerAfter_lowerAscii (before text : List Char) :
    lowerAfter (before.map lowerAscii) (text.map lowerAscii) = lowerAfter before text := by
  induction text generalizing before with
  | nil => rfl
  | cons c rest ih =>
      have after := ih (c :: before)
      rw [List.map_cons] at after
      simp only [List.map_cons, lowerAfter, lowerAscii_sigma, startsCased_lowerAscii,
        lowerChar_lowerAscii, after]

end AsciiFirst

/-- A text whose capital letters are all ASCII letters. -/
def AsciiCapitals (text : String) : Prop := ∀ c ∈ text.toList, 0x80 ≤ c.toNat → Settled c

instance (text : String) : Decidable (AsciiCapitals text) :=
  List.decidableBAll (fun c : Char => 0x80 ≤ c.toNat → Settled c) text.toList

theorem IsAscii.capitals {text : String} (ascii : IsAscii text) : AsciiCapitals text :=
  fun c member wide => absurd (ascii c member) (Nat.not_lt.mpr wide)

theorem lowerAfter_asciiCapitals {text : List Char}
    (settled : ∀ c ∈ text, 0x80 ≤ c.toNat → Settled c) (before : List Char) :
    lowerAfter before text = text.map lowerAscii := by
  induction text generalizing before with
  | nil => rfl
  | cons c rest ih =>
      obtain ⟨here, later⟩ := List.forall_mem_cons.mp settled
      have alone : c ≠ 'Σ' ∧ lowerChar c = [lowerAscii c] := by
        by_cases ascii : c.toNat < 0x80
        · refine ⟨?_, lowerChar_ascii ascii⟩
          rintro rfl
          exact absurd ascii (by decide)
        · have settled_here := here (Nat.not_lt.mp ascii)
          exact ⟨settled_here.no_sigma, by rw [settled_here.same, settled_here.lower]⟩
      rw [lowerAfter, if_neg alone.1, alone.2, ih later]
      rfl

theorem lowerChar_ne_nil (c : Char) : lowerChar c ≠ [] := by
  rcases lowerChar_cases c with ⟨_, same⟩ | ⟨_, same⟩ | ⟨_, _, _, same⟩ | ⟨_, _, same⟩ <;>
    rw [same] <;> exact List.cons_ne_nil _ _

theorem lowerAfter_length (before text : List Char) :
    text.length ≤ (lowerAfter before text).length := by
  induction text generalizing before with
  | nil => exact Nat.le_refl 0
  | cons c rest ih =>
      have later := ih (c :: before)
      have here := List.length_pos_iff.mpr (lowerChar_ne_nil c)
      rw [lowerAfter, List.length_cons, List.length_append]
      split
      · rw [List.length_singleton]
        omega
      · omega

/-- If lower-casing changes ASCII letters alone, the others have no lower case. -/
theorem settled_of_lowerAfter {before text : List Char}
    (plain : lowerAfter before text = text.map lowerAscii) :
    ∀ c ∈ text, 0x80 ≤ c.toNat → Settled c := by
  induction text generalizing before with
  | nil => exact fun c member => absurd member List.not_mem_nil
  | cons letter rest ih =>
      rw [lowerAfter, List.map_cons] at plain
      by_cases sigma : letter = 'Σ'
      · rw [if_pos sigma, List.singleton_append, List.cons.injEq,
          lowerAscii_sigma.mpr sigma] at plain
        split at plain
        · exact absurd plain.1 (by decide)
        · exact absurd plain.1 (by decide)
      · rw [if_neg sigma] at plain
        obtain ⟨first, others, lowered⟩ := List.exists_cons_of_ne_nil (lowerChar_ne_nil letter)
        rw [lowered, List.cons_append, List.cons.injEq] at plain
        have lengths := congrArg List.length plain.2
        rw [List.length_append, List.length_map] at lengths
        have whole := lowerAfter_length (letter :: before) rest
        have alone : others = [] := List.length_eq_zero_iff.mp (by omega)
        rw [alone, plain.1] at lowered
        rw [alone, List.nil_append] at plain
        refine List.forall_mem_cons.mpr ⟨fun wide => ⟨sigma, ?_⟩, ih plain.2⟩
        rw [lowered, lowerAscii_wide wide]

theorem asciiCapitals_iff {text : String} :
    AsciiCapitals text ↔ (lowercase text).toList = text.toList.map lowerAscii := by
  rw [lowercase, String.toList_ofList]
  exact ⟨fun capitals => lowerAfter_asciiCapitals capitals [], settled_of_lowerAfter⟩

theorem sameIgnoringAsciiCase_lowercase {text other : String} :
    sameIgnoringAsciiCase text (lowercase other) = true ↔
      lowercase text = lowercase other ∧ AsciiCapitals text := by
  rw [sameIgnoringAsciiCase, beq_iff_eq, lowercase_lowerAscii, asciiCapitals_iff]
  constructor
  · intro same
    have lower : lowercase text = lowercase other := by
      calc lowercase text
        _ = String.ofList (lowerAfter [] (text.toList.map lowerAscii)) :=
            congrArg String.ofList (lowerAfter_lowerAscii [] text.toList).symm
        _ = lowercase (lowercase other) := by
            rw [same]
            rfl
        _ = lowercase other := lowercase_twice other
    exact ⟨lower, by rw [lower, same]⟩
  · rintro ⟨lower, plain⟩
    rw [← plain, lower]

end MailExchange.Text
