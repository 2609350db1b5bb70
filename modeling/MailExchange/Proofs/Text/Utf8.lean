import MailExchange.Text.Basic

namespace MailExchange.Text

theorem utf8_flatMap (text : String) : utf8 text = text.toList.flatMap String.utf8EncodeChar := by
  have encoded : text.toByteArray = text.toList.utf8Encode := String.utf8Encode_toList.symm
  simp only [utf8, String.toUTF8, encoded, List.utf8Encode, List.data_toByteArray]

@[simp] theorem utf8_append (left right : String) :
    utf8 (left ++ right) = utf8 left ++ utf8 right := by
  simp only [utf8_flatMap, String.toList_append, List.flatMap_append]

theorem ofUtf8_utf8 (text : String) : ofUtf8? (utf8 text) = some text := by
  have valid : ByteArray.IsValidUTF8 ⟨(utf8 text).toArray⟩ := by
    simpa only [utf8, String.toUTF8, Array.toArray_toList] using text.isValidUTF8
  rw [ofUtf8?, String.fromUTF8?, dif_pos valid]
  simp only [utf8, String.toUTF8, Array.toArray_toList]
  rfl

theorem utf8_ofUtf8 {bytes : Bytes} {text : String} (read : ofUtf8? bytes = some text) :
    utf8 text = bytes := by
  simp only [ofUtf8?, String.fromUTF8?] at read
  split at read
  · have same := Option.some.inj read
    subst same
    rfl
  · cases read

theorem encodeChar_ascii {c : Char} (ascii : c.toNat < 128) :
    String.utf8EncodeChar c = [UInt8.ofNat c.toNat] := by
  have small : c.val.toNat ≤ 127 := Nat.le_of_lt_succ ascii
  simp only [String.utf8EncodeChar, if_pos small]
  rfl

theorem encodeChar_wide {c : Char} (wide : 128 ≤ c.toNat) :
    ∀ byte ∈ String.utf8EncodeChar c, 128 ≤ byte.toNat := by
  have large : ¬ c.val.toNat ≤ 127 := Nat.not_le_of_gt wide
  intro byte member
  simp only [String.utf8EncodeChar, if_neg large] at member
  split at member
  · simp only [List.mem_cons, List.not_mem_nil, or_false] at member
    rcases member with rfl | rfl <;> simp only [UInt8.toNat_ofNat'] <;> omega
  · split at member
    · simp only [List.mem_cons, List.not_mem_nil, or_false] at member
      rcases member with rfl | rfl | rfl <;> simp only [UInt8.toNat_ofNat'] <;> omega
    · simp only [List.mem_cons, List.not_mem_nil, or_false] at member
      rcases member with rfl | rfl | rfl | rfl <;> simp only [UInt8.toNat_ofNat'] <;> omega

theorem asciiByte_toNat {c : Char} (ascii : c.toNat < 128) :
    (UInt8.ofNat c.toNat).toNat = c.toNat := by
  rw [UInt8.toNat_ofNat']
  omega

theorem asciiByte_injective {c d : Char} (left : c.toNat < 128) (right : d.toNat < 128)
    (same : UInt8.ofNat c.toNat = UInt8.ofNat d.toNat) : c = d := by
  apply Char.toNat_inj.mp
  have bytes := congrArg UInt8.toNat same
  rwa [asciiByte_toNat left, asciiByte_toNat right] at bytes

theorem mem_encodeChar_ascii {c d : Char} (ascii : c.toNat < 128) :
    UInt8.ofNat c.toNat ∈ String.utf8EncodeChar d ↔ d = c := by
  by_cases other : d.toNat < 128
  · rw [encodeChar_ascii other, List.mem_singleton]
    constructor
    · intro same
      exact (asciiByte_injective ascii other same).symm
    · rintro rfl
      rfl
  · constructor
    · intro member
      have wide := encodeChar_wide (Nat.le_of_not_lt other) _ member
      rw [asciiByte_toNat ascii] at wide
      omega
    · rintro rfl
      exact absurd ascii other

theorem ascii_mem_utf8 {c : Char} (ascii : c.toNat < 128) (text : String) :
    UInt8.ofNat c.toNat ∈ utf8 text ↔ c ∈ text.toList := by
  rw [utf8_flatMap, List.mem_flatMap]
  constructor
  · rintro ⟨d, present, member⟩
    rwa [(mem_encodeChar_ascii ascii).mp member] at present
  · intro present
    exact ⟨c, present, (mem_encodeChar_ascii ascii).mpr rfl⟩

theorem utf8_ofList (cs : List Char) :
    utf8 (String.ofList cs) = cs.flatMap String.utf8EncodeChar := by
  rw [utf8_flatMap, String.toList_ofList]

theorem utf8_getLast_ascii {c : Char} (ascii : c.toNat < 128) (text : String) :
    (utf8 text).getLast? = some (UInt8.ofNat c.toNat) ↔ text.toList.getLast? = some c := by
  rw [utf8_flatMap]
  rcases List.eq_nil_or_concat text.toList with empty | ⟨start, last, split⟩
  · simp only [empty, List.flatMap_nil, List.getLast?_nil, reduceCtorEq]
  · cases final : (String.utf8EncodeChar last).getLast? with
    | none => exact absurd (List.getLast?_eq_none_iff.mp final) String.utf8EncodeChar_ne_nil
    | some byte =>
        rw [split, List.concat_eq_append, List.flatMap_append, List.flatMap_singleton,
          List.getLast?_append, final, Option.some_or, List.getLast?_concat]
        constructor
        · intro same
          have member := List.mem_of_getLast? final
          rw [Option.some.inj same, mem_encodeChar_ascii ascii] at member
          rw [member]
        · intro same
          rw [Option.some.inj same, encodeChar_ascii ascii] at final
          exact final.symm

theorem length_le_utf8 (text : String) : text.length ≤ (utf8 text).length := by
  rw [utf8_flatMap, ← String.length_toList]
  induction text.toList with
  | nil => exact Nat.le_refl 0
  | cons c cs ih =>
      have one : 0 < (String.utf8EncodeChar c).length :=
        List.length_pos_iff.mpr String.utf8EncodeChar_ne_nil
      simp only [List.flatMap_cons, List.length_append, List.length_cons]
      omega

theorem utf8_length_le (text : String) : (utf8 text).length ≤ 4 * text.length := by
  rw [utf8_flatMap, ← String.length_toList]
  induction text.toList with
  | nil => exact Nat.le_refl 0
  | cons c cs ih =>
      have four := Char.utf8Size_le_four c
      simp only [List.flatMap_cons, List.length_append, List.length_cons,
        String.length_utf8EncodeChar]
      omega

theorem utf8_length_ascii {text : String} (ascii : ∀ c ∈ text.toList, c.toNat < 128) :
    (utf8 text).length = text.toList.length := by
  rw [utf8_flatMap]
  generalize text.toList = cs at ascii
  induction cs with
  | nil => rfl
  | cons c cs ih =>
      have rest := ih fun other member => ascii other (List.mem_cons_of_mem c member)
      rw [List.flatMap_cons, List.length_append, rest,
        encodeChar_ascii (ascii c List.mem_cons_self), List.length_singleton, List.length_cons,
        Nat.add_comm]

theorem chars_utf8 {cs : List Char} (ascii : ∀ c ∈ cs, c.toNat < 128) :
    (utf8 (String.ofList cs)).map (fun byte => Char.ofNat byte.toNat) = cs := by
  rw [utf8_ofList]
  induction cs with
  | nil => rfl
  | cons c cs ih =>
      have first := ascii c List.mem_cons_self
      rw [List.flatMap_cons, encodeChar_ascii first, List.map_append, List.map_singleton,
        asciiByte_toNat first, Char.ofNat_toNat,
        ih fun other member => ascii other (List.mem_cons_of_mem c member), List.singleton_append]

def filler (size : Nat) : String := String.ofList (List.replicate size 'x')

theorem mem_filler {size : Nat} {c : Char} (member : c ∈ (filler size).toList) : c = 'x' := by
  rw [filler, String.toList_ofList] at member
  exact List.eq_of_mem_replicate member

theorem utf8_filler (size : Nat) : (utf8 (filler size)).length = size := by
  have ascii : ∀ c ∈ (filler size).toList, c.toNat < 128 := by
    intro c member
    rw [mem_filler member]
    decide
  rw [utf8_length_ascii ascii, filler, String.toList_ofList, List.length_replicate]

end MailExchange.Text
