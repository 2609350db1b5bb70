import MailExchange.Bytes.Encoding
import MailExchange.Proofs.Text.Utf8
import Mathlib.Algebra.Group.Nat.Defs
import Mathlib.Data.List.Induction
import Mathlib.Tactic.Ring

namespace MailExchange.BigEndian

open Text (Bytes)

@[simp] theorem ofNat_length (count value : Nat) : (ofNat count value).length = count := by
  induction count generalizing value with
  | zero => rfl
  | succ count ih => rw [ofNat, List.length_append, ih, List.length_singleton]

theorem toNat_snoc (bytes : Bytes) (byte : UInt8) :
    toNat (bytes ++ [byte]) = toNat bytes * 256 + byte.toNat := by
  rw [toNat, List.foldl_append]
  rfl

theorem toNat_ofNat (count value : Nat) : toNat (ofNat count value) = value % 256 ^ count := by
  induction count generalizing value with
  | zero => exact (Nat.mod_one value).symm
  | succ count ih =>
      have last : (UInt8.ofNat (value % 256)).toNat = value % 256 := by
        rw [UInt8.toNat_ofNat']
        exact Nat.mod_mod value 256
      rw [ofNat, toNat_snoc, ih, last, Nat.pow_succ, Nat.mul_comm (256 ^ count) 256, Nat.mod_mul,
        Nat.mul_comm, Nat.add_comm]

theorem ofNat_toNat (bytes : Bytes) : ofNat bytes.length (toNat bytes) = bytes := by
  induction bytes using List.reverseRecOn with
  | nil => rfl
  | append_singleton bytes byte ih =>
      have small := byte.toNat_lt
      have start : (toNat bytes * 256 + byte.toNat) / 256 = toNat bytes := by omega
      have last : (toNat bytes * 256 + byte.toNat) % 256 = byte.toNat := by omega
      rw [List.length_append, List.length_singleton, toNat_snoc, ofNat, start, ih, last,
        UInt8.ofNat_toNat]

theorem toNat_lt (bytes : Bytes) : toNat bytes < 256 ^ bytes.length := by
  calc toNat bytes
    _ = toNat (ofNat bytes.length (toNat bytes)) := by rw [ofNat_toNat]
    _ = toNat bytes % 256 ^ bytes.length := toNat_ofNat bytes.length (toNat bytes)
    _ < 256 ^ bytes.length := Nat.mod_lt _ (Nat.pow_pos (by decide))

theorem toNat_cons (byte : UInt8) (bytes : Bytes) :
    toNat (byte :: bytes) = byte.toNat * 256 ^ bytes.length + toNat bytes := by
  induction bytes using List.reverseRecOn with
  | nil =>
      rw [List.length_nil, Nat.pow_zero, Nat.mul_one, Nat.add_comm]
      rfl
  | append_singleton bytes last ih =>
      rw [← List.cons_append, toNat_snoc, ih, toNat_snoc, List.length_append, List.length_singleton,
        Nat.pow_succ]
      ring

theorem toNat_zero_cons (bytes : Bytes) : toNat (0 :: bytes) = toNat bytes := rfl

theorem pow_size_le {value : Nat} (positive : 0 < value) : 256 ^ (size value - 1) ≤ value := by
  have nonzero : value ≠ 0 := Nat.ne_of_gt positive
  rw [size, if_neg nonzero, Nat.add_sub_cancel]
  calc 256 ^ (value.log2 / 8)
    _ = 2 ^ (8 * (value.log2 / 8)) := by rw [Nat.pow_mul]
    _ ≤ 2 ^ value.log2 := Nat.pow_le_pow_right (by decide) (Nat.mul_div_le _ _)
    _ ≤ value := Nat.log2_self_le nonzero

theorem lt_pow_size (value : Nat) : value < 256 ^ size value := by
  rw [size]
  split
  · rename_i zero
    rw [zero]
    decide
  · calc value
      _ < 2 ^ (value.log2 + 1) := Nat.lt_log2_self
      _ ≤ 2 ^ (8 * (value.log2 / 8 + 1)) := Nat.pow_le_pow_right (by decide) (by omega)
      _ = 256 ^ (value.log2 / 8 + 1) := by rw [Nat.pow_mul]

theorem xor_twice {bytes mask : Bytes} (enough : bytes.length ≤ mask.length) :
    (bytes.zipWith (· ^^^ ·) mask).zipWith (· ^^^ ·) mask = bytes := by
  induction bytes generalizing mask with
  | nil => rfl
  | cons byte bytes ih =>
      cases mask with
      | nil => exact absurd enough (Nat.not_succ_le_zero _)
      | cons other mask =>
          have rest := ih (Nat.le_of_succ_le_succ enough)
          have first : byte ^^^ other ^^^ other = byte := by
            rw [UInt8.xor_assoc, UInt8.xor_self, UInt8.xor_zero]
          rw [List.zipWith_cons_cons, List.zipWith_cons_cons, first, rest]

end MailExchange.BigEndian

namespace MailExchange.Base64

open Text (Bytes)

def sextets : Bytes → List Nat
  | [] => []
  | [a] => [a.toNat * 16 / 64, a.toNat * 16 % 64]
  | [a, b] =>
    let bits := (a.toNat * 256 + b.toNat) * 4
    [bits / 4096, bits / 64 % 64, bits % 64]
  | a :: b :: c :: rest =>
    let bits := (a.toNat * 256 + b.toNat) * 256 + c.toNat
    bits / 262144 :: bits / 4096 % 64 :: bits / 64 % 64 :: bits % 64 :: sextets rest

theorem sextet_sextetChar : ∀ value < 64, sextet? (sextetChar value) = some value := by decide

theorem sextetChar_plain : ∀ value < 64, sextetChar value ≠ '=' := by decide

theorem sextets_small (bytes : Bytes) : ∀ value ∈ sextets bytes, value < 64 := by
  fun_induction sextets bytes with
  | case1 => exact fun value member => absurd member List.not_mem_nil
  | case2 a =>
      have small := a.toNat_lt
      intro value member
      simp only [List.mem_cons, List.not_mem_nil, or_false] at member
      omega
  | case3 a b bits =>
      have first := a.toNat_lt
      have second := b.toNat_lt
      intro value member
      simp only [bits, List.mem_cons, List.not_mem_nil, or_false] at member
      omega
  | case4 a b c rest bits ih =>
      have first := a.toNat_lt
      have second := b.toNat_lt
      have third := c.toNat_lt
      intro value member
      simp only [bits, List.mem_cons] at member
      rcases member with rfl | rfl | rfl | rfl | later
      · omega
      · omega
      · omega
      · omega
      · exact ih value later

/-- Base64 text: digits, and padding as far as it may go. -/
theorem encodeChars_digits (bytes : Bytes) :
    encodeChars bytes = (sextets bytes).map sextetChar ++
      List.replicate (mostPadding (sextets bytes).length) '=' := by
  fun_induction sextets bytes with
  | case1 => rfl
  | case2 a => rfl
  | case3 a b bits => rfl
  | case4 a b c rest bits ih =>
      have same : mostPadding ((sextets rest).length + 1 + 1 + 1 + 1) =
          mostPadding (sextets rest).length := by
        simp only [mostPadding, Nat.add_assoc, Nat.reduceAdd, Nat.add_mod_right]
      rw [encodeChars, ih]
      simp only [List.map_cons, List.length_cons, same, List.cons_append, bits]

theorem ofNat_byte {value : Nat} {byte : UInt8} (same : value = byte.toNat) :
    UInt8.ofNat value = byte := by rw [same, UInt8.ofNat_toNat]

theorem ofSextets_sextets (bytes : Bytes) : ofSextets (sextets bytes) = some bytes := by
  fun_induction sextets bytes with
  | case1 => rfl
  | case2 a =>
      have small := a.toNat_lt
      have whole : a.toNat * 16 % 64 % 16 = 0 := by omega
      have first : a.toNat * 16 / 64 * 4 + a.toNat * 16 % 64 / 16 = a.toNat := by omega
      simp only [ofSextets, whole, if_true, ofNat_byte first]
  | case3 a b bits =>
      have first_small := a.toNat_lt
      have second_small := b.toNat_lt
      have whole : bits % 64 % 4 = 0 := by omega
      have first : bits / 4096 * 4 + bits / 64 % 64 / 16 = a.toNat := by omega
      have second : bits / 64 % 64 % 16 * 16 + bits % 64 / 4 = b.toNat := by omega
      simp only [ofSextets, whole, if_true, ofNat_byte first, ofNat_byte second]
  | case4 a b c rest bits ih =>
      have first_small := a.toNat_lt
      have second_small := b.toNat_lt
      have third_small := c.toNat_lt
      have first : bits / 262144 * 4 + bits / 4096 % 64 / 16 = a.toNat := by omega
      have second : bits / 4096 % 64 % 16 * 16 + bits / 64 % 64 / 4 = b.toNat := by omega
      have third : bits / 64 % 64 % 4 * 64 + bits % 64 = c.toNat := by omega
      simp only [ofSextets, ih, Option.map_some, ofNat_byte first, ofNat_byte second,
        ofNat_byte third]

theorem mapM_sextetChar {values : List Nat} (small : ∀ value ∈ values, value < 64) :
    (values.map sextetChar).mapM sextet? = some values := by
  induction values with
  | nil => rfl
  | cons value values ih =>
      have first := sextet_sextetChar value (small value List.mem_cons_self)
      have rest := ih fun other member => small other (List.mem_cons_of_mem value member)
      rw [List.map_cons, List.mapM_cons, first, rest]
      rfl

theorem decodeChars_digits (bytes : Bytes) {padding : Nat}
    (few : padding ≤ mostPadding (sextets bytes).length) :
    decodeChars ((sextets bytes).map sextetChar ++ List.replicate padding '=') = some bytes := by
  have digits : ∀ c ∈ (sextets bytes).map sextetChar, (c != '=') = true := by
    intro c member
    obtain ⟨value, present, rfl⟩ := List.mem_map.mp member
    exact bne_iff_ne.mpr (sextetChar_plain value (sextets_small bytes value present))
  have taken : ((sextets bytes).map sextetChar ++ List.replicate padding '=').takeWhile (· != '=') =
      (sextets bytes).map sextetChar := by
    rw [List.takeWhile_append_of_pos digits, List.takeWhile_replicate]
    simp only [bne_self_eq_false, Bool.false_eq_true, if_false, List.append_nil]
  have padded : (List.replicate padding '=').all (· == '=') = true := by
    rw [List.all_replicate]
    simp
  have rest : ((sextets bytes).map sextetChar ++ List.replicate padding '=').drop
      (sextets bytes).length = List.replicate padding '=' := List.drop_left' (List.length_map ..)
  simp only [decodeChars, taken, rest, padded, List.length_replicate, List.length_map, few, and_self,
    if_true, mapM_sextetChar (sextets_small bytes), Option.bind_some, ofSextets_sextets]

theorem decode_encode (bytes : Bytes) : decode? (encode bytes) = some bytes := by
  rw [decode?, encode, String.toList_ofList, encodeChars_digits]
  exact decodeChars_digits bytes (Nat.le_refl _)

theorem mem_encode {bytes : Bytes} {c : Char} (member : c ∈ (encode bytes).toList) :
    c = '=' ∨ ∃ value < 64, c = sextetChar value := by
  rw [encode, String.toList_ofList, encodeChars_digits, List.mem_append] at member
  rcases member with digit | padding
  · obtain ⟨value, present, rfl⟩ := List.mem_map.mp digit
    exact Or.inr ⟨value, sextets_small bytes value present, rfl⟩
  · exact Or.inl (List.eq_of_mem_replicate padding)

theorem encode_free (bytes : Bytes) {c : Char} (other : c ≠ '=') (no_digit : sextet? c = none) :
    c ∉ (encode bytes).toList := by
  intro member
  rcases mem_encode member with padding | ⟨value, small, rfl⟩
  · exact other padding
  · rw [sextet_sextetChar value small] at no_digit
    cases no_digit

theorem sextetChar_ascii : ∀ value < 64, (sextetChar value).toNat < 128 := by decide

theorem encode_ascii (bytes : Bytes) : ∀ c ∈ (encode bytes).toList, c.toNat < 128 := by
  intro c member
  rcases mem_encode member with rfl | ⟨value, small, rfl⟩
  · decide
  · exact sextetChar_ascii value small

theorem encodeChars_length (bytes : Bytes) :
    (encodeChars bytes).length = 4 * ((bytes.length + 2) / 3) := by
  fun_induction encodeChars bytes with
  | case1 => rfl
  | case2 a bits => simp only [List.length_cons, List.length_nil, Nat.reduceAdd, Nat.reduceDiv]
  | case3 a b bits => simp only [List.length_cons, List.length_nil, Nat.reduceAdd, Nat.reduceDiv]
  | case4 a b c rest bits ih =>
      simp only [List.length_cons, ih]
      omega

theorem encode_size (bytes : Bytes) :
    (Text.utf8 (encode bytes)).length = 4 * ((bytes.length + 2) / 3) := by
  rw [Text.utf8_length_ascii (encode_ascii bytes), encode, String.toList_ofList, encodeChars_length]

theorem sextet_some {c : Char} {value : Nat} (read : sextet? c = some value) :
    value < 64 ∧ c = sextetChar value := by
  have back (start : Nat) (above : start ≤ c.toNat) : Char.ofNat (start + (c.toNat - start)) = c := by
    rw [Nat.add_sub_cancel' above, Char.ofNat_toNat]
  have upper : 'A'.toNat = 65 ∧ 'Z'.toNat = 90 := by decide
  have lower : 'a'.toNat = 97 ∧ 'z'.toNat = 122 := by decide
  have digit : '0'.toNat = 48 ∧ '9'.toNat = 57 := by decide
  unfold sextet? at read
  split at read
  · rename_i range
    have least : 'A'.toNat ≤ c.toNat := range.1
    have most : c.toNat ≤ 'Z'.toNat := range.2
    cases read
    refine ⟨by omega, ?_⟩
    rw [sextetChar, if_pos (by omega), back _ least]
  · split at read
    · rename_i range
      have least : 'a'.toNat ≤ c.toNat := range.1
      have most : c.toNat ≤ 'z'.toNat := range.2
      cases read
      refine ⟨by omega, ?_⟩
      rw [sextetChar, if_neg (by omega), if_pos (by omega), Nat.add_sub_cancel, back _ least]
    · split at read
      · rename_i range
        have least : '0'.toNat ≤ c.toNat := range.1
        have most : c.toNat ≤ '9'.toNat := range.2
        cases read
        refine ⟨by omega, ?_⟩
        rw [sextetChar, if_neg (by omega), if_neg (by omega), if_pos (by omega), Nat.add_sub_cancel,
          back _ least]
      · split at read
        · rename_i plus
          cases read
          exact ⟨by decide, by rw [plus]; decide⟩
        · split at read
          · rename_i slash
            cases read
            exact ⟨by decide, by rw [slash]; decide⟩
          · cases read

theorem mapM_sextet {digits : List Char} {values : List Nat}
    (read : digits.mapM sextet? = some values) :
    (∀ value ∈ values, value < 64) ∧ digits = values.map sextetChar := by
  induction digits generalizing values with
  | nil =>
      cases read
      exact ⟨fun value member => absurd member List.not_mem_nil, rfl⟩
  | cons c digits ih =>
      rw [List.mapM_cons] at read
      obtain ⟨value, first, later⟩ := Option.bind_eq_some_iff.mp read
      obtain ⟨others, rest, same⟩ := Option.bind_eq_some_iff.mp later
      cases same
      obtain ⟨small, rfl⟩ := sextet_some first
      obtain ⟨others_small, rfl⟩ := ih rest
      exact ⟨List.forall_mem_cons.mpr ⟨small, others_small⟩, rfl⟩

/-- No other sextets stand for the same bytes, since the bits that belong to no byte are zero. -/
theorem sextets_ofSextets {values : List Nat} {bytes : Bytes} (small : ∀ value ∈ values, value < 64)
    (read : ofSextets values = some bytes) : sextets bytes = values := by
  have byte {value : Nat} (fits : value < 256) : (UInt8.ofNat value).toNat = value := by
    rw [UInt8.toNat_ofNat']
    exact Nat.mod_eq_of_lt fits
  fun_induction ofSextets values generalizing bytes with
  | case1 =>
      cases read
      rfl
  | case2 a => cases read
  | case3 a b whole =>
      have first := small a (by simp)
      have second := small b (by simp)
      cases read
      simp only [sextets, byte (show a * 4 + b / 16 < 256 by omega), List.cons.injEq, and_true]
      omega
  | case4 a b broken => cases read
  | case5 a b c whole =>
      have first := small a (by simp)
      have second := small b (by simp)
      have third := small c (by simp)
      cases read
      simp only [sextets, byte (show a * 4 + b / 16 < 256 by omega),
        byte (show b % 16 * 16 + c / 4 < 256 by omega), List.cons.injEq, and_true]
      omega
  | case6 a b c broken => cases read
  | case7 a b c d rest ih =>
      have first := small a (by simp)
      have second := small b (by simp)
      have third := small c (by simp)
      have fourth := small d (by simp)
      obtain ⟨later, found, rfl⟩ := Option.map_eq_some_iff.mp read
      have others := ih (fun value member => small value (by simp [member])) found
      simp only [sextets, byte (show a * 4 + b / 16 < 256 by omega),
        byte (show b % 16 * 16 + c / 4 < 256 by omega), byte (show c % 4 * 64 + d < 256 by omega),
        others, List.cons.injEq, and_true]
      omega

theorem decodeChars_some {chars : List Char} {bytes : Bytes}
    (read : decodeChars chars = some bytes) :
    ∃ padding ≤ mostPadding (sextets bytes).length,
      chars = (sextets bytes).map sextetChar ++ List.replicate padding '=' := by
  have cut : chars.takeWhile (· != '=') ++ chars.drop (chars.takeWhile (· != '=')).length = chars :=
    List.prefix_iff_eq_append.mp (List.takeWhile_prefix _)
  simp only [decodeChars] at read
  split at read
  · rename_i padded
    obtain ⟨values, digits, stands⟩ := Option.bind_eq_some_iff.mp read
    obtain ⟨small, spelled⟩ := mapM_sextet digits
    have same := sextets_ofSextets small stands
    have equals := List.eq_replicate_of_mem fun c member =>
      beq_iff_eq.mp (List.all_eq_true.mp padded.1 c member)
    have few := padded.2
    rw [spelled, List.length_map] at few cut equals
    rw [← same] at few cut equals
    exact ⟨_, few, by rw [← equals, cut]⟩
  · cases read

/-- A text that is the base64 of these bytes, although some of its padding may be missing. -/
def Spells (text : String) (bytes : Bytes) : Prop :=
  ∃ missing, text.toList ++ List.replicate missing '=' = (encode bytes).toList

theorem decode_spells {text : String} {bytes : Bytes} :
    decode? text = some bytes ↔ Spells text bytes := by
  rw [decode?, Spells, encode, String.toList_ofList, encodeChars_digits]
  constructor
  · intro read
    obtain ⟨padding, few, spelled⟩ := decodeChars_some read
    refine ⟨mostPadding (sextets bytes).length - padding, ?_⟩
    rw [spelled, List.append_assoc, List.replicate_append_replicate, Nat.add_sub_of_le few]
  · rintro ⟨missing, whole⟩
    rcases List.append_eq_append_iff.mp whole with
      ⟨digits, spelled, padding⟩ | ⟨padding, spelled, most⟩
    · -- No digit is a padding character.
      have no_digit : digits = [] := by
        apply List.eq_nil_iff_forall_not_mem.mpr
        intro c member
        have equals : c = '=' :=
          List.eq_of_mem_replicate (padding ▸ List.mem_append_left _ member)
        obtain ⟨value, present, same⟩ := List.mem_map.mp (spelled ▸ List.mem_append_right _ member)
        exact sextetChar_plain value (sextets_small bytes value present) (same.trans equals)
      rw [no_digit, List.append_nil] at spelled
      have bare := decodeChars_digits bytes (Nat.zero_le _)
      rwa [List.replicate_zero, List.append_nil, spelled] at bare
    · obtain ⟨total, equals, _⟩ := List.append_eq_replicate_iff.mp most.symm
      rw [spelled, equals]
      exact decodeChars_digits bytes (by omega)

theorem encode_spells (bytes : Bytes) : Spells (encode bytes) bytes := ⟨0, List.append_nil _⟩

theorem spells_free {text : String} {bytes : Bytes} (spells : Spells text bytes) {c : Char}
    (other : c ≠ '=') (no_digit : sextet? c = none) : c ∉ text.toList := by
  obtain ⟨missing, whole⟩ := spells
  intro member
  exact encode_free bytes other no_digit (whole ▸ List.mem_append_left _ member)

end MailExchange.Base64
