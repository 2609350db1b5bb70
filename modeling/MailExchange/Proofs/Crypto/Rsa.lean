import MailExchange.Crypto.Rsa
import MailExchange.Proofs.Bytes.Encoding
import Mathlib.FieldTheory.Finite.Basic
import Mathlib.NumberTheory.LucasLehmer

/-!
What a public key has locked, its private key opens again. The padding is taken off as it was put on,
and raising to the two exponents in turn changes no number below the modulus.
-/

namespace MailExchange

open Text (Bytes)

theorem Sha1.hash_length (message : Bytes) : (Sha1.hash message).length = 20 := by
  simp only [Sha1.hash, List.flatMap_cons, List.flatMap_nil, List.length_append, List.length_nil,
    wordBytes, BigEndian.ofNat_length]

theorem Prime.powMod_eq (base exponent modulus : Nat) :
    powMod base exponent modulus = base ^ exponent % modulus := by
  fun_induction powMod base exponent modulus with
  | case1 => rw [Nat.pow_zero]
  | case2 exponent positive half square even ih =>
      have twice : exponent = exponent / 2 + exponent / 2 := by omega
      calc half * half % modulus
        _ = base ^ (exponent / 2) * base ^ (exponent / 2) % modulus := by
            rw [show half = _ from ih, ← Nat.mul_mod]
        _ = base ^ exponent % modulus := by rw [← Nat.pow_add, ← twice]
  | case3 exponent positive half square odd ih =>
      have twice : exponent = exponent / 2 + exponent / 2 + 1 := by omega
      calc half * half % modulus * base % modulus
        _ = base ^ (exponent / 2) * base ^ (exponent / 2) * base % modulus := by
            rw [show half = _ from ih, ← Nat.mul_mod, Nat.mod_mul_mod]
        _ = base ^ exponent % modulus := by
            rw [← Nat.pow_add, ← Nat.pow_succ, Nat.succ_eq_add_one, ← twice]

namespace Rsa

namespace Oaep

theorem mask_length (seed : Bytes) (count : Nat) : (mask seed count).length = count := by
  have hashes (index : Nat) : (Sha1.hash (seed ++ BigEndian.ofNat 4 index)).length = hashSize :=
    Sha1.hash_length _
  have enough : count ≤ (count / hashSize + 1) * hashSize := by
    rw [hashSize]
    omega
  rw [mask, List.length_take, List.length_flatMap]
  simp only [hashes, List.map_const', List.length_range, List.sum_replicate_nat]
  exact Nat.min_eq_left enough

theorem xor_length (left right : Bytes) :
    (xor left right).length = min left.length right.length := List.length_zipWith

theorem xor_mask {bytes seed : Bytes} {count : Nat} (enough : bytes.length ≤ count) :
    xor (xor bytes (mask seed count)) (mask seed count) = bytes :=
  BigEndian.xor_twice (by rw [mask_length]; exact enough)

def block (size : Nat) (message : Bytes) : Bytes :=
  Sha1.hash [] ++ List.replicate (size - overhead - message.length) 0 ++ 1 :: message

theorem block_length {size : Nat} {message : Bytes} (short : message.length + overhead ≤ size) :
    (block size message).length + hashSize + 1 = size := by
  simp only [overhead, hashSize] at short
  simp only [block, List.length_append, List.length_cons, List.length_replicate, Sha1.hash_length,
    overhead, hashSize]
  omega

def padded (size : Nat) (seed message : Bytes) : Bytes :=
  let masked := xor (block size message) (mask seed (block size message).length)
  0 :: xor seed (mask masked hashSize) ++ masked

theorem pad_short {size : Nat} {seed message : Bytes} (short : message.length + overhead ≤ size) :
    pad size seed message = some (padded size seed message) := if_pos short

theorem pad_long {size : Nat} {seed message : Bytes} (long : size < message.length + overhead) :
    pad size seed message = none := if_neg (Nat.not_le_of_gt long)

theorem padded_length {size : Nat} {seed message : Bytes} (seed_length : seed.length = hashSize)
    (short : message.length + overhead ≤ size) : (padded size seed message).length = size := by
  have whole := block_length short
  simp only [padded, List.cons_append, List.length_cons, List.length_append, xor_length,
    mask_length, seed_length, Nat.min_self]
  omega

theorem unpad_padded {size : Nat} {seed message : Bytes} (seed_length : seed.length = hashSize)
    (short : message.length + overhead ≤ size) :
    unpad (padded size seed message) = some message := by
  let masked := xor (block size message) (mask seed (block size message).length)
  let maskedSeed := xor seed (mask masked hashSize)
  have parts : padded size seed message = 0 :: (maskedSeed ++ masked) := rfl
  have seed_part : maskedSeed.length = hashSize := by
    rw [xor_length, mask_length, seed_length, Nat.min_self]
  have masked_length : masked.length = (block size message).length := by
    rw [xor_length, mask_length, Nat.min_self]
  have long : ¬ (padded size seed message).length < overhead := by
    rw [padded_length seed_length short]
    omega
  have first : ((padded size seed message).drop 1).take hashSize = maskedSeed := by
    rw [parts, List.drop_succ_cons, List.drop_zero, List.take_left' seed_part]
  have second : (padded size seed message).drop (1 + hashSize) = masked := by
    rw [parts, Nat.add_comm, List.drop_succ_cons, List.drop_left' seed_part]
  have same_seed : xor maskedSeed (mask masked hashSize) = seed :=
    xor_mask (Nat.le_of_eq seed_length)
  have same_block : xor masked (mask seed masked.length) = block size message := by
    rw [masked_length]
    exact xor_mask (Nat.le_refl _)
  have label_length : (Sha1.hash []).length = hashSize := Sha1.hash_length []
  have label : (block size message).take hashSize = Sha1.hash [] := by
    rw [block, List.append_assoc, List.take_left' label_length]
  have content : ((block size message).drop hashSize).dropWhile (· == 0) = 1 :: message := by
    rw [block, List.append_assoc, List.drop_left' label_length,
      List.dropWhile_append_of_pos (by simp), List.dropWhile_cons, if_neg (by decide)]
  have zero_first : (padded size seed message).head? = some 0 := rfl
  simp only [unpad, if_neg long, first, second, same_seed, same_block, zero_first, label, content,
    and_self, if_true]

end Oaep

theorem PublicKey.encrypt_length {key : PublicKey} {seed message locked : Bytes}
    (done : key.encrypt seed message = .ok locked) : locked.length = key.size := by
  unfold PublicKey.encrypt at done
  split at done
  · split at done
    · cases done
    · rw [← Except.ok.inj done, BigEndian.ofNat_length]
  · cases done

theorem PublicKey.encrypt_long {key : PublicKey} {seed message : Bytes}
    (long : key.size < message.length + Oaep.overhead) :
    key.encrypt seed message = .error .crypto := by
  rw [PublicKey.encrypt, Oaep.pad_long long]

/-- A private key that opens what a public key has locked. -/
def Opens (key : PrivateKey) (lock : PublicKey) : Prop :=
  ∀ seed message : Bytes, seed.length = Oaep.hashSize →
    message.length + Oaep.overhead ≤ lock.size →
    ∃ locked, lock.encrypt seed message = .ok locked ∧ key.decrypt locked = .ok message

/-- A key of two primes, whose exponents undo each other. -/
structure PrivateKey.Genuine (key : PrivateKey) : Prop where
  prime_p : key.p.Prime
  prime_q : key.q.Prime
  distinct : key.p ≠ key.q
  modulus : key.modulus = key.p * key.q
  small : key.exponent < key.modulus
  positive : 0 < key.exponent * key.privateExponent
  inverse_p : key.exponent * key.privateExponent ≡ 1 [MOD key.p - 1]
  inverse_q : key.exponent * key.privateExponent ≡ 1 [MOD key.q - 1]

theorem pow_prime {prime exponent : Nat} (is_prime : prime.Prime) (positive : 0 < exponent)
    (one : exponent ≡ 1 [MOD prime - 1]) (value : Nat) :
    value ^ exponent ≡ value [MOD prime] := by
  obtain ⟨count, cut⟩ := (Nat.modEq_iff_dvd' positive).mp one.symm
  have whole : exponent = (prime - 1) * count + 1 := by omega
  by_cases divides : prime ∣ value
  · have zero : value ≡ 0 [MOD prime] := (Nat.modEq_zero_iff_dvd).mpr divides
    calc value ^ exponent
      _ ≡ 0 ^ exponent [MOD prime] := zero.pow exponent
      _ = 0 := Nat.zero_pow positive
      _ ≡ value [MOD prime] := zero.symm
  · have coprime : value.Coprime prime :=
      ((Nat.Prime.coprime_iff_not_dvd is_prime).mpr divides).symm
    calc value ^ exponent
      _ = (value ^ (prime - 1)) ^ count * value := by rw [whole, Nat.pow_succ, Nat.pow_mul]
      _ ≡ 1 ^ count * value [MOD prime] :=
          ((Nat.ModEq.pow_card_sub_one_eq_one is_prime coprime).pow count).mul_right value
      _ = value := by rw [Nat.one_pow, Nat.one_mul]

namespace PrivateKey

variable {key : PrivateKey}

theorem Genuine.pow_inverse (genuine : key.Genuine) {value : Nat} (below : value < key.modulus) :
    (value ^ key.exponent % key.modulus) ^ key.privateExponent % key.modulus = value := by
  have coprime : key.p.Coprime key.q :=
    (Nat.coprime_primes genuine.prime_p genuine.prime_q).mpr genuine.distinct
  have first := pow_prime genuine.prime_p genuine.positive genuine.inverse_p value
  have second := pow_prime genuine.prime_q genuine.positive genuine.inverse_q value
  have same : value ^ (key.exponent * key.privateExponent) ≡ value [MOD key.modulus] := by
    rw [genuine.modulus]
    exact (Nat.modEq_and_modEq_iff_modEq_mul coprime).mp ⟨first, second⟩
  calc (value ^ key.exponent % key.modulus) ^ key.privateExponent % key.modulus
    _ = (value ^ key.exponent) ^ key.privateExponent % key.modulus :=
        ((Nat.mod_modEq _ _).pow key.privateExponent)
    _ = value ^ (key.exponent * key.privateExponent) % key.modulus := by rw [Nat.pow_mul]
    _ = value % key.modulus := same
    _ = value := Nat.mod_eq_of_lt below

theorem Genuine.rootByFactors_lt (genuine : key.Genuine) (value : Nat) :
    key.rootByFactors value < key.modulus := by
  have root_q : Prime.powMod (value % key.q) key.exponentQ key.q < key.q := by
    rw [Prime.powMod_eq]
    exact Nat.mod_lt _ genuine.prime_q.pos
  have factor (other : Nat) : other % key.p ≤ key.p - 1 :=
    Nat.le_sub_one_of_lt (Nat.mod_lt _ genuine.prime_p.pos)
  rw [genuine.modulus]
  calc key.rootByFactors value
    _ < key.q + key.q * (key.p - 1) :=
        Nat.add_lt_add_of_lt_of_le root_q (Nat.mul_le_mul_left key.q (factor _))
    _ = key.q * (key.p - 1 + 1) := by rw [Nat.mul_succ, Nat.add_comm]
    _ = key.p * key.q := by rw [Nat.sub_add_cancel genuine.prime_p.pos, Nat.mul_comm]

theorem Genuine.root_pow (genuine : key.Genuine) {value : Nat} (below : value < key.modulus) :
    key.root (Prime.powMod value key.exponent key.modulus) = value := by
  rw [root]
  split
  · rename_i checked
    rw [Prime.powMod_eq, Prime.powMod_eq] at checked
    have found := genuine.pow_inverse (genuine.rootByFactors_lt
      (Prime.powMod value key.exponent key.modulus))
    rw [Prime.powMod_eq, checked, genuine.pow_inverse below] at found
    rw [Prime.powMod_eq]
    exact found.symm
  · rw [Prime.powMod_eq, Prime.powMod_eq, genuine.pow_inverse below]

theorem Genuine.opens (genuine : key.Genuine) : Opens key key.toPublicKey := by
  intro seed message seed_length short
  let padded := Oaep.padded key.size seed message
  have padded_length : padded.length = key.size := Oaep.padded_length seed_length short
  have positive : 0 < key.modulus := Nat.zero_lt_of_lt genuine.small
  have rest_length : (padded.drop 1).length = key.size - 1 := by
    rw [List.length_drop, padded_length]
  have below : BigEndian.toNat padded < key.modulus := calc
    BigEndian.toNat padded = BigEndian.toNat (padded.drop 1) := BigEndian.toNat_zero_cons _
    _ < 256 ^ (key.size - 1) := by
        rw [← rest_length]
        exact BigEndian.toNat_lt _
    _ ≤ key.modulus := BigEndian.pow_size_le positive
  let value := Prime.powMod (BigEndian.toNat padded) key.exponent key.modulus
  have value_below : value < key.modulus := by
    rw [show value = _ from Prime.powMod_eq _ _ _]
    exact Nat.mod_lt _ positive
  have sent : BigEndian.toNat (BigEndian.ofNat key.size value) = value := by
    rw [BigEndian.toNat_ofNat]
    exact Nat.mod_eq_of_lt (Nat.lt_trans value_below (BigEndian.lt_pow_size key.modulus))
  refine ⟨BigEndian.ofNat key.size value, ?_, ?_⟩
  · rw [PublicKey.encrypt, Oaep.pad_short short]
    exact if_neg (Nat.not_le_of_gt genuine.small)
  · have fits : ¬ (key.size < (BigEndian.ofNat key.size value).length ∨ key.modulus ≤ value) := by
      rw [BigEndian.ofNat_length]
      omega
    have opened : BigEndian.ofNat key.size (key.root value) = padded := by
      rw [genuine.root_pow below, ← padded_length, BigEndian.ofNat_toNat]
    have unpadded : Oaep.unpad padded = some message := Oaep.unpad_padded seed_length short
    simp only [decrypt, decrypt?, sent, if_neg fits, opened, unpadded]

end PrivateKey

/-- A key of two Mersenne primes. -/
def mersenneKey : PrivateKey :=
  let p := mersenne 607
  let q := mersenne 1279
  let d := (4 * ((p - 1) * (q - 1)) + 1) / 5
  ⟨⟨p * q, 5⟩, d, p, q, d % (p - 1), d % (q - 1), Prime.inverseMod (q % p) p⟩

theorem mersenneKey_genuine : mersenneKey.Genuine := by
  have prime_p : (mersenne 607).Prime := lucas_lehmer_sufficiency _ (by simp) (by norm_num)
  have prime_q : (mersenne 1279).Prime := lucas_lehmer_sufficiency _ (by simp) (by norm_num)
  exact ⟨prime_p, prime_q, by decide +kernel, by decide +kernel, by decide +kernel,
    by decide +kernel, by decide +kernel, by decide +kernel⟩

end Rsa

end MailExchange
