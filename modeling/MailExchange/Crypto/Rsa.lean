import MailExchange.Crypto.Hash
import MailExchange.Error

namespace MailExchange.Prime

def powMod (base exponent modulus : Nat) : Nat :=
  if exponent = 0 then 1 % modulus
  else
    let half := powMod base (exponent / 2) modulus
    let square := half * half % modulus
    if exponent % 2 = 0 then square else square * base % modulus
termination_by exponent
decreasing_by omega

def inverseMod (value prime : Nat) : Nat := powMod value (prime - 2) prime

def smallPrimes : List Nat := [
  2, 3, 5, 7, 11, 13, 17, 19, 23, 29, 31, 37, 41, 43, 47, 53, 59, 61, 67, 71, 73, 79, 83, 89, 97,
  101, 103, 107, 109, 113, 127, 131, 137, 139, 149, 151, 157, 163, 167, 173, 179, 181, 191, 193]

/-- The greatest `s` with `2^s` dividing a positive number. -/
def twos (value : Nat) : Nat :=
  if value = 0 ∨ value % 2 = 1 then 0 else twos (value / 2) + 1
termination_by value
decreasing_by omega

def reachesMinusOne (modulus value : Nat) : Nat → Bool
  | 0 => false
  | count + 1 =>
    value == modulus - 1 || reachesMinusOne modulus (value * value % modulus) count

def passes (candidate base : Nat) : Bool :=
  let s := twos (candidate - 1)
  let power := powMod base ((candidate - 1) / Nat.pow 2 s) candidate
  power == 1 || reachesMinusOne candidate power s

/-- Never refuses a prime; accepts other numbers with a negligible chance. -/
def isProbable (candidate : Nat) : Bool :=
  if candidate < 2 then false
  else if smallPrimes.contains candidate then true
  else if smallPrimes.any (candidate % · == 0) then false
  else (smallPrimes.take 24).all (passes candidate)

def search (wanted : Nat → Bool) : Nat → Nat → Option Nat
  | 0, _ => none
  | count + 1, candidate =>
    if wanted candidate && isProbable candidate then some candidate
    else search wanted count (candidate + 2)

end MailExchange.Prime

namespace MailExchange.Entropy

open Text (Bytes)

def derive (seed : Bytes) (purpose : String) : Bytes := Sha256.hash (seed ++ Text.utf8 purpose)

def bytes (seed : Bytes) (count : Nat) : Bytes :=
  ((List.range (count / 32 + 1)).flatMap fun i =>
    Sha256.hash (seed ++ BigEndian.ofNat 8 i)).take count

/-- An odd number of so many bits, the highest two of which are set. -/
def oddNumber (seed : Bytes) (bits : Nat) : Nat :=
  let value := BigEndian.toNat (bytes seed (bits / 8 + 1)) % Nat.pow 2 bits
  value ||| Nat.pow 2 (bits - 1) ||| Nat.pow 2 (bits - 2) ||| 1

end MailExchange.Entropy

namespace MailExchange.Rsa

open Text (Bytes)

structure PublicKey where
  modulus : Nat
  exponent : Nat
  deriving DecidableEq, Repr, Inhabited

namespace PublicKey

def bits (key : PublicKey) : Nat := if key.modulus = 0 then 0 else key.modulus.log2 + 1

def size (key : PublicKey) : Nat := BigEndian.size key.modulus

end PublicKey

structure PrivateKey extends PublicKey where
  privateExponent : Nat
  p : Nat
  q : Nat
  /-- The private exponent modulo `p - 1`. -/
  exponentP : Nat
  /-- The private exponent modulo `q - 1`. -/
  exponentQ : Nat
  /-- The inverse of `q` modulo `p`. -/
  inverseQ : Nat
  deriving DecidableEq, Repr, Inhabited

namespace Oaep

def hashSize : Nat := 20

def xor (left right : Bytes) : Bytes := left.zipWith (· ^^^ ·) right

/-- The mask generation function MGF1. -/
def mask (seed : Bytes) (count : Nat) : Bytes :=
  ((List.range (count / hashSize + 1)).flatMap fun i =>
    Sha1.hash (seed ++ BigEndian.ofNat 4 i)).take count

def overhead : Nat := 2 * hashSize + 2

def pad (size : Nat) (seed message : Bytes) : Option Bytes :=
  if message.length + overhead ≤ size then
    let zeros := List.replicate (size - overhead - message.length) 0
    let block := Sha1.hash [] ++ zeros ++ 1 :: message
    let maskedBlock := xor block (mask seed block.length)
    some (0 :: xor seed (mask maskedBlock hashSize) ++ maskedBlock)
  else none

def unpad (padded : Bytes) : Option Bytes :=
  if padded.length < overhead then none
  else
    let maskedSeed := (padded.drop 1).take hashSize
    let maskedBlock := padded.drop (1 + hashSize)
    let seed := xor maskedSeed (mask maskedBlock hashSize)
    let block := xor maskedBlock (mask seed maskedBlock.length)
    if padded.head? = some 0 ∧ block.take hashSize = Sha1.hash [] then
      match (block.drop hashSize).dropWhile (· == 0) with
      | 1 :: message => some message
      | _ => none
    else none

end Oaep

def PublicKey.encrypt (key : PublicKey) (seed message : Bytes) : Except Error Bytes :=
  match Oaep.pad key.size seed message with
  | some padded =>
    if key.modulus ≤ key.exponent then .error .crypto
    else .ok (BigEndian.ofNat key.size
      (Prime.powMod (BigEndian.toNat padded) key.exponent key.modulus))
  | none => .error .crypto

namespace PrivateKey

def rootByFactors (key : PrivateKey) (value : Nat) : Nat :=
  let rootP := Prime.powMod (value % key.p) key.exponentP key.p
  let rootQ := Prime.powMod (value % key.q) key.exponentQ key.q
  rootQ + key.q * ((rootP + key.p - rootQ % key.p) * key.inverseQ % key.p)

def root (key : PrivateKey) (value : Nat) : Nat :=
  let fast := key.rootByFactors value
  if Prime.powMod fast key.exponent key.modulus = value then fast
  else Prime.powMod value key.privateExponent key.modulus

def decrypt? (key : PrivateKey) (locked : Bytes) : Option Bytes :=
  let value := BigEndian.toNat locked
  if key.size < locked.length ∨ key.modulus ≤ value then none
  else Oaep.unpad (BigEndian.ofNat key.size (key.root value))

def decrypt (key : PrivateKey) (locked : Bytes) : Except Error Bytes :=
  match key.decrypt? locked with
  | some message => .ok message
  | none => .error .badCiphertext

def isConsistent (key : PrivateKey) : Bool :=
  key.exponent != 1 && key.exponent % 2 == 1
    && Prime.isProbable key.p && Prime.isProbable key.q
    && key.modulus == key.p * key.q
    && key.privateExponent * key.exponent % Nat.lcm (key.p - 1) (key.q - 1) == 1
    && key.exponentP == key.privateExponent % (key.p - 1)
    && key.exponentQ == key.privateExponent % (key.q - 1)
    && key.inverseQ < key.p && key.inverseQ * key.q % key.p == 1

end PrivateKey

def usualExponent : Nat := 65537

def ofFactors (p q : Nat) : PrivateKey :=
  let order := Nat.lcm (p - 1) (q - 1)
  let multiple := usualExponent - Prime.inverseMod (order % usualExponent) usualExponent
  let d := (1 + order * multiple) / usualExponent
  ⟨⟨p * q, usualExponent⟩, d, p, q, d % (p - 1), d % (q - 1), Prime.inverseMod (q % p) p⟩

/-- A prime of so many bits whose predecessor is prime to the usual exponent. -/
def factor (seed : Bytes) (bits : Nat) (other : Nat) : Option Nat :=
  Prime.search (fun candidate => candidate != other && candidate % usualExponent != 1)
    (64 * bits) (Entropy.oddNumber seed bits)

def leastBits : Nat := 512

def generate (seed : Bytes) (bits : Nat) : Except Error PrivateKey :=
  if bits < leastBits then .error .crypto
  else
    let first := factor (Entropy.derive seed "p") ((bits + 1) / 2) 0
    let second := first.bind (factor (Entropy.derive seed "q") (bits / 2))
    match first, second with
    | some p, some q => .ok (ofFactors p q)
    | _, _ => .error .crypto

end MailExchange.Rsa
