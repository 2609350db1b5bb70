import MailExchange.Bytes.Encoding

namespace MailExchange

open Text (Bytes)

/-- The message with the bit 1, zeros and its length in bits, up to a multiple of 64 bytes. -/
def hashPadding (message : Bytes) : Bytes :=
  let zeros := (119 - message.length % 64) % 64
  message ++ 0x80 :: List.replicate zeros 0 ++ BigEndian.ofNat 8 (message.length * 8)

def hashBlocks (count : Nat) (bytes : Bytes) : List Bytes :=
  match count with
  | 0 => []
  | count + 1 => bytes.take 64 :: hashBlocks count (bytes.drop 64)

def paddedBlocks (message : Bytes) : List Bytes :=
  let padded := hashPadding message
  hashBlocks (padded.length / 64) padded

def hashWords (block : Bytes) : Array UInt32 :=
  ((List.range (block.length / 4)).map fun i =>
    UInt32.ofNat (BigEndian.toNat ((block.drop (4 * i)).take 4))).toArray

def wordBytes (word : UInt32) : Bytes := BigEndian.ofNat 4 word.toNat

def rotateLeft (word : UInt32) (count : UInt32) : UInt32 :=
  (word <<< count) ||| (word >>> (32 - count))

namespace Sha1

structure State where
  a : UInt32
  b : UInt32
  c : UInt32
  d : UInt32
  e : UInt32

def start : State := ⟨0x67452301, 0xefcdab89, 0x98badcfe, 0x10325476, 0xc3d2e1f0⟩

def schedule (block : Bytes) : Array UInt32 :=
  (List.range 64).foldl
    (fun w i =>
      let t := i + 16
      w.push (rotateLeft (w[t - 3]! ^^^ w[t - 8]! ^^^ w[t - 14]! ^^^ w[t - 16]!) 1))
    (hashWords block)

def mix (t : Nat) (b c d : UInt32) : UInt32 × UInt32 :=
  if t < 20 then ((b &&& c) ||| (~~~b &&& d), 0x5a827999)
  else if t < 40 then (b ^^^ c ^^^ d, 0x6ed9eba1)
  else if t < 60 then ((b &&& c) ||| (b &&& d) ||| (c &&& d), 0x8f1bbcdc)
  else (b ^^^ c ^^^ d, 0xca62c1d6)

def round (w : Array UInt32) (s : State) (t : Nat) : State :=
  let (f, k) := mix t s.b s.c s.d
  ⟨rotateLeft s.a 5 + f + s.e + k + w[t]!, s.a, rotateLeft s.b 30, s.c, s.d⟩

def compress (s : State) (block : Bytes) : State :=
  let r := (List.range 80).foldl (round (schedule block)) s
  ⟨s.a + r.a, s.b + r.b, s.c + r.c, s.d + r.d, s.e + r.e⟩

def hash (message : Bytes) : Bytes :=
  let s := (paddedBlocks message).foldl compress start
  [s.a, s.b, s.c, s.d, s.e].flatMap wordBytes

end Sha1

namespace Sha256

structure State where
  a : UInt32
  b : UInt32
  c : UInt32
  d : UInt32
  e : UInt32
  f : UInt32
  g : UInt32
  h : UInt32

def start : State :=
  ⟨0x6a09e667, 0xbb67ae85, 0x3c6ef372, 0xa54ff53a, 0x510e527f, 0x9b05688c, 0x1f83d9ab, 0x5be0cd19⟩

def constants : Array UInt32 := #[
  0x428a2f98, 0x71374491, 0xb5c0fbcf, 0xe9b5dba5, 0x3956c25b, 0x59f111f1, 0x923f82a4, 0xab1c5ed5,
  0xd807aa98, 0x12835b01, 0x243185be, 0x550c7dc3, 0x72be5d74, 0x80deb1fe, 0x9bdc06a7, 0xc19bf174,
  0xe49b69c1, 0xefbe4786, 0x0fc19dc6, 0x240ca1cc, 0x2de92c6f, 0x4a7484aa, 0x5cb0a9dc, 0x76f988da,
  0x983e5152, 0xa831c66d, 0xb00327c8, 0xbf597fc7, 0xc6e00bf3, 0xd5a79147, 0x06ca6351, 0x14292967,
  0x27b70a85, 0x2e1b2138, 0x4d2c6dfc, 0x53380d13, 0x650a7354, 0x766a0abb, 0x81c2c92e, 0x92722c85,
  0xa2bfe8a1, 0xa81a664b, 0xc24b8b70, 0xc76c51a3, 0xd192e819, 0xd6990624, 0xf40e3585, 0x106aa070,
  0x19a4c116, 0x1e376c08, 0x2748774c, 0x34b0bcb5, 0x391c0cb3, 0x4ed8aa4a, 0x5b9cca4f, 0x682e6ff3,
  0x748f82ee, 0x78a5636f, 0x84c87814, 0x8cc70208, 0x90befffa, 0xa4506ceb, 0xbef9a3f7, 0xc67178f2]

def rotateRight (word : UInt32) (count : UInt32) : UInt32 :=
  (word >>> count) ||| (word <<< (32 - count))

def schedule (block : Bytes) : Array UInt32 :=
  (List.range 48).foldl
    (fun w i =>
      let t := i + 16
      let x := w[t - 15]!
      let y := w[t - 2]!
      let low := rotateRight x 7 ^^^ rotateRight x 18 ^^^ (x >>> 3)
      let high := rotateRight y 17 ^^^ rotateRight y 19 ^^^ (y >>> 10)
      w.push (w[t - 16]! + low + w[t - 7]! + high))
    (hashWords block)

def round (w : Array UInt32) (s : State) (t : Nat) : State :=
  let sum := rotateRight s.e 6 ^^^ rotateRight s.e 11 ^^^ rotateRight s.e 25
  let choice := (s.e &&& s.f) ^^^ (~~~s.e &&& s.g)
  let first := s.h + sum + choice + constants[t]! + w[t]!
  let major := (s.a &&& s.b) ^^^ (s.a &&& s.c) ^^^ (s.b &&& s.c)
  let second := (rotateRight s.a 2 ^^^ rotateRight s.a 13 ^^^ rotateRight s.a 22) + major
  ⟨first + second, s.a, s.b, s.c, s.d + first, s.e, s.f, s.g⟩

def compress (s : State) (block : Bytes) : State :=
  let r := (List.range 64).foldl (round (schedule block)) s
  ⟨s.a + r.a, s.b + r.b, s.c + r.c, s.d + r.d, s.e + r.e, s.f + r.f, s.g + r.g, s.h + r.h⟩

def hash (message : Bytes) : Bytes :=
  let s := (paddedBlocks message).foldl compress start
  [s.a, s.b, s.c, s.d, s.e, s.f, s.g, s.h].flatMap wordBytes

def hmac (key message : Bytes) : Bytes :=
  let short := if 64 < key.length then hash key else key
  let padded := short ++ List.replicate (64 - short.length) 0
  hash (padded.map (· ^^^ 0x5c) ++ hash (padded.map (· ^^^ 0x36) ++ message))

end Sha256

end MailExchange
