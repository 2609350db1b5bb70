import MailExchange.Bytes.Encoding
import MailExchange.Text.Basic

namespace MailExchange.Aes

open Text (Bytes)

def double (a : UInt8) : UInt8 := (a <<< 1) ^^^ (if a < 0x80 then 0 else 0x1b)

def times (a b : UInt8) : UInt8 :=
  ((List.range 8).foldl
    (fun (product, power, bits) _ =>
      (if bits % 2 = 0 then product else product ^^^ power, double power, bits / 2))
    ((0 : UInt8), a, b.toNat)).1

/-- The power 254, which is the inverse of everything but zero. -/
def inverse (a : UInt8) : UInt8 :=
  ((List.range 7).foldl
    (fun (product, square) _ =>
      let square := times square square
      (times product square, square))
    ((1 : UInt8), a)).1

def rotate (a : UInt8) (count : UInt8) : UInt8 := (a <<< count) ||| (a >>> (8 - count))

def substitute (a : UInt8) : UInt8 :=
  let b := inverse a
  b ^^^ rotate b 1 ^^^ rotate b 2 ^^^ rotate b 3 ^^^ rotate b 4 ^^^ 0x63

def sbox : Array UInt8 := (Array.range 256).map fun i => substitute (UInt8.ofNat i)

def sub (a : UInt8) : UInt8 := sbox[a.toNat]!

/-- What word `i` of the key schedule adds to the word eight before it. -/
def scheduleTerm (i : Nat) (constant : UInt8) (word : Bytes) : Bytes :=
  if i % 8 = 0 then
    match word with
    | [a, b, c, d] => [sub b ^^^ constant, sub c, sub d, sub a]
    | _ => word
  else if i % 8 = 4 then word.map sub
  else word

def addWords (left right : Bytes) : Bytes := left.zipWith (· ^^^ ·) right

structure Schedule where
  words : Array Bytes
  constant : UInt8

def extend (schedule : Schedule) (i : Nat) : Schedule :=
  let term := scheduleTerm i schedule.constant schedule.words[i - 1]!
  { words := schedule.words.push (addWords schedule.words[i - 8]! term)
    constant := if i % 8 = 0 then double schedule.constant else schedule.constant }

def expandKey (key : Bytes) : Array UInt8 :=
  let words := (List.range 8).map fun i => (key.drop (4 * i)).take 4
  let schedule := (List.range' 8 52).foldl extend ⟨words.toArray, 1⟩
  (schedule.words.toList.flatMap id).toArray

/-- Column `c` of the state after substitution and the shift of the rows. -/
def shifted (state : Array UInt8) (c : Nat) : UInt8 × UInt8 × UInt8 × UInt8 :=
  let cell (row : Nat) := sub state[4 * ((c + row) % 4) + row]!
  (cell 0, cell 1, cell 2, cell 3)

def mixColumn : UInt8 × UInt8 × UInt8 × UInt8 → Bytes
  | (a, b, c, d) =>
    let sum := a ^^^ b ^^^ c ^^^ d
    [a ^^^ sum ^^^ double (a ^^^ b), b ^^^ sum ^^^ double (b ^^^ c),
      c ^^^ sum ^^^ double (c ^^^ d), d ^^^ sum ^^^ double (d ^^^ a)]

def plainColumn : UInt8 × UInt8 × UInt8 × UInt8 → Bytes
  | (a, b, c, d) => [a, b, c, d]

def addRoundKey (keys : Array UInt8) (round : Nat) (state : Bytes) : Array UInt8 :=
  (state.mapIdx fun i byte => byte ^^^ keys[16 * round + i]!).toArray

def middleRound (keys : Array UInt8) (state : Array UInt8) (round : Nat) : Array UInt8 :=
  addRoundKey keys round ((List.range 4).flatMap fun c => mixColumn (shifted state c))

def encrypt (keys : Array UInt8) (block : Bytes) : Bytes :=
  let state := (List.range' 1 13).foldl (middleRound keys) (addRoundKey keys 0 block)
  (addRoundKey keys 14 ((List.range 4).flatMap fun c => plainColumn (shifted state c))).toList

end MailExchange.Aes

namespace MailExchange

open Text (Bytes)

structure Keystream where
  key : Bytes
  start : Nat
  used : Nat := 0
  deriving DecidableEq, Repr

namespace Keystream

def counterBlock (start index : Nat) : Bytes := BigEndian.ofNat 16 ((start + index) % Nat.pow 2 128)

def blocks (keys : Array UInt8) (start first count : Nat) : Bytes :=
  (List.range' first count).flatMap fun index => Aes.encrypt keys (counterBlock start index)

def next (stream : Keystream) (count : Nat) : Bytes :=
  let skipped := stream.used % 16
  let keys := Aes.expandKey stream.key
  ((blocks keys stream.start (stream.used / 16) ((skipped + count + 15) / 16)).drop skipped).take
    count

def apply (stream : Keystream) (bytes : Bytes) : Bytes × Keystream :=
  (bytes.zipWith (· ^^^ ·) (stream.next bytes.length),
    { stream with used := stream.used + bytes.length })

end Keystream

end MailExchange
