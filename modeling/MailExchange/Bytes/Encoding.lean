import MailExchange.Text.Basic

namespace MailExchange.BigEndian

open Text (Bytes)

def toNat (bytes : Bytes) : Nat := bytes.foldl (fun value byte => value * 256 + byte.toNat) 0

/-- The last `count` bytes of a number. -/
def ofNat (count value : Nat) : Bytes :=
  match count with
  | 0 => []
  | count + 1 => ofNat count (value / 256) ++ [UInt8.ofNat (value % 256)]

def size (value : Nat) : Nat := if value = 0 then 0 else value.log2 / 8 + 1

def minimal (value : Nat) : Bytes := ofNat (size value) value

end MailExchange.BigEndian

namespace MailExchange.Base64

open Text (Bytes)

def sextetChar (value : Nat) : Char :=
  if value < 26 then Char.ofNat ('A'.toNat + value)
  else if value < 52 then Char.ofNat ('a'.toNat + (value - 26))
  else if value < 62 then Char.ofNat ('0'.toNat + (value - 52))
  else if value = 62 then '+' else '/'

def sextet? (c : Char) : Option Nat :=
  if 'A' ≤ c ∧ c ≤ 'Z' then some (c.toNat - 'A'.toNat)
  else if 'a' ≤ c ∧ c ≤ 'z' then some (c.toNat - 'a'.toNat + 26)
  else if '0' ≤ c ∧ c ≤ '9' then some (c.toNat - '0'.toNat + 52)
  else if c = '+' then some 62
  else if c = '/' then some 63
  else none

def encodeChars : Bytes → List Char
  | [] => []
  | [a] =>
    let bits := a.toNat * 16
    [sextetChar (bits / 64), sextetChar (bits % 64), '=', '=']
  | [a, b] =>
    let bits := (a.toNat * 256 + b.toNat) * 4
    [sextetChar (bits / 4096), sextetChar (bits / 64 % 64), sextetChar (bits % 64), '=']
  | a :: b :: c :: rest =>
    let bits := (a.toNat * 256 + b.toNat) * 256 + c.toNat
    sextetChar (bits / 262144) :: sextetChar (bits / 4096 % 64) :: sextetChar (bits / 64 % 64)
      :: sextetChar (bits % 64) :: encodeChars rest

def encode (bytes : Bytes) : String := String.ofList (encodeChars bytes)

/-- The bytes that whole groups of four sextets and one shorter last group stand for. -/
def ofSextets : List Nat → Option Bytes
  | [] => some []
  | [_] => none
  | [a, b] => if b % 16 = 0 then some [UInt8.ofNat (a * 4 + b / 16)] else none
  | [a, b, c] =>
    if c % 4 = 0 then
      some [UInt8.ofNat (a * 4 + b / 16), UInt8.ofNat (b % 16 * 16 + c / 4)]
    else none
  | a :: b :: c :: d :: rest =>
    (ofSextets rest).map fun bytes =>
      UInt8.ofNat (a * 4 + b / 16) :: UInt8.ofNat (b % 16 * 16 + c / 4)
        :: UInt8.ofNat (c % 4 * 64 + d) :: bytes

def mostPadding (length : Nat) : Nat :=
  match length % 4 with
  | 2 => 2
  | 3 => 1
  | _ => 0

def decodeChars (cs : List Char) : Option Bytes :=
  let digits := cs.takeWhile (· != '=')
  let padding := cs.drop digits.length
  if padding.all (· == '=') ∧ padding.length ≤ mostPadding digits.length then
    (digits.mapM sextet?).bind ofSextets
  else none

def decode? (text : String) : Option Bytes := decodeChars text.toList

end MailExchange.Base64
