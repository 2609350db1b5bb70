import MailExchange.Bytes.Encoding
import MailExchange.Crypto.Rsa
import MailExchange.Text.Basic

namespace MailExchange.Der

open Text (Bytes)

def integerTag : UInt8 := 0x02

def bitStringTag : UInt8 := 0x03

def octetStringTag : UInt8 := 0x04

def sequenceTag : UInt8 := 0x30

def rsaAlgorithm : Bytes :=
  [0x06, 0x09, 0x2a, 0x86, 0x48, 0x86, 0xf7, 0x0d, 0x01, 0x01, 0x01, 0x05, 0x00]

def lengthBytes (length : Nat) : Bytes :=
  if length < 0x80 then [UInt8.ofNat length]
  else UInt8.ofNat (0x80 + BigEndian.size length) :: BigEndian.minimal length

def element (tag : UInt8) (content : Bytes) : Bytes := tag :: lengthBytes content.length ++ content

/-- A natural number, with a zero in front if its first bit is set. -/
def integer (value : Nat) : Bytes :=
  element integerTag (BigEndian.ofNat (value.log2 / 8 + (if value.log2 % 8 = 7 then 2 else 1)) value)

def sequence (elements : List Bytes) : Bytes := element sequenceTag elements.flatten

def readLength : Bytes → Option (Nat × Bytes)
  | [] => none
  | first :: rest =>
    if first < 0x80 then some (first.toNat, rest)
    else
      let size := first.toNat - 0x80
      if size = 0 ∨ 4 < size ∨ rest.length < size then none
      else some (BigEndian.toNat (rest.take size), rest.drop size)

def readElement (tag : UInt8) : Bytes → Option (Bytes × Bytes)
  | [] => none
  | first :: rest => do
    if first ≠ tag then none
    let (length, rest) ← readLength rest
    if rest.length < length then none
    return (rest.take length, rest.drop length)

def readInteger (bytes : Bytes) : Option (Nat × Bytes) := do
  let (content, rest) ← readElement integerTag bytes
  match content with
  | first :: _ => if first < 0x80 then some (BigEndian.toNat content, rest) else none
  | [] => none

def readIntegers : Nat → Bytes → Option (List Nat)
  | 0, _ => some []
  | count + 1, bytes => do
    let (value, rest) ← readInteger bytes
    return value :: (← readIntegers count rest)

def publicKey (key : Rsa.PublicKey) : Bytes :=
  let inner := sequence [integer key.modulus, integer key.exponent]
  sequence [element sequenceTag rsaAlgorithm, element bitStringTag (0 :: inner)]

def privateKey (key : Rsa.PrivateKey) : Bytes :=
  sequence ([0, key.modulus, key.exponent, key.privateExponent, key.p, key.q, key.exponentP,
    key.exponentQ, key.inverseQ].map integer)

def readAlgorithm (bytes : Bytes) : Option Bytes := do
  let (algorithm, rest) ← readElement sequenceTag bytes
  if algorithm = rsaAlgorithm then some rest else none

def readPublicKey (bytes : Bytes) : Option Rsa.PublicKey := do
  let (content, _) ← readElement sequenceTag bytes
  let (bits, _) ← readElement bitStringTag (← readAlgorithm content)
  let (numbers, _) ← readElement sequenceTag (bits.drop 1)
  match bits.head?, readIntegers 2 numbers with
  | some 0, some [modulus, exponent] => some ⟨modulus, exponent⟩
  | _, _ => none

/-- A key that says nothing about its algorithm. -/
def readPrivateKey (bytes : Bytes) : Option Rsa.PrivateKey := do
  let (numbers, _) ← readElement sequenceTag bytes
  match readIntegers 9 numbers with
  | some [_, modulus, exponent, d, p, q, exponentP, exponentQ, inverseQ] =>
    some ⟨⟨modulus, exponent⟩, d, p, q, exponentP, exponentQ, inverseQ⟩
  | _ => none

def readFramedPrivateKey (bytes : Bytes) : Option Rsa.PrivateKey := do
  let (content, _) ← readElement sequenceTag bytes
  let (_, rest) ← readInteger content
  let (key, _) ← readElement octetStringTag (← readAlgorithm rest)
  readPrivateKey key

end MailExchange.Der

namespace MailExchange.Pem

open Text (Bytes)

abbrev Line := List Char

def fence : Line := "-----".toList

def beginLine (label : String) : Line := "-----BEGIN ".toList ++ label.toList ++ fence

def endLine (label : String) : Line := "-----END ".toList ++ label.toList ++ fence

def trimmed (line : Line) : Line := (line.reverse.dropWhile (· ≤ ' ')).reverse

def lines (file : Bytes) : List Line :=
  (Text.pieces '\n' (file.map fun byte => Char.ofNat byte.toNat)).map trimmed

/-- The label of a block and the lines after its first, for the first label of the wanted kind. -/
def findBlock (wanted : List String) : List Line → Option (String × List Line)
  | [] => none
  | line :: rest =>
    match wanted.find? (beginLine · == line) with
    | some label => some (label, rest)
    | none => findBlock wanted rest

def blockText (label : String) (body : List Line) : Option Line :=
  let inside := body.takeWhile (· != endLine label)
  if inside.length < body.length then some (inside.flatten.filter (' ' < ·)) else none

def block? (wanted : List String) (file : Bytes) : Option (String × Bytes) := do
  let (label, body) ← findBlock wanted (lines file)
  let text ← blockText label body
  if text.length % 4 ≠ 0 then none
  let content ← Base64.decodeChars text
  return (label, content)

def publicLabel : String := "PUBLIC KEY"

def privateLabel : String := "RSA PRIVATE KEY"

def framedLabel : String := "PRIVATE KEY"

def readPublicKey (file : Bytes) : Option Rsa.PublicKey := do
  let (_, content) ← block? [publicLabel] file
  Der.readPublicKey content

def readPrivateKey (file : Bytes) : Option Rsa.PrivateKey := do
  let (label, content) ← block? [privateLabel, framedLabel] file
  if label = privateLabel then Der.readPrivateKey content else Der.readFramedPrivateKey content

def wrapped : Nat → Line → List Line
  | 0, _ => []
  | count + 1, text => if text = [] then [] else text.take 64 :: wrapped count (text.drop 64)

def block (label : String) (content : Bytes) : Bytes :=
  let text := Base64.encodeChars content
  let file := beginLine label :: wrapped text.length text ++ [endLine label]
  Text.utf8 (String.ofList (file.flatMap (· ++ ['\n'])))

def publicKey (key : Rsa.PublicKey) : Bytes := block publicLabel (Der.publicKey key)

def privateKey (key : Rsa.PrivateKey) : Bytes := block privateLabel (Der.privateKey key)

end MailExchange.Pem
