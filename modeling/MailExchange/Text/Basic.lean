namespace MailExchange.Text

abbrev Bytes := List UInt8

def utf8 (text : String) : Bytes := text.toUTF8.data.toList

def ofUtf8? (bytes : Bytes) : Option String := String.fromUTF8? ⟨bytes.toArray⟩

abbrev CharClass := List (Nat × Nat)

def CharClass.has (ranges : CharClass) (c : Char) : Bool :=
  ranges.any fun range => decide (range.1 ≤ c.toNat ∧ c.toNat ≤ range.2)

def blanks : CharClass := [
  (0x9, 0xd), (0x20, 0x20), (0x85, 0x85), (0xa0, 0xa0), (0x1680, 0x1680), (0x2000, 0x200a),
  (0x2028, 0x2029), (0x202f, 0x202f), (0x205f, 0x205f), (0x3000, 0x3000)]

def isBlank (c : Char) : Bool := blanks.has c

/-- The pieces between the separators. There is always at least one. -/
def pieces (sep : Char) (cs : List Char) : List (List Char) :=
  cs.foldr
    (fun c found =>
      if c = sep then [] :: found
      else match found with
        | [] => [[c]]
        | piece :: others => (c :: piece) :: others)
    [[]]

def splitAtEach (sep : Char) (text : String) : List String :=
  (pieces sep text.toList).map String.ofList

def splitAtFirst (sep : Char) (text : String) : String × Option String :=
  let head := text.toList.takeWhile (· != sep)
  match text.toList.drop head.length with
  | [] => (text, none)
  | _ :: rest => (String.ofList head, some (String.ofList rest))

def join (sep : String) (texts : List String) : String := String.intercalate sep texts

def hasChar (c : Char) (text : String) : Bool := text.toList.contains c

def digitValue (c : Char) : Nat := c.toNat - '0'.toNat

def isDigit (c : Char) : Bool := decide ('0' ≤ c ∧ c ≤ '9')

def decimalValue (digits : List Char) : Nat :=
  digits.foldl (fun value c => value * 10 + digitValue c) 0

def decimal? (digits : List Char) : Option Nat :=
  if digits ≠ [] ∧ digits.all isDigit then some (decimalValue digits) else none

/-- A number of so many bits, which one plus sign may precede. -/
def word? (bits : Nat) (text : String) : Option Nat :=
  let digits := match text.toList with
    | '+' :: digits => digits
    | digits => digits
  match decimal? digits with
  | some value => if value < Nat.pow 2 bits then some value else none
  | none => none

def word64? (text : String) : Option UInt64 := (word? 64 text).map UInt64.ofNat

def decimal (value : Nat) : String := String.ofList (Nat.toDigits 10 value)

abbrev TextSet := List String

namespace TextSet

def insert (text : String) : TextSet → TextSet
  | [] => [text]
  | head :: rest =>
    if text < head then text :: head :: rest
    else if text = head then head :: rest
    else head :: insert text rest

def insertAll (texts : List String) (found : TextSet) : TextSet :=
  texts.foldl (fun found text => insert text found) found

def ofList (texts : List String) : TextSet := insertAll texts []

end TextSet

end MailExchange.Text
