import MailExchange.Toml.Token

/-!
The values of TOML documents, and reading from the tokens of a document. Of the values only what the
settings of this program can hold is kept; a float is a value whose number does not matter.
-/

namespace MailExchange.Toml

inductive Value where
  | text (value : String)
  | integer (value : Int)
  | float
  | boolean (value : Bool)
  | date (text : String)
  | array (values : List Value)
  /-- A table; dotted keys may add to it if it is open. -/
  | table (entries : List (String × Value)) (isOpen : Bool)

abbrev Entries := List (String × Value)

abbrev Parse := StateT (List Token) Option

namespace Parse

def next : Parse Token := fun tokens =>
  match tokens with
  | token :: rest => some (token, rest)
  | [] => none

def eat (token : Token) : Parse Bool := fun tokens =>
  match tokens with
  | first :: rest => if first = token then some (true, rest) else some (false, tokens)
  | [] => some (false, [])

def expect (token : Token) : Parse Unit := do
  if !(← eat token) then failure

def skipBlank : Parse Unit := modify fun tokens =>
  match tokens with
  | .blank _ :: rest => rest
  | _ => tokens

def newlineOrEnd : Parse Unit := fun tokens =>
  match tokens with
  | [] => some ((), [])
  | .newline :: rest => some ((), rest)
  | _ => none

def eatComment : Parse Bool := do
  if ← eat .comment then
    newlineOrEnd
    return true
  return false

def endOfLine : Parse Unit := do
  skipBlank
  if !(← eatComment) then newlineOrEnd

def word : Parse (List Char) := do
  match ← next with
  | .word text => return text
  | _ => failure

def key : Parse String := do
  match ← next with
  | .word text => return String.ofList text
  | .quoted value false => return String.ofList value
  | _ => failure

def dottedRest : Nat → Parse (List String)
  | 0 => failure
  | bound + 1 => do
    skipBlank
    if ← eat (.mark '.') then
      skipBlank
      let part ← key
      return part :: (← dottedRest bound)
    return []

def dottedKey : Parse (List String) := do
  let first ← key
  return first :: (← dottedRest ((← get).length + 1))

end Parse

/-- Whether a digit has been seen, whether the first one is a zero, and whether `_` came last. -/
structure DigitState where
  seen : Bool := false
  zeroFirst : Bool := false
  underscore : Bool := false

def radixDigit? (radix : Nat) (c : Char) : Option Nat :=
  (hexDigit? c).bind fun value => if value < radix then some value else none

/-- The digits at the start of a text, and the rest of it. Underscores may stand between digits. -/
def digitRun (radix : Nat) (zerosLead : Bool) (state : DigitState) :
    List Char → Option (List Nat × List Char)
  | [] => if state.seen && !state.underscore then some ([], []) else none
  | c :: rest =>
    match radixDigit? radix c with
    | some value =>
      if !state.seen && value == 0 then
        (digitRun radix zerosLead { seen := true, zeroFirst := true } rest).map
          fun (digits, rest) => (0 :: digits, rest)
      else if state.seen && state.zeroFirst && !zerosLead then none
      else
        (digitRun radix zerosLead { state with seen := true, underscore := false } rest).map
          fun (digits, rest) => (value :: digits, rest)
    | none =>
      if c = '_' ∧ (!state.seen) then none
      else if c = '_' ∧ !state.underscore then
        digitRun radix zerosLead { state with underscore := true } rest
      else if state.seen && !state.underscore then some ([], c :: rest)
      else none

def digitsValue (radix : Nat) (digits : List Nat) : Nat :=
  digits.foldl (fun value digit => value * radix + digit) 0

def signedRun (cs : List Char) : Option (Bool × List Nat × List Char) :=
  match cs with
  | '-' :: rest => (digitRun 10 false {} rest).map fun (digits, rest) => (true, digits, rest)
  | _ => (digitRun 10 false {} cs).map fun (digits, rest) => (false, digits, rest)

def wordOfInt (value : Int) : Option Value :=
  if -(Nat.pow 2 63 : Int) ≤ value ∧ value < (Nat.pow 2 63 : Int) then some (.integer value) else none

def unsignedInteger? (radix : Nat) (cs : List Char) : Option Value :=
  match digitRun radix true {} cs with
  | some (digits, []) => wordOfInt (digitsValue radix digits)
  | _ => none

def integer? (cs : List Char) : Option Value :=
  match signedRun cs with
  | some (negative, digits, []) =>
    let value : Int := digitsValue 10 digits
    wordOfInt (if negative then -value else value)
  | _ => none

/-- Whether `digits · 10^exponent` is nearer to a float than to the first number past them all. -/
def isFinite (digits : List Nat) (exponent : Int) : Bool :=
  let value := digitsValue 10 digits
  let limit := Nat.pow 2 1024 - Nat.pow 2 970
  if value = 0 then true
  else if 400 < exponent then false
  else if 0 ≤ exponent then decide (value * Nat.pow 10 exponent.toNat < limit)
  else if (digits.length : Int) + exponent < 300 then true
  else decide (value < limit * Nat.pow 10 (-exponent).toNat)

namespace Parse

def lift {α : Type} (value : Option α) : Parse α := fun tokens => value.map (·, tokens)

def exponent (rest : List Char) : Parse Int := do
  match rest with
  | [] => return 0
  | mark :: rest =>
    if mark ≠ 'e' ∧ mark ≠ 'E' then failure
    let (negative, rest) ← match rest with
      | [] => do
        let _ ← eat (.mark '+')
        pure (false, ← word)
      | '-' :: rest => pure (true, rest)
      | _ => pure (false, rest)
    match digitRun 10 true {} rest with
    | some (digits, []) =>
      let value : Int := digitsValue 10 digits
      return if negative then -value else value
    | _ => failure

def float (cs : List Char) (fraction : Option (List Char)) : Parse Value := do
  let (_, whole, rest) ← lift (signedRun cs)
  let (part, rest) ← match fraction with
    | none => pure ([], rest)
    | some after => if rest = [] then lift (digitRun 10 true {} after) else failure
  let exponent ← exponent rest
  if isFinite (whole ++ part) (exponent - part.length) then return .float
  failure

def number (cs : List Char) : Parse Value := do
  match cs with
  | '0' :: 'x' :: digits => lift (unsignedInteger? 16 digits)
  | '0' :: 'o' :: digits => lift (unsignedInteger? 8 digits)
  | '0' :: 'b' :: digits => lift (unsignedInteger? 2 digits)
  | _ =>
    if cs.contains 'e' || cs.contains 'E' then float cs none
    else if ← eat (.mark '.') then float cs (some (← word))
    else if ["inf", "-inf", "nan", "-nan"].contains (String.ofList cs) then return .float
    else lift (integer? cs)

end Parse

end MailExchange.Toml

namespace MailExchange.Toml.Parse

/-- An hour that follows a date after a single space. -/
def spacedHour : Parse (List Char) := fun tokens =>
  match tokens with
  | .blank [' '] :: .word hour :: rest => some (' ' :: hour, rest)
  | _ => some ([], tokens)

def markedWord (c : Char) : Parse (List Char) := do
  if ← eat (.mark c) then return c :: (← word)
  return []

def timeRest : Parse (List Char) := do
  let minutes ← word
  expect (.mark ':')
  let seconds ← word
  let fraction ← markedWord '.'
  let offset ← markedWord '+'
  let offsetMinutes ← markedWord ':'
  return ':' :: minutes ++ ':' :: seconds ++ fraction ++ offset ++ offsetMinutes

/-- A date or time, of which an hour and a colon may have been read already. -/
def date (cs : List Char) (colonRead : Bool) : Parse Value := do
  let hour ← spacedHour
  let hasTime ← if colonRead then pure true else eat (.mark ':')
  let rest ← if hasTime then timeRest else pure []
  return .date (String.ofList (cs ++ hour ++ rest))

def looksLikeDate (cs : List Char) : Bool :=
  let text := String.ofList cs
  cs.contains 'T' || cs.contains 't'
    || ((cs.drop 1).contains '-' && (text.splitOn "e-").length == 1
      && (text.splitOn "E-").length == 1)

def numberOrDate (cs : List Char) : Parse Value := do
  if looksLikeDate cs then date cs false
  else if ← eat (.mark ':') then date cs true
  else number cs

def wordValue (cs : List Char) : Parse Value :=
  match cs with
  | ['t', 'r', 'u', 'e'] => return .boolean true
  | ['f', 'a', 'l', 's', 'e'] => return .boolean false
  | ['i', 'n', 'f'] | ['n', 'a', 'n'] => numberOrDate cs
  | c :: _ => if c = '-' ∨ c.isDigit then numberOrDate cs else failure
  | [] => failure

end MailExchange.Toml.Parse
