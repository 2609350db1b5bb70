import MailExchange.Text.Basic

/-!
The words of a command line. A word is an option, the value of the option before it, or an operand;
after `--` all words are operands. An option has a long name, and possibly a letter.
-/

namespace MailExchange.CommandLine

structure Switch where
  name : String
  letter : Option Char := none
  repeats : Bool := false
  deriving DecidableEq, Repr

inductive Stop where
  | help
  | version (program : String)
  | misuse
  deriving DecidableEq, Repr

structure Grammar where
  program : String
  switches : List Switch := []
  operands : Nat := 0
  commands : List String := []

structure Scan where
  /-- The names of the options, as often as they occur. -/
  named : List String := []
  values : List (String × String) := []
  operands : List String := []
  /-- The option that waits for its value. -/
  waiting : Option String := none
  /-- Whether there was a `--`. -/
  literal : Bool := false
  deriving Repr

namespace Scan

def attached (value : List Char) : String := String.ofList (value.dropWhile (· == '='))

def name (scan : Scan) (switch : Switch) (value : Option String) : Scan :=
  let scan := { scan with named := scan.named ++ [switch.name] }
  match value with
  | some value => { scan with values := scan.values ++ [(switch.name, value)], waiting := none }
  | none => { scan with waiting := some switch.name }

def takeOperand (grammar : Grammar) (scan : Scan) (word : String) : Except Stop Scan :=
  if scan.operands.length < grammar.operands then
    .ok { scan with operands := scan.operands ++ [word] }
  else .error .misuse

def takeLong (grammar : Grammar) (scan : Scan) (word : List Char) : Except Stop Scan :=
  let body := word.dropWhile (· == '-')
  let long := body.takeWhile (· != '=')
  let value := if long = body then none else some (attached (body.drop long.length))
  match grammar.switches.find? (·.name == String.ofList long) with
  | some switch => .ok (scan.name switch value)
  | none =>
    if String.ofList long = "help" then .error .help
    else if String.ofList long = "version" then .error (.version grammar.program)
    else .error .misuse

def takeShort (grammar : Grammar) (scan : Scan) (letter : Char) (rest : List Char) :
    Except Stop Scan :=
  match grammar.switches.find? (·.letter == some letter) with
  | some switch => .ok (scan.name switch (if rest = [] then none else some (attached rest)))
  | none =>
    if letter = 'h' then .error .help
    else if letter = 'V' then .error (.version grammar.program)
    else .error .misuse

def takeWord (grammar : Grammar) (scan : Scan) (word : String) : Except Stop Scan :=
  if scan.literal then scan.takeOperand grammar word
  else match word.toList, scan.waiting with
    | ['-', '-'], _ => .ok { scan with literal := true }
    | '-' :: '-' :: rest, _ => scan.takeLong grammar rest
    | '-' :: letter :: rest, _ => scan.takeShort grammar letter rest
    | _, some name => .ok { scan with values := scan.values ++ [(name, word)], waiting := none }
    | _, none => scan.takeOperand grammar word

def isCommand (grammar : Grammar) (scan : Scan) (word : String) : Bool :=
  !scan.literal && scan.waiting.isNone && grammar.commands.contains word

def words (grammar : Grammar) (scan : Scan) :
    List String → Except Stop (Scan × Option (String × List String))
  | [] => .ok (scan, none)
  | word :: rest =>
    if scan.isCommand grammar word then .ok (scan, some (word, rest))
    else match scan.takeWord grammar word with
      | .error stop => .error stop
      | .ok scan => words grammar scan rest

def valuesOf (scan : Scan) (name : String) : List String :=
  (scan.values.filter (·.1 == name)).map (·.2)

def suits (scan : Scan) (switch : Switch) : Bool :=
  let times := (scan.named.filter (· == switch.name)).length
  times == 0 || scan.valuesOf switch.name ≠ [] && (switch.repeats || times == 1)

def isComplete (grammar : Grammar) (scan : Scan) : Bool := grammar.switches.all scan.suits

def valueOr (scan : Scan) (name default : String) : String :=
  (scan.valuesOf name).head?.getD default

end Scan

end MailExchange.CommandLine
