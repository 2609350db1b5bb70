import MailExchange.Text.Basic
import MailExchange.Text.Quoted

namespace MailExchange.Transfer

inductive Command where
  | begin
  | recipients (addresses : List String)
  | sender (address : String)
  | subject (text : String)
  | body (text : String)
  | tag (text : String)
  | send
  | quit
  deriving DecidableEq, Repr

namespace Command

def line : Command → String
  | begin => "begin"
  | recipients addresses => "to " ++ Text.join "," addresses
  | sender address => "from " ++ address
  | subject text => "subject " ++ text
  | body text => "data " ++ text
  | tag text => "hash " ++ text
  | send => "send"
  | quit => "quit"

def word? (text : String) : Option String :=
  if text = "" ∨ Text.hasChar ' ' text then none else some text

def recipients? (text : String) : Option (List String) :=
  let addresses := Text.splitAtEach ',' text
  if addresses.contains "" then none else some addresses

def text? (text : String) : Option String :=
  if Text.hasChar '\n' text then none else some text

def isTagChar (c : Char) : Bool :=
  decide ('A' ≤ c ∧ c ≤ 'Z' ∨ 'a' ≤ c ∧ c ≤ 'z' ∨ '0' ≤ c ∧ c ≤ '9' ∨ c = '+' ∨ c = '/')

def tag? (text : String) : Option String :=
  let digits := text.toList.takeWhile isTagChar
  if digits ≠ [] ∧ (text.toList.drop digits.length).all (· == '=') then some text else none

def parse? (line : String) : Option Command :=
  match Text.splitAtFirst ' ' line with
  | ("begin", none) => some begin
  | ("send", none) => some send
  | ("quit", none) => some quit
  | ("subject", none) => some (subject "")
  | ("data", none) => some (body "")
  | ("to", some text) => ((word? text).bind recipients?).map recipients
  | ("from", some text) => (word? text).map sender
  | ("subject", some text) => (text? text).map subject
  | ("data", some text) => (text? text).map body
  | ("hash", some text) => (tag? text).map tag
  | _ => none

def describe : Command → String
  | begin => "Begin"
  | recipients addresses => "To(" ++ Text.quotedList addresses ++ ")"
  | sender address => "From(" ++ Text.quoted address ++ ")"
  | subject text => "Subject(" ++ Text.quoted text ++ ")"
  | body text => "Data(" ++ Text.quoted text ++ ")"
  | tag text => "Hash(" ++ Text.quoted text ++ ")"
  | send => "Send"
  | quit => "Quit"

end Command

end MailExchange.Transfer
