import MailExchange.Text.Basic
import MailExchange.Text.Lowercase

/-!
Mail addresses `user@domain`. The user and the domain hold no blank, comma or second `@`; the domain
holds a dot with something on both sides of it.
-/

namespace MailExchange

structure Address where
  user : String
  domain : String
  deriving DecidableEq, Repr

namespace Address

def isPlain (c : Char) : Bool := c != '@' && c != ',' && !Text.isBlank c

def hasInnerDot (domain : List Char) : Bool := (domain.drop 1).dropLast.contains '.'

def parse? (text : String) : Option Address :=
  let user := text.toList.takeWhile isPlain
  match text.toList.drop user.length with
  | '@' :: domain =>
    if user ≠ [] ∧ domain.all isPlain ∧ hasInnerDot domain then
      some ⟨String.ofList user, String.ofList domain⟩
    else none
  | _ => none

def isValid (text : String) : Bool := (parse? text).isSome

def user? (text : String) : Option String := (parse? text).map (·.user)

def domain? (text : String) : Option String := (parse? text).map (·.domain)

/-- The domain as mail is routed by it: in lower case. -/
def route? (text : String) : Option String := (domain? text).map Text.lowercase

structure Routing where
  /-- Every domain with its recipients, in order of first appearance. -/
  groups : List (String × List String)
  invalid : List String
  deriving DecidableEq, Repr

def addToGroup (domain recipient : String) :
    List (String × List String) → List (String × List String)
  | [] => [(domain, [recipient])]
  | (name, members) :: others =>
    if name = domain then (name, members ++ [recipient]) :: others
    else (name, members) :: addToGroup domain recipient others

def Routing.add (routing : Routing) (recipient : String) : Routing :=
  match route? recipient with
  | some domain => { routing with groups := addToGroup domain recipient routing.groups }
  | none => { routing with invalid := routing.invalid ++ [recipient] }

def groupByDomain (recipients : List String) : Routing := recipients.foldl Routing.add ⟨[], []⟩

end Address

end MailExchange
