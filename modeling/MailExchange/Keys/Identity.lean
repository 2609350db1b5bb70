namespace MailExchange.Keys

def isIdentityStart (c : Char) : Bool :=
  decide ('a' ≤ c ∧ c ≤ 'z' ∨ 'A' ≤ c ∧ c ≤ 'Z' ∨ '0' ≤ c ∧ c ≤ '9' ∨ c = '_' ∨ c = '-')

def isIdentityChar (c : Char) : Bool := isIdentityStart c || c == '.'

/-- Letters, digits and `_`, `-`, `.`, of which the last does not come first. -/
def isIdentity (text : String) : Bool :=
  match text.toList with
  | [] => false
  | first :: rest => isIdentityStart first && rest.all isIdentityChar

inductive Kind where
  | publicKey
  | privateKey
  deriving DecidableEq, Repr

def Kind.ending : Kind → String
  | publicKey => "_pub.pem"
  | privateKey => ".pem"

def fileName (identity : String) (kind : Kind) : String := identity ++ kind.ending

end MailExchange.Keys
