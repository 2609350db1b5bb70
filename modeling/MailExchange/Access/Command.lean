import MailExchange.Mail.Mailbox
import MailExchange.Text.Basic

namespace MailExchange.Access

inductive Command where
  | startSecure
  | login (user password : String)
  | list
  | view (id : MessageId)
  | delete (id : MessageId)
  | logout
  | quit
  deriving DecidableEq, Repr

namespace Command

def line : Command → String
  | startSecure => "startsecure"
  | login user password => "login " ++ user ++ " " ++ password
  | list => "list"
  | view id => "show " ++ Text.decimal id.toNat
  | delete id => "delete " ++ Text.decimal id.toNat
  | logout => "logout"
  | quit => "quit"

def login? (text : String) : Option Command :=
  match Text.splitAtEach ' ' text with
  | [user, password] => if user = "" ∨ password = "" then none else some (login user password)
  | _ => none

/-- One to nineteen digits; all such numbers are below 2^64. -/
def id? (text : String) : Option MessageId :=
  if text.length ≤ 19 then (Text.decimal? text.toList).map UInt64.ofNat else none

def parse? (line : String) : Option Command :=
  match Text.splitAtFirst ' ' line with
  | ("startsecure", none) => some startSecure
  | ("list", none) => some list
  | ("logout", none) => some logout
  | ("quit", none) => some quit
  | ("login", some text) => login? text
  | ("show", some text) => (id? text).map view
  | ("delete", some text) => (id? text).map delete
  | _ => none

end Command

end MailExchange.Access
