import MailExchange.Address
import MailExchange.Mail.Mailbox
import MailExchange.Mail.Message
import MailExchange.Text.Basic

namespace MailExchange

structure Users where
  /-- In lower case. -/
  domain : String
  /-- Of two entries for one name the later one counts. -/
  passwords : List (String × String)
  deriving Repr

namespace Users

def ofDomain (domain : String) (passwords : List (String × String)) : Users :=
  ⟨Text.lowercase domain, passwords⟩

def password? (users : Users) (name : String) : Option String :=
  (users.passwords.reverse.find? (·.1 == name)).map (·.2)

def has (users : Users) (name : String) : Bool := (users.password? name).isSome

def accepts (users : Users) (name password : String) : Bool :=
  users.password? name == some password

def localUser? (users : Users) (address : String) : Option String :=
  match Address.parse? address with
  | some parsed =>
    if Text.sameIgnoringAsciiCase parsed.domain users.domain then some parsed.user else none
  | none => none

end Users

structure Delivery where
  users : Users
  mailboxes : Mailboxes := {}

namespace Delivery

def accepts (delivery : Delivery) (address : String) : Bool :=
  match delivery.users.localUser? address with
  | some user => delivery.users.has user
  | none => true

def addressees (delivery : Delivery) (mail : Mail) : List String :=
  Text.TextSet.ofList
    ((mail.recipients.filterMap delivery.users.localUser?).filter delivery.users.has)

def store (mail : Mail) (mailboxes : Mailboxes) (user : String) : Mailboxes :=
  (mailboxes.add user mail).2

def deliver (delivery : Delivery) (mail : Mail) : Delivery :=
  { delivery with
    mailboxes := (delivery.addressees mail).foldl (store mail) delivery.mailboxes }

instance : Consumer Delivery where
  accepts := accepts
  consume delivery mail := (.ok (), delivery.deliver mail)

end Delivery

end MailExchange
