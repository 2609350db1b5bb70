import MailExchange.Mail.Message

/-!
The mailboxes of all users. In each, ids count up from one and are never used again; the mailboxes
do not affect each other.
-/

namespace MailExchange

abbrev MessageId := UInt64

structure Mailbox where
  lastId : MessageId := 0
  messages : List (MessageId × Mail) := []
  deriving Repr, Inhabited

namespace Mailbox

def add (mailbox : Mailbox) (mail : Mail) : MessageId × Mailbox :=
  let id := mailbox.lastId + 1
  (id, ⟨id, mailbox.messages ++ [(id, mail)]⟩)

def get? (mailbox : Mailbox) (id : MessageId) : Option Mail :=
  (mailbox.messages.find? (·.1 == id)).map (·.2)

def delete (mailbox : Mailbox) (id : MessageId) : Bool × Mailbox :=
  ((mailbox.get? id).isSome,
    { mailbox with messages := mailbox.messages.filter (·.1 != id) })

end Mailbox

/-- A mailbox for every name; those that are not listed are empty. -/
structure Mailboxes where
  boxes : List (String × Mailbox) := []
  deriving Repr, Inhabited

namespace Mailboxes

def box (mailboxes : Mailboxes) (user : String) : Mailbox :=
  ((mailboxes.boxes.find? (·.1 == user)).map (·.2)).getD {}

def setBox (mailboxes : Mailboxes) (user : String) (mailbox : Mailbox) : Mailboxes :=
  ⟨(user, mailbox) :: mailboxes.boxes.filter (·.1 != user)⟩

def add (mailboxes : Mailboxes) (user : String) (mail : Mail) : MessageId × Mailboxes :=
  let (id, mailbox) := (mailboxes.box user).add mail
  (id, mailboxes.setBox user mailbox)

def list (mailboxes : Mailboxes) (user : String) : List (MessageId × Mail) :=
  (mailboxes.box user).messages

def get? (mailboxes : Mailboxes) (user : String) (id : MessageId) : Option Mail :=
  (mailboxes.box user).get? id

def delete (mailboxes : Mailboxes) (user : String) (id : MessageId) : Bool × Mailboxes :=
  let (found, mailbox) := (mailboxes.box user).delete id
  (found, mailboxes.setBox user mailbox)

end Mailboxes

end MailExchange
