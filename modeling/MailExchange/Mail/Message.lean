import MailExchange.Address
import MailExchange.Error
import MailExchange.Text.Basic

namespace MailExchange

structure Mail where
  sender : String
  recipients : List String
  subject : String
  body : String
  tag : Option String := none
  deriving DecidableEq, Repr, Inhabited

structure Draft where
  sender : Option String := none
  recipients : Option (List String) := none
  subject : Option String := none
  body : Option String := none
  tag : Option String := none
  deriving DecidableEq, Repr, Inhabited

inductive Field where
  | sender
  | recipients
  | subject
  | body
  deriving DecidableEq, Repr

def Field.name : Field → String
  | sender => "sender"
  | recipients => "recipients"
  | subject => "subject"
  | body => "body"

namespace Draft

/-- The mail, or the first field that is missing. No recipients at all count as a missing field. -/
def complete (draft : Draft) : Except Field Mail :=
  match draft.sender, draft.recipients, draft.subject, draft.body with
  | none, _, _, _ => .error .sender
  | _, none, _, _ => .error .recipients
  | _, some [], _, _ => .error .recipients
  | _, _, none, _ => .error .subject
  | _, _, _, none => .error .body
  | some sender, some recipients, some subject, some body =>
    .ok ⟨sender, recipients, subject, body, draft.tag⟩

def ofMail (mail : Mail) : Draft :=
  ⟨some mail.sender, some mail.recipients, some mail.subject, some mail.body, mail.tag⟩

end Draft

namespace Mail

def joinedRecipients (mail : Mail) : String := Text.join "," mail.recipients

def senderDomain (mail : Mail) : Option String := Address.route? mail.sender

end Mail

class Consumer (κ : Type) where
  accepts : κ → String → Bool
  consume : κ → Mail → Except Error Unit × κ

end MailExchange
