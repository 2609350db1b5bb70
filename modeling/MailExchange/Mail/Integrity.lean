import MailExchange.Bytes.Encoding
import MailExchange.Crypto.Hash
import MailExchange.Error
import MailExchange.Mail.Message

/-!
Integrity tags: the base64 text of a keyed hash over sender, recipients, subject and body, which are
joined by line breaks. An empty key is refused.
-/

namespace MailExchange.Mail

open Text (Bytes)

def integrityInput (mail : Mail) : String :=
  Text.join "\n" [mail.sender, mail.joinedRecipients, mail.subject, mail.body]

def keyedHash (key message : Bytes) : Except Error Bytes :=
  if key = [] then .error .crypto else .ok (Sha256.hmac key message)

def sign (key : Bytes) (mail : Mail) : Except Error Mail :=
  (keyedHash key (Text.utf8 mail.integrityInput)).map fun hash =>
    { mail with tag := some (Base64.encode hash) }

def claimedHash? (mail : Mail) : Option Bytes := mail.tag.bind Base64.decode?

/-- Whether the tag is the one that `sign` attaches. A tag that is no base64 text never is. -/
def verify (key : Bytes) (mail : Mail) : Except Error Bool :=
  match mail.claimedHash? with
  | none => .ok false
  | some claimed => (keyedHash key (Text.utf8 mail.integrityInput)).map (claimed == ·)

end MailExchange.Mail
