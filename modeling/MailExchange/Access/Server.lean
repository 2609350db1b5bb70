import MailExchange.Access.Command
import MailExchange.Keys.Store
import MailExchange.Mail.Delivery
import MailExchange.Mail.Mailbox
import MailExchange.Wire.Handshake
import MailExchange.Wire.Session

/-!
The server of the access protocol. A session lets its user read and delete the mail of one mailbox,
and can be made secure by a handshake at any time, but only once.
-/

namespace MailExchange.Access

open Wire (Endpoint Frame Handshake.Awaited)

def greeting : String := "ok DMAP2.0"

def noMail : String := "no emails :("

/-- What the sessions of one mail domain share. -/
structure Site where
  identity : String
  users : Users
  mailboxes : Mailboxes := {}
  keys : Keys.Store
  files : Files.Tree

inductive Stage where
  | commands
  | securing (key : Rsa.PrivateKey) (awaited : Handshake.Awaited)

structure Session where
  endpoint : Endpoint
  site : Site
  user : Option String := none
  stage : Stage := .commands
  result? : Option (Except Error Unit) := none

def summaryLine (message : MessageId × Mail) : String :=
  Text.decimal message.1.toNat ++ " " ++ message.2.sender ++ " " ++ message.2.subject

def mailLines (mail : Mail) : List String :=
  ["from " ++ mail.sender, "to " ++ mail.joinedRecipients, "subject " ++ mail.subject,
    "data " ++ mail.body,
    match mail.tag with
    | some tag => "hash " ++ tag
    | none => "hash"]

namespace Session

def say (session : Session) (lines : List String) : Session :=
  match session.endpoint.writeAll lines with
  | (.ok (), endpoint) => { session with endpoint }
  | (.error error, endpoint) => { session with endpoint, result? := some (.error error) }

def greet (label : LogPrefix) (site : Site) : Session :=
  say { endpoint := { label }, site } [greeting]

def finish (session : Session) (result : Except Error Unit) : Session :=
  { session with result? := some (session.result?.getD result) }

def startSecure (session : Session) : Session :=
  if session.endpoint.isEncrypted then session.say ["error already secure"]
  else
    let site := session.site
    let (key, keys) := site.keys.privateKey site.files site.identity
    let session := { session with site.keys := keys }
    match key with
    | .error _ => session.say ["error secure sessions unavailable"]
    | .ok key => { session with stage := .securing key .offer }.say ["ok " ++ site.identity]

def login (session : Session) (user password : String) : Session :=
  if session.user.isSome then session.say ["error already logged in"]
  else if !session.site.users.has user then session.say ["error unknown user"]
  else if !session.site.users.accepts user password then session.say ["error wrong password"]
  else
    { session with user := some user, endpoint := session.endpoint.withUser (some user) }.say
      ["ok"]

def list (session : Session) (user : String) : Session :=
  match session.site.mailboxes.list user with
  | [] => session.say [noMail]
  | messages => session.say (messages.map summaryLine ++ ["ok"])

def view (session : Session) (user : String) (id : MessageId) : Session :=
  match session.site.mailboxes.get? user id with
  | some mail => session.say (mailLines mail ++ ["ok"])
  | none => session.say ["error unknown message id"]

def delete (session : Session) (user : String) (id : MessageId) : Session :=
  let (found, mailboxes) := session.site.mailboxes.delete user id
  let session := { session with site.mailboxes := mailboxes }
  session.say [if found then "ok" else "error unknown message id"]

def logout (session : Session) : Session :=
  { session with user := none, endpoint := session.endpoint.withUser none }.say ["ok"]

def asUser (session : Session) (act : String → Session) : Session :=
  match session.user with
  | some user => act user
  | none => session.say ["error not logged in"]

def execute (session : Session) : Command → Session
  | .startSecure => session.startSecure
  | .login user password => session.login user password
  | .list => session.asUser session.list
  | .view id => session.asUser fun user => session.view user id
  | .delete id => session.asUser fun user => session.delete user id
  | .logout => session.asUser fun _ => session.logout
  | .quit => ({ session with user := none }.say ["ok bye"]).finish (.ok ())

def interpret (session : Session) (line : String) : Session :=
  match Command.parse? line with
  | some command => session.execute command
  | none => (session.say ["error protocol error"]).finish (.error (.protocol "malformed command"))

/-- Takes in a line of the handshake. If the handshake fails, the session is over. -/
def secure (session : Session) (key : Rsa.PrivateKey) (awaited : Handshake.Awaited)
    (frame : Option Frame) : Session :=
  match Wire.Handshake.step key.decrypt awaited session.endpoint frame with
  | (.ok (some awaited), endpoint) => { session with endpoint, stage := .securing key awaited }
  | (.ok none, endpoint) => { session with endpoint, stage := .commands }
  | (.error error, endpoint) => { session with endpoint }.finish (.error error)

def take (session : Session) (frame : Option Frame) : Session :=
  match session.stage with
  | .securing key awaited => session.secure key awaited frame
  | .commands =>
    match session.endpoint.decode frame with
    | (.error error, endpoint) => { session with endpoint }.finish (.error error)
    | (.ok line, endpoint) => { session with endpoint }.interpret line

instance : Wire.Session Session where
  take := take
  result? := Session.result?
  sent session := session.endpoint.sent

end Session

end MailExchange.Access
