import MailExchange.Mail.Message
import MailExchange.Transfer.Command
import MailExchange.Wire.Session

/-!
The server of the transfer protocol. A session collects the fields of a mail in a draft, hands the
complete mail to a consumer, and answers every line with one line.
-/

namespace MailExchange.Transfer

open Wire (Endpoint Frame)

def greeting : String := "ok DMTP"

/-- Where mail goes to, and the draft of the mail that is being received. -/
structure Desk (κ : Type) where
  consumer : κ
  draft : Draft := {}

namespace Desk

variable {κ : Type} [Consumer κ]

def setRecipients (desk : Desk κ) (addresses : List String) : String × Desk κ :=
  match addresses.find? (!Address.isValid ·) with
  | some invalid => ("error invalid recipient " ++ invalid, desk)
  | none =>
    let refused := addresses.filter (!Consumer.accepts desk.consumer ·)
    let reply :=
      if refused = [] then "ok " ++ toString addresses.length
      else "error unknown recipient " ++ Text.join "," (refused.filterMap Address.user?)
    (reply, { desk with draft.recipients := some addresses })

def setSender (desk : Desk κ) (address : String) : String × Desk κ :=
  if Address.isValid address then ("ok", { desk with draft.sender := some address })
  else ("error invalid address " ++ address, desk)

/-- Hands over the mail. A draft that is incomplete or refused is kept. -/
def send (desk : Desk κ) : String × Desk κ :=
  match desk.draft.complete with
  | .error missing => ("error no " ++ missing.name, desk)
  | .ok mail =>
    match Consumer.consume desk.consumer mail with
    | (.ok (), consumer) => ("ok", { consumer, draft := {} })
    | (.error _, consumer) => ("error consuming email", { desk with consumer })

end Desk

structure Session (κ : Type) where
  endpoint : Endpoint
  desk : Desk κ
  begun : Bool := false
  result? : Option (Except Error Unit) := none

namespace Session

variable {κ : Type} [Consumer κ]

def say (session : Session κ) (line : String) : Session κ :=
  match session.endpoint.write line with
  | (.ok (), endpoint) => { session with endpoint }
  | (.error error, endpoint) => { session with endpoint, result? := some (.error error) }

def greet (label : LogPrefix) (consumer : κ) : Session κ :=
  say { endpoint := { label }, desk := { consumer } } greeting

def finish (session : Session κ) (result : Except Error Unit) : Session κ :=
  { session with result? := some (session.result?.getD result) }

def violation (session : Session κ) (detail : String) : Session κ :=
  (session.say "error protocol error").finish (.error (.protocol detail))

def answer (session : Session κ) (reply : String × Desk κ) : Session κ :=
  { session with desk := reply.2 }.say reply.1

def quit (session : Session κ) : Session κ :=
  ({ session with desk.draft := {} }.say "ok bye").finish (.ok ())

def execute (session : Session κ) : Command → Session κ
  | .begin => session.violation "repeated begin"
  | .recipients addresses => session.answer (session.desk.setRecipients addresses)
  | .sender address => session.answer (session.desk.setSender address)
  | .subject text => session.answer ("ok", { session.desk with draft.subject := some text })
  | .body text => session.answer ("ok", { session.desk with draft.body := some text })
  | .tag text => session.answer ("ok", { session.desk with draft.tag := some text })
  | .send => session.answer session.desk.send
  | .quit => session.quit

def start (session : Session κ) : Command → Session κ
  | .begin => { session with begun := true }.say "ok"
  | .quit => session.quit
  | command => session.violation ("expected begin, got " ++ command.describe)

def shown (line : String) : String := String.ofList (line.toList.take 64)

def interpret (session : Session κ) (line : String) : Session κ :=
  match Command.parse? line with
  | none => session.violation ("bad command " ++ Text.quoted (shown line))
  | some command => if session.begun then session.execute command else session.start command

def take (session : Session κ) (frame : Option Frame) : Session κ :=
  match session.endpoint.decode frame with
  | (.error error, endpoint) => { session with endpoint }.finish (.error error)
  | (.ok line, endpoint) => { session with endpoint }.interpret line

instance : Wire.Session (Session κ) where
  take := take
  result? := Session.result?
  sent session := session.endpoint.sent

end Session

end MailExchange.Transfer
