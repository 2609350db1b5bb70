import MailExchange.Mail.Message
import MailExchange.Text.Basic
import MailExchange.Transfer.Server
import MailExchange.Wire.Channel

namespace MailExchange.Transfer.Client

open Wire (Channel Peer Talk expectOk splitCommand)

variable {π : Type} [Peer π]

def request (command : Command) : Talk π String := Talk.request command.line

def command (command : Command) : Talk π Unit := do
  let reply ← request command
  match ← Talk.ofExcept (expectOk reply) with
  | none => return
  | some _ => throw (.unexpectedReply reply)

def begin : Talk π Unit := do
  let line ← Talk.readLine
  if line ≠ greeting then throw (.unexpectedGreeting line)
  command .begin

def refusal : String := "unknown recipient "

def readRefusal (count : Nat) (reply : String) : Except Error (Option (List String)) :=
  match splitCommand reply with
  | ("ok", some text) =>
    if (Text.word64? text).map UInt64.toNat = some count then .ok none
    else .error (.unexpectedReplyTo "to" reply)
  | ("error", some text) =>
    if refusal.toList.isPrefixOf text.toList then
      .ok (some (Text.splitAtEach ',' (String.ofList (text.toList.drop refusal.length))))
    else .error (.remote text)
  | _ => (expectOk reply).bind fun _ => .error (.unexpectedReplyTo "to" reply)

def sendRecipients (mail : Mail) : Talk π (Option (List String)) := do
  let reply ← request (.recipients mail.recipients)
  Talk.ofExcept (readRefusal mail.recipients.length reply)

def sendContent (mail : Mail) : Talk π Unit := do
  command (.sender mail.sender)
  command (.subject mail.subject)
  command (.body mail.body)
  match mail.tag with
  | some tag => command (.tag tag)
  | none => pure ()
  command .send

/-- What came of a mail: whether it was taken, and the users that were refused, if any were. -/
structure Submission where
  result : Except Error Unit
  refused : Option (List String)

/-- Transfers a mail. It goes on when some recipients are refused. -/
def sendMail (mail : Mail) (channel : Channel π) : Submission × Channel π :=
  match (sendRecipients mail).run channel with
  | (.error error, channel) => (⟨.error error, none⟩, channel)
  | (.ok refused, channel) =>
    let (result, channel) := (sendContent mail).run channel
    (⟨result, refused⟩, channel)

def quit : Talk π Unit := do
  let reply ← request .quit
  if reply ≠ "ok bye" then
    let _ ← Talk.ofExcept (expectOk reply)
    throw (.unexpectedReplyTo "quit" reply)

def deliver (mail : Mail) (channel : Channel π) : Submission × Channel π :=
  match begin.run channel with
  | (.error error, channel) => (⟨.error error, none⟩, channel)
  | (.ok (), channel) =>
    match sendMail mail channel with
    | (⟨.error error, refused⟩, channel) => (⟨.error error, refused⟩, channel)
    | (⟨.ok (), refused⟩, channel) =>
      let (result, channel) := quit.run channel
      (⟨result, refused⟩, channel)

end MailExchange.Transfer.Client
