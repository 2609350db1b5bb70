import MailExchange.Access.Server
import MailExchange.Wire.Channel

namespace MailExchange.Access.Client

open Wire (Channel Frame Peer Talk expectOk splitCommand takeFrame?)
open Text (Bytes)

variable {π : Type} [Peer π]

structure Summary where
  id : MessageId
  sender : String
  subject : String
  deriving DecidableEq, Repr

def request (command : Command) : Talk π String := Talk.request command.line

def command (command : Command) : Talk π Unit := do
  let reply ← request command
  match ← Talk.ofExcept (expectOk reply) with
  | none => return
  | some _ => throw (.unexpectedReply reply)

def readGreeting : Talk π Unit := do
  let line ← Talk.readLine
  if line ≠ greeting then throw (.unexpectedGreeting line)

def readIdentity (reply : String) : Except Error String :=
  match expectOk reply with
  | .error error => .error error
  | .ok (some identity) =>
    if identity = "" then .error (.unexpectedReplyTo "startsecure" reply) else .ok identity
  | .ok none => .error (.unexpectedReplyTo "startsecure" reply)

structure Randomness where
  secrets : Wire.Handshake.Secrets
  seed : Bytes
  seed_length : seed.length = Rsa.Oaep.hashSize

def askIdentity : Talk π String := do
  let reply ← request .startSecure
  Talk.ofExcept (readIdentity reply)

def shakeHands (random : Randomness) (key : Rsa.PublicKey) : Talk π Unit :=
  Wire.Handshake.initiate random.secrets (key.encrypt random.seed)

def startSecure (random : Randomness) (files : Files.Tree) (keys : Keys.Store)
    (channel : Channel π) : (Except Error String × Keys.Store) × Channel π :=
  match askIdentity.run channel with
  | (.error error, channel) => ((.error error, keys), channel)
  | (.ok identity, channel) =>
    match keys.publicKey files identity with
    | (.error error, keys) => ((.error error, keys), channel)
    | (.ok key, keys) =>
      let (result, channel) := (shakeHands random key).run channel
      ((result.map fun _ => identity, keys), channel)

def login (user password : String) : Talk π Unit := command (.login user password)

def signIn (secure : Bool) (random : Randomness) (files : Files.Tree) (keys : Keys.Store)
    (user password : String) (channel : Channel π) :
    (Except Error Unit × Keys.Store) × Channel π :=
  match readGreeting.run channel with
  | (.error error, channel) => ((.error error, keys), channel)
  | (.ok (), channel) =>
    if secure then
      match startSecure random files keys channel with
      | ((.error error, keys), channel) => ((.error error, keys), channel)
      | ((.ok _, keys), channel) =>
        let (result, channel) := (login user password).run channel
        ((result, keys), channel)
    else
      let (result, channel) := (login user password).run channel
      ((result, keys), channel)

def readSummary (line : String) : Except Error Summary :=
  match splitCommand line with
  | (id, some rest) =>
    match Text.word64? id, splitCommand rest with
    | some id, (sender, some subject) => .ok ⟨id, sender, subject⟩
    | _, _ => (expectOk line).bind fun _ => .error (.protocol s!"bad list entry: {line}")
  | _ => (expectOk line).bind fun _ => .error (.protocol s!"bad list entry: {line}")

def readList (found : List Summary) (line : String) (channel : Channel π) :
    Except Error (List Summary) × Channel π :=
  if line = "ok" then (.ok found.reverse, channel)
  else match readSummary line with
    | .error error => (.error error, channel)
    | .ok summary =>
      match h : channel.receive with
      | (.error error, after) => (.error error, after)
      | (.ok next, after) =>
        have := Channel.receive_shortens h
        readList (summary :: found) next after
termination_by channel.unread.length

def list : Talk π (List Summary) := do
  let line ← request .list
  if line = noMail then return []
  ExceptT.mk fun channel => pure (readList [] line channel)

def readField (keyword line : String) : Except Error String :=
  let (word, value) := splitCommand line
  if word = keyword then .ok (value.getD "")
  else (expectOk line).bind fun _ => .error (.protocol s!"expected {keyword} line, got {line}")

def nextField (keyword : String) : Talk π String := do
  let line ← Talk.readLine
  Talk.ofExcept (readField keyword line)

def view (id : MessageId) : Talk π Mail := do
  let line ← request (.view id)
  let sender ← Talk.ofExcept (readField "from" line)
  let recipients ← nextField "to"
  let subject ← nextField "subject"
  let body ← nextField "data"
  let tag ← nextField "hash"
  let last ← Talk.readLine
  if last ≠ "ok" then throw (.protocol s!"expected end of message, got {last}")
  return ⟨sender, Text.splitAtEach ',' recipients, subject, body,
    if tag = "" then none else some tag⟩

def delete (id : MessageId) : Talk π Unit := command (.delete id)

def logout : Talk π Unit := command .logout

def quit : Talk π Unit := do
  let reply ← request .quit
  if reply ≠ "ok bye" then
    let _ ← Talk.ofExcept (expectOk reply)
    throw (.unexpectedReplyTo "quit" reply)

end MailExchange.Access.Client
