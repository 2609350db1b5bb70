import MailExchange.Access.Client
import MailExchange.CommandLine.Invocation
import MailExchange.CommandLine.Outcome
import MailExchange.Mail.Integrity
import MailExchange.Network.Dial
import MailExchange.Settings
import MailExchange.Transfer.Client

namespace MailExchange.CommandLine

open Text (Bytes)
open Wire (Channel Talk)

def patience : Nat := 30

def isAsciiBlank (byte : UInt8) : Bool := [9, 10, 12, 13, 32].contains byte

def trimBlanks (bytes : Bytes) : Bytes :=
  ((bytes.dropWhile isAsciiBlank).reverse.dropWhile isAsciiBlank).reverse

def readTagKey (files : Files.Tree) (path : String) : Except Error Bytes :=
  match Files.PathText.read files path with
  | .error error => .error (.config s!"reading '{path}': {error.message}")
  | .ok content =>
    match (Text.ofUtf8? (trimBlanks content)).bind Base64.decode? with
    | some key => .ok key
    | none => .error (.config s!"in '{path}': not base64 text")

def tagKey? (files : Files.Tree) (settings : ClientSettings) : Except Error (Option Bytes) :=
  match settings.tagKeyFile with
  | none => .ok none
  | some path => (readTagKey files path).map some

def signed (key : Option Bytes) (mail : Mail) : Except Error Mail :=
  match key with
  | some key => mail.sign key
  | none => .ok mail

structure Desk where
  settings : Settings
  files : Files.Tree
  random : Access.Client.Randomness

def keyStore (settings : Settings) : Keys.Store :=
  { root := Files.PathText.names settings.keyFolder, rootName := settings.keyFolder }

variable {ν : Type} [Network ν]

def submit (target : String) (mail : Mail) (network : ν) : Except Error Unit × ν :=
  match Network.connect network "dmtp" patience target with
  | .error (error, network) => (.error error, network)
  | .ok channel =>
    let (submission, channel) := Transfer.Client.deliver mail channel
    (submission.result, Network.release channel)

def send (desk : Desk) (recipients : List String) (subject body : String) (network : ν) :
    Outcome × ν :=
  let client := desk.settings.client
  if client.address = "" then
    (.failure ExitCode.config "client.address must be set to send mail", network)
  else match tagKey? desk.files client with
    | .error error => (.ofError "Bad integrity key" error, network)
    | .ok key =>
      match signed key ⟨client.address, recipients, subject, body, none⟩ with
      | .error error => (.ofError "Failed to sign message" error, network)
      | .ok mail =>
        match submit client.transfer mail network with
        | (.error error, network) => (.ofError "Sending failed" error, network)
        | (.ok (), network) =>
          (.success ["Message queued for " ++ mail.joinedRecipients], network)

def signIn (desk : Desk) (channel : Channel ν) : Except Error Unit × Channel ν :=
  let client := desk.settings.client
  let ((result, _), channel) := Access.Client.signIn client.secure desk.random desk.files
    (keyStore desk.settings) client.user client.password channel
  (result, channel)

def withMailbox {α : Type} (desk : Desk) (activity : String) (act : Talk ν α)
    (report : α → Outcome) (network : ν) : Outcome × ν :=
  match Network.connect network "dmap" patience desk.settings.client.mailbox with
  | .error (error, network) => (.ofError "Failed to open mailbox" error, network)
  | .ok channel =>
    match signIn desk channel with
    | (.error error, channel) =>
      (.ofError "Failed to open mailbox" error, Network.release channel)
    | (.ok (), channel) =>
      match act.run channel with
      | (.error error, channel) => (.ofError activity error, Network.release channel)
      | (.ok value, channel) =>
        let (_, channel) := Access.Client.quit.run channel
        (report value, Network.release channel)

def padding (width : Nat) (text : String) : String :=
  String.ofList (List.replicate (width - text.length) ' ')

def number (id : MessageId) : String := Text.decimal id.toNat

def summaryText (summary : Access.Client.Summary) : String :=
  let id := number summary.id
  padding 6 id ++ id ++ "  " ++ summary.sender ++ padding 30 summary.sender ++ "  "
    ++ summary.subject

def listing (summaries : List Access.Client.Summary) : List String :=
  if summaries.isEmpty then ["No messages"] else summaries.map summaryText

def inbox (desk : Desk) (network : ν) : Outcome × ν :=
  withMailbox desk "Listing failed" Access.Client.list (fun found => .success (listing found))
    network

def mailText (mail : Mail) : List String :=
  ["From:    " ++ mail.sender, "To:      " ++ mail.joinedRecipients,
    "Subject: " ++ mail.subject]
    ++ (mail.tag.map ("Hash:    " ++ ·)).toList ++ ["", mail.body]

def fetch (desk : Desk) (id : MessageId) (report : Mail → Outcome) (network : ν) : Outcome × ν :=
  withMailbox desk "Fetching message failed" (Access.Client.view id) report network

def view (desk : Desk) (id : MessageId) (network : ν) : Outcome × ν :=
  fetch desk id (fun mail => .success (mailText mail)) network

def delete (desk : Desk) (id : MessageId) (network : ν) : Outcome × ν :=
  withMailbox desk "Deleting message failed" (Access.Client.delete id)
    (fun _ => .success ["Deleted message " ++ number id]) network

def verdict (key : Bytes) (id : MessageId) (mail : Mail) : Outcome :=
  match mail.verify key with
  | .ok true => .success ["Message " ++ number id ++ " is intact"]
  | .ok false =>
    { exitCode := ExitCode.dataError
      output := ["Message " ++ number id ++ " failed the integrity check"] }
  | .error error => .ofError "Verification failed" error

def verify (desk : Desk) (id : MessageId) (network : ν) : Outcome × ν :=
  match tagKey? desk.files desk.settings.client with
  | .error error => (.ofError "Bad integrity key" error, network)
  | .ok none =>
    (.failure ExitCode.config "client.hmac_key must be set to verify messages", network)
  | .ok (some key) => fetch desk id (verdict key id) network

def Errand.run (desk : Desk) (errand : Errand) (network : ν) : Outcome × ν :=
  match errand with
  | .send recipients subject body => CommandLine.send desk recipients subject body network
  | .inbox => CommandLine.inbox desk network
  | .view id => CommandLine.view desk id network
  | .delete id => CommandLine.delete desk id network
  | .verify id => CommandLine.verify desk id network

end MailExchange.CommandLine
