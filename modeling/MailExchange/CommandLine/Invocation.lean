import MailExchange.CommandLine.Scan
import MailExchange.Mail.Mailbox
import MailExchange.Text.Basic

namespace MailExchange.CommandLine

inductive Server where
  | transfer
  | mailbox
  deriving DecidableEq, Repr

inductive Errand where
  | send (recipients : List String) (subject body : String)
  | inbox
  | view (id : MessageId)
  | delete (id : MessageId)
  | verify (id : MessageId)
  deriving DecidableEq, Repr

inductive Command where
  | serve (server : Server)
  | errand (errand : Errand)
  | generateKeys (bits : Nat) (identity : String)
  deriving DecidableEq, Repr

structure Invocation where
  settingsFile : String
  command : Command
  deriving DecidableEq, Repr

namespace Command

def names : List String :=
  ["serve-transfer", "serve-mailbox", "send", "inbox", "show", "delete", "verify", "keygen"]

def recipient : Switch := ⟨"to", some 't', true⟩

def subject : Switch := ⟨"subject", some 's', false⟩

def body : Switch := ⟨"data", some 'd', false⟩

def bits : Switch := ⟨"bits", none, false⟩

def program : String := "dmail"

def grammar (name : String) : Grammar :=
  let part := program ++ "-" ++ name
  match name with
  | "send" => { program := part, switches := [recipient, subject, body] }
  | "keygen" => { program := part, switches := [bits], operands := 1 }
  | "show" | "delete" | "verify" => { program := part, operands := 1 }
  | _ => { program := part }

def messageId? (scan : Scan) : Option MessageId := scan.operands.head?.bind Text.word64?

def ofScan? (name : String) (scan : Scan) : Option Command :=
  match name with
  | "serve-transfer" => some (serve .transfer)
  | "serve-mailbox" => some (serve .mailbox)
  | "send" =>
    match scan.valuesOf recipient.name with
    | [] => none
    | recipients =>
      let send := Errand.send recipients
      some (errand (send (scan.valueOr subject.name "") (scan.valueOr body.name "")))
  | "inbox" => some (errand .inbox)
  | "show" => (messageId? scan).map (errand <| .view ·)
  | "delete" => (messageId? scan).map (errand <| .delete ·)
  | "verify" => (messageId? scan).map (errand <| .verify ·)
  | "keygen" =>
    match scan.operands.head?, Text.word? 32 (scan.valueOr bits.name "2048") with
    | some identity, some bits => some (generateKeys bits identity)
    | _, _ => none
  | _ => none

def parse (name : String) (words : List String) : Except Stop Command :=
  match Scan.words (grammar name) {} words with
  | .error stop => .error stop
  | .ok (scan, _) =>
    match ofScan? name scan with
    | some command => if scan.isComplete (grammar name) then .ok command else .error .misuse
    | none => .error .misuse

end Command

namespace Invocation

def settings : Switch := ⟨"config", some 'c', false⟩

def grammar : Grammar :=
  { program := Command.program, switches := [settings], commands := "help" :: Command.names }

def help : List String → Stop
  | [] => .help
  | [word] => if grammar.commands.contains word then .help else .misuse
  | _ => .misuse

def parse (words : List String) : Except Stop Invocation :=
  match Scan.words grammar {} words with
  | .error stop => .error stop
  | .ok (_, none) => .error .misuse
  | .ok (_, some ("help", rest)) => .error (help rest)
  | .ok (scan, some (name, rest)) =>
    match Command.parse name rest with
    | .error stop => .error stop
    | .ok command =>
      if scan.isComplete grammar then .ok ⟨scan.valueOr settings.name "dmail.toml", command⟩
      else .error .misuse

end Invocation

end MailExchange.CommandLine
