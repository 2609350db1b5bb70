import MailExchange.Mail.Message
import MailExchange.Text.Basic
import MailExchange.Text.Lowercase

namespace MailExchange

/-- A table of domains in lower case and the addresses of their servers; later entries count. -/
structure Resolver where
  targets : List (String × String)
  deriving Repr

namespace Resolver

def ofPairs (pairs : List (String × String)) : Resolver :=
  ⟨pairs.map fun (domain, target) => (Text.lowercase domain, target)⟩

def resolve? (resolver : Resolver) (domain : String) : Option String :=
  (resolver.targets.reverse.find? (·.1 == Text.lowercase domain)).map (·.2)

end Resolver

end MailExchange

namespace MailExchange.Relay

open Text (TextSet)

structure Report where
  unknown : TextSet := []
  errors : TextSet := []
  failed : TextSet := []
  deriving DecidableEq, Repr

namespace Report

def isClean (report : Report) : Bool :=
  report.unknown.isEmpty && report.errors.isEmpty && report.failed.isEmpty

def part (title separator : String) (entries : TextSet) : List String :=
  if entries.isEmpty then [] else [title ++ ": " ++ Text.join separator entries]

def text (report : Report) : String :=
  Text.join ". "
    (part "unknown recipients" ", " report.unknown ++ part "errors" " - " report.errors
      ++ part "delivery not confirmed for" ", " report.failed)

end Report

structure Settings where
  resolver : Resolver
  bounceSender : String
  /-- In seconds. -/
  timeout : Nat := 30

namespace Settings

def isRoutable (settings : Settings) (mail : Mail) : Bool :=
  match mail.senderDomain with
  | some domain => (settings.resolver.resolve? domain).isSome
  | none => false

/-- No bounce is sent for a clean report, for a bounce, or to a sender who cannot be reached. -/
def bounceFor (settings : Settings) (mail : Mail) (report : Report) : Option Mail :=
  if report.isClean || Text.sameIgnoringAsciiCase mail.sender settings.bounceSender
      || !settings.isRoutable mail then
    none
  else
    some ⟨settings.bounceSender, [mail.sender], "Undeliverable mail", report.text, none⟩

end Settings

end MailExchange.Relay
