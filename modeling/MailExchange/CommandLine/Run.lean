import MailExchange.CommandLine.Errand
import MailExchange.Settings
import MailExchange.Text.Lowercase

namespace MailExchange.CommandLine.Logging

open Settings (Item body? field items text)
open Toml (Body Value)

def levels : List String := ["off", "error", "warn", "info", "debug", "trace"]

def isLevel (text : String) : Bool := levels.contains (Text.lowercase text)

def level? (item : Item) : Option String := (text item).filter isLevel

def texts? : Item → Option (List String)
  | .value (.array values) => values.mapM fun value => text (.value value)
  | _ => none

def names (body : Body) : List String := body.1.map (·.1) ++ body.2.map (·.1)

def strict? (known : List String) (item : Item) : Option Body :=
  (body? item).filter fun body => (names body).all known.contains

def isRoot (item : Item) : Option Unit := do
  let body ← strict? ["level", "appenders"] item
  let _ ← field body "level" "debug" level?
  let _ ← field body "appenders" [] texts?

def isTables (item : Item) : Option Unit := do
  let body ← body? item
  (names body).forM fun name => do
    let _ ← (items body name).mapM body?

def isValid (source : String) : Bool :=
  let valid : Option Unit := do
    let body ← Toml.parse? source
    if !(names body).all ["refresh_rate", "root", "appenders", "loggers"].contains then none
    let _ ← field body "refresh_rate" "" text
    field body "root" () isRoot
    field body "appenders" () isTables
    field body "loggers" () isTables
  valid.isSome

def fileName : String := "logging.toml"

def path (settingsFile : String) : String :=
  Files.PathText.join ((Files.PathText.parent? settingsFile).getD ".") fileName

def isUsable (files : Files.Tree) (settingsFile : String) : Bool :=
  !Files.PathText.isFile files (path settingsFile)
    || match Settings.readText files (path settingsFile) with
      | .ok source => isValid source
      | .error _ => false

end MailExchange.CommandLine.Logging

namespace MailExchange.CommandLine

def versionNumber : String := "0.1.0"

def usage : List String :=
  ["USAGE:", "    dmail [--config <file>] <command>", "", "COMMANDS:",
    "    serve-transfer                Accept mail, and relay it to its recipients' servers",
    "    serve-mailbox                 Store mail for one domain, and show it to its users",
    "    send --to <address>... [--subject <text>] [--data <text>]",
    "    inbox                         List the messages in your mailbox",
    "    show <id>                     Print one message",
    "    delete <id>                   Delete one message",
    "    verify <id>                   Check the integrity tag of one message",
    "    keygen [--bits <number>] <identity>"]

def Stop.outcome : Stop → Outcome
  | help => .success usage
  | version program => .success [program ++ " " ++ versionNumber]
  | misuse => .failure ExitCode.usage "bad command line; try --help"

def Invocation.load (files : Files.Tree) (invocation : Invocation) : Except Outcome Settings :=
  match Settings.load files invocation.settingsFile with
  | .error error => .error (.failure ExitCode.config error.message)
  | .ok settings =>
    if Logging.isUsable files invocation.settingsFile then .ok settings
    else .error (.failure ExitCode.config "cannot set up logging")

def generateKeys (settings : Settings) (seed : Text.Bytes) (bits : Nat) (identity : String)
    (files : Files.Tree) : Outcome × Files.Tree :=
  match (keyStore settings).generate files seed identity bits with
  | (.error error, files) =>
    (.failure ExitCode.config ("Failed to generate key pair: " ++ error.message), files)
  | (.ok (), files) =>
    (.success
      [s!"Generated {Text.decimal bits}-bit key pair '{identity}' in {settings.keyFolder}"], files)

def served (name : String) {α : Type} : Except Error α → Outcome
  | .ok _ => .success []
  | .error error => .ofError ("Failed to start " ++ name ++ " server") error

end MailExchange.CommandLine
