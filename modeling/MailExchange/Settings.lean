import MailExchange.Files.Tree
import MailExchange.Text.Basic
import MailExchange.Toml.Document

/-!
The settings of the system, which a TOML file gives. All of them have defaults, and names that are not
known are passed over.
-/

namespace MailExchange

abbrev NameTable := List (String × String)

structure TransferSettings where
  listen : String := "0.0.0.0:2525"
  connectionWorkers : Nat := 10
  relayWorkers : Nat := 3
  queueCapacity : Nat := 40
  bounceSender : String := "mailer-daemon@transfer.local"
  idleTimeout : Nat := 1800
  connectTimeout : Nat := 30
  domains : NameTable := []
  deriving Repr

structure MailboxSettings where
  domain : String := ""
  identity : String := ""
  transferListen : String := "0.0.0.0:2526"
  accessListen : String := "0.0.0.0:2527"
  connectionWorkers : Nat := 10
  idleTimeout : Nat := 1800
  users : NameTable := []
  deriving Repr

structure ClientSettings where
  address : String := ""
  transfer : String := "127.0.0.1:2525"
  mailbox : String := "127.0.0.1:2527"
  user : String := ""
  password : String := ""
  secure : Bool := true
  tagKeyFile : Option String := none
  deriving Repr

structure Settings where
  transfer : TransferSettings := {}
  mailbox : MailboxSettings := {}
  keyFolder : String := "keys"
  client : ClientSettings := {}
  deriving Repr

namespace Settings

open Toml (Body Entries Section Value)

inductive Item where
  | value (value : Value)
  | tables (found : Section)

def items (body : Body) (name : String) : List Item :=
  (body.1.filter (·.1 == name)).map (Item.value ·.2)
    ++ (body.2.filter (·.1 == name)).map (Item.tables ·.2)

/-- The value of a name, which must not stand there twice. -/
def field {α : Type} (body : Body) (name : String) (default : α) (read : Item → Option α) :
    Option α :=
  match items body name with
  | [] => some default
  | [item] => read item
  | _ => none

def text : Item → Option String
  | .value (.text value) => some value
  | _ => none

def count : Item → Option Nat
  | .value (.integer value) => if 0 ≤ value then some value.toNat else none
  | _ => none

def flag : Item → Option Bool
  | .value (.boolean value) => some value
  | _ => none

/-- The entry that a date consists of where a table is wanted. -/
def dateEntry (date : String) : String × Value := ("$__toml_private_datetime", .text date)

def body? : Item → Option Body
  | .value (.table entries _) => some (entries, [])
  | .value (.date date) => some ([dateEntry date], [])
  | .tables (.mk _ false [body]) => some body
  | _ => none

/-- A table of known names. An array gives their values in order. -/
def record? (names : List String) : Item → Option Body
  | .value (.array values) =>
    if values.length ≤ names.length then some (names.zip values, []) else none
  | item => body? item

def insertName (table : NameTable) (name value : String) : NameTable :=
  match table with
  | [] => [(name, value)]
  | (other, old) :: rest =>
    if name < other then (name, value) :: (other, old) :: rest
    else if name = other then (name, value) :: rest
    else (other, old) :: insertName rest name value

def ofPairs (pairs : List (String × String)) : NameTable :=
  pairs.foldl (fun table (name, value) => insertName table name value) []

def nameTable (item : Item) : Option NameTable := do
  let (entries, sections) ← body? item
  if !sections.isEmpty then none
  entries.foldlM
    (fun table (name, value) => (text (.value value)).map (insertName table name))
    []

def transferNames : List String :=
  ["listen", "connection_workers", "relay_workers", "queue_capacity", "bounce_sender",
    "idle_timeout_secs", "connect_timeout_secs", "domains"]

def transferOf (item : Item) : Option TransferSettings := do
  let body ← record? transferNames item
  let usual : TransferSettings := {}
  return {
    listen := ← field body "listen" usual.listen text
    connectionWorkers := ← field body "connection_workers" usual.connectionWorkers count
    relayWorkers := ← field body "relay_workers" usual.relayWorkers count
    queueCapacity := ← field body "queue_capacity" usual.queueCapacity count
    bounceSender := ← field body "bounce_sender" usual.bounceSender text
    idleTimeout := ← field body "idle_timeout_secs" usual.idleTimeout count
    connectTimeout := ← field body "connect_timeout_secs" usual.connectTimeout count
    domains := ← field body "domains" usual.domains nameTable }

def mailboxNames : List String :=
  ["domain", "identity", "dmtp_listen", "dmap_listen", "connection_workers", "idle_timeout_secs",
    "users"]

def mailboxOf (item : Item) : Option MailboxSettings := do
  let body ← record? mailboxNames item
  let usual : MailboxSettings := {}
  return {
    domain := ← field body "domain" usual.domain text
    identity := ← field body "identity" usual.identity text
    transferListen := ← field body "dmtp_listen" usual.transferListen text
    accessListen := ← field body "dmap_listen" usual.accessListen text
    connectionWorkers := ← field body "connection_workers" usual.connectionWorkers count
    idleTimeout := ← field body "idle_timeout_secs" usual.idleTimeout count
    users := ← field body "users" usual.users nameTable }

def keyFolderOf (item : Item) : Option String := do
  let body ← record? ["directory"] item
  field body "directory" "keys" text

def clientNames : List String :=
  ["address", "transfer", "mailbox", "user", "password", "secure", "hmac_key"]

def clientOf (item : Item) : Option ClientSettings := do
  let body ← record? clientNames item
  let usual : ClientSettings := {}
  return {
    address := ← field body "address" usual.address text
    transfer := ← field body "transfer" usual.transfer text
    mailbox := ← field body "mailbox" usual.mailbox text
    user := ← field body "user" usual.user text
    password := ← field body "password" usual.password text
    secure := ← field body "secure" usual.secure flag
    tagKeyFile := ← field body "hmac_key" none fun item => (text item).map some }

def ofBody (body : Body) : Option Settings := do
  let usual : Settings := {}
  return {
    transfer := ← field body "transfer" usual.transfer transferOf
    mailbox := ← field body "mailbox" usual.mailbox mailboxOf
    keyFolder := ← field body "keys" usual.keyFolder keyFolderOf
    client := ← field body "client" usual.client clientOf }

def ofText? (source : String) : Option Settings := (Toml.parse? source).bind ofBody

/-- Makes the paths in a file's settings paths as seen from where the file's own path is. -/
def relativeTo (folder : String) (settings : Settings) : Settings :=
  { settings with
    keyFolder := Files.PathText.join folder settings.keyFolder
    client.tagKeyFile := settings.client.tagKeyFile.map (Files.PathText.join folder) }

def notText : Error := .io .other "stream did not contain valid UTF-8"

def readText (tree : Files.Tree) (path : String) : Except Error String :=
  (Files.PathText.read tree path).bind fun bytes =>
    match Text.ofUtf8? bytes with
    | some source => .ok source
    | none => .error notText

def load (tree : Files.Tree) (path : String) : Except Error Settings :=
  match readText tree path with
  | .error error => .error (.config s!"reading '{path}': {error.message}")
  | .ok source =>
    match ofText? source with
    | none => .error (.config s!"in '{path}': not valid settings")
    | some settings => .ok (settings.relativeTo ((Files.PathText.parent? path).getD "."))

end Settings

end MailExchange
