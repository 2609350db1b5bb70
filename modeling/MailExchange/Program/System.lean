import MailExchange.Files.Tree
import MailExchange.Network.Dial
import MailExchange.Network.SocketAddress
import Std.Async.DNS
import Std.Async.TCP
import Std.Async.Timer

namespace MailExchange.Program.Disk

open Files (Tree)

/-- A tree with nothing in it but the folders that lead to the current one. -/
def current : IO Tree := do
  let names := Files.PathText.names (← IO.currentDir).toString
  return { ({} : Tree).withFolder names with here := names.filter (· != "") }

def fetch (tree : Tree) (path : String) : IO Tree := do
  match ← (IO.FS.readBinFile path).toBaseIO with
  | .error _ => return tree
  | .ok content => return tree.withFile (Files.PathText.names path) content.toList

def fetchFolder (tree : Tree) (folder : String) : IO Tree := do
  match ← ((← IO.currentDir) / folder).readDir.toBaseIO with
  | .error _ => return tree
  | .ok entries =>
    entries.foldlM (fun tree entry => fetch tree (Files.PathText.join folder entry.fileName)) tree

def ownerOnly : IO.FileRight := { user := { read := true, write := true } }

def saveEntry (path : Files.Path) (entry : Files.Entry) : IO Unit := do
  let place := "/" ++ Text.join "/" path
  match entry with
  | .folder => IO.FS.createDirAll place
  | .file content isPrivate =>
    if isPrivate then
      IO.FS.writeBinFile place ByteArray.empty
      IO.setAccessRights place ownerOnly
    IO.FS.writeBinFile place ⟨content.toArray⟩

def save (before after : Tree) : IO Unit :=
  (after.entries.filter (!before.entries.contains ·)).reverse.forM fun (path, entry) =>
    saveEntry path entry

end MailExchange.Program.Disk

namespace MailExchange.Program.Socket

open Network (Host Need Recorded Recording SocketAddress)
open Std.Async (Async Selectable Selector)
open Std.Async.TCP.Socket (Client)

def code : IO.Error → UInt32
  | .resourceBusy code _ => -code
  | .resourceVanished code _ => -code
  | .unsupportedOperation code _ => -code
  | .noSuchThing _ code _ => -code
  | .otherError code _ => -code
  | _ => 0

def ofIOError (error : IO.Error) : Error :=
  match code error with
  | 32 => .io .brokenPipe "Broken pipe (os error 32)"
  | 98 => .addressInUse
  | 99 => .addressUnavailable
  | 101 => .networkUnreachable
  | 104 => .connectionReset
  | 111 => .connectionRefused
  | _ => .io .other error.toString

def timedOut : Error := .io .other "Resource temporarily unavailable (os error 11)"

def pause (seconds : Nat) : Async (Selector Unit) :=
  Selector.sleep (Std.Time.Millisecond.Offset.ofNat (seconds * 1000))

def ofHost (host : Host) (number : Nat) : Option Std.Net.SocketAddress :=
  match host.octets with
  | [a, b, c, d] => some (.v4 ⟨.ofParts a b c d, UInt16.ofNat number⟩)
  | _ => none

def resolve (text : String) : Async (Except Error Std.Net.SocketAddress) := do
  match SocketAddress.splitAtLastColon text with
  | none => return .error SocketAddress.unseparated
  | some (host, number) =>
    match Text.word? 16 number with
    | none => return .error SocketAddress.badNumber
    | some number =>
      match (Host.parse? host).bind (ofHost · number) with
      | some address => return .ok address
      | none =>
        try
          let found ← Std.Async.DNS.getAddrInfo host "" (some .ipv4)
          match found.toList with
          | .v4 address :: _ => return .ok (.v4 ⟨address, UInt16.ofNat number⟩)
          | _ => return .error SocketAddress.unknownHost
        catch _ => return .error SocketAddress.unknownHost

def connect (timeout : Nat) (text : String) : Async (Except Error Client) := do
  match ← resolve text with
  | .error error => return .error error
  | .ok address =>
    if timeout = 0 then return .error Network.noTime
    try
      let client ← Client.mk
      client.connect address
      return .ok client
    catch error => return .error (ofIOError error)

def receive (timeout : Nat) (client : Client) : Async (Except Error Text.Bytes) := do
  try
    let found ← Selectable.one #[
      .case (client.recvSelector 65536) fun found => return some found,
      .case (← pause timeout) fun _ => return none]
    match found with
    | some (some bytes) => return .ok bytes.toList
    | some none => return .error .unexpectedEof
    | none => return .error timedOut
  catch error => return .error (ofIOError error)

def send (client : Client) (bytes : Text.Bytes) : Async Unit := do
  if !bytes.isEmpty then
    try client.send ⟨bytes.toArray⟩ catch _ => pure ()

structure Calls where
  recordings : List Recording := []
  last? : Option Client := none
  sent : Nat := 0

namespace Calls

def close (calls : Calls) : Async Unit := do
  if let some client := calls.last? then
    try client.shutdown catch _ => pure ()

def dial (calls : Calls) (timeout : Nat) (address : String) : Async Calls := do
  calls.close
  match ← connect timeout address with
  | .ok client =>
    return { recordings := calls.recordings ++ [{}], last? := some client }
  | .error error =>
    return { recordings := calls.recordings ++ [{ failure? := some error }] }

def record (calls : Calls) : Except Error Text.Bytes → Calls
  | .ok bytes =>
    { calls with
      recordings := calls.recordings.modify (calls.recordings.length - 1) fun recording =>
        { recording with received := recording.received ++ bytes } }
  | .error error =>
    { calls with
      recordings := calls.recordings.modify (calls.recordings.length - 1) fun recording =>
        { recording with ended? := some error } }

def hear (calls : Calls) (timeout : Nat) (output : Text.Bytes) : Async Calls := do
  match calls.last? with
  | none => return calls.record (.error .unexpectedEof)
  | some client =>
    send client (output.drop calls.sent)
    return { calls with sent := output.length }.record (← receive timeout client)

end Calls

partial def run {α : Type} (timeout : Nat) (act : Recorded → α × Recorded) (calls : Calls := {}) :
    Async α := do
  let (value, after) := act { recordings := calls.recordings }
  match after.need? with
  | none =>
    calls.close
    return value
  | some (.connection timeout address) => run timeout act (← calls.dial timeout address)
  | some (.input output) => run timeout act (← calls.hear timeout output)

end MailExchange.Program.Socket
