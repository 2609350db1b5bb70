import MailExchange.Network.SocketAddress
import MailExchange.Service.Servers
import MailExchange.Wire.Session

namespace MailExchange.Service

open Network (Host SocketAddress)
open Text (Bytes)
open Wire (Endpoint Frame Live)

inductive Reply where
  | say (text : String)
  | hangUp
  deriving DecidableEq, Repr

structure Script where
  replies : List Reply
  received : List (List String) := []

namespace Script

structure Session where
  endpoint : Endpoint
  replies : List Reply
  result? : Option (Except Error Unit) := none

namespace Session

/-- Goes on to the next reply. The session is over when there is none. -/
def reply (session : Session) : Session :=
  match session.replies with
  | .say text :: replies =>
    { session with
      replies
      endpoint.sent := session.endpoint.sent ++ Text.splitAtEach '\n' text }
  | _ => { session with replies := [], result? := some (.ok ()) }

def take (session : Session) (frame : Option Frame) : Session :=
  match session.endpoint.decode frame with
  | (.ok _, endpoint) => { session with endpoint }.reply
  | (.error error, endpoint) => { session with endpoint, result? := some (.error error) }

instance : Wire.Session Session where
  take := take
  result? := Session.result?
  sent session := session.endpoint.sent

end Session

def start (script : Script) (label : LogPrefix) : Session :=
  ({ endpoint := { label }, replies := script.replies } : Session).reply

def note (script : Script) (session : Session) : Script :=
  { script with received := script.received ++ [session.endpoint.heard] }

end Script

inductive Listener where
  | mailbox (index : Nat)
  | access (index : Nat)
  | transfer
  | script (index : Nat)
  deriving DecidableEq, Repr

inductive Line where
  | closed
  | mailbox (index : Nat) (live : Live (Transfer.Session Delivery))
  | access (index : Nat) (live : Live Access.Session)
  | transfer (live : Live (Transfer.Session Relay.Queue))
  | script (index : Nat) (live : Live Script.Session)

structure Machine where
  listening : List (SocketAddress × Listener) := []
  mailboxServers : List MailboxServer := []
  transferServer? : Option TransferServer := none
  scripts : List Script := []
  keys : Keys.Store
  files : Files.Tree
  line : Line := .closed

namespace Machine

def firstFreeNumber : Nat := 40000

def freeNumber (machine : Machine) : Nat :=
  machine.listening.foldl (fun number entry => max number (entry.1.number + 1)) firstFreeNumber

/-- Makes a server listen on an address. Number 0 stands for any free one. -/
def listen (machine : Machine) (text : String) (listener : Listener) :
    Except Error (SocketAddress × Machine) := do
  let wanted ← SocketAddress.parse text
  if !wanted.host.isLocal then throw .addressUnavailable
  let address := if wanted.number = 0 then { wanted with number := machine.freeNumber } else wanted
  if machine.listening.any (·.1.conflicts address) then throw .addressInUse
  return (address, { machine with listening := machine.listening ++ [(address, listener)] })

def startMailbox (machine : Machine) (settings : MailboxSettings) :
    Except Error ((SocketAddress × SocketAddress) × Machine) := do
  let server ← MailboxServer.ofSettings settings
  let index := machine.mailboxServers.length
  let (incoming, machine) ← machine.listen settings.transferListen (.mailbox index)
  let (access, machine) ← machine.listen settings.accessListen (.access index)
  return ((incoming, access),
    { machine with mailboxServers := machine.mailboxServers ++ [server] })

def startTransfer (machine : Machine) (settings : TransferSettings) :
    Except Error (SocketAddress × Machine) := do
  let (address, machine) ← machine.listen settings.listen .transfer
  return (address, { machine with transferServer? := some (.ofSettings settings) })

def startScript (machine : Machine) (replies : List Reply) :
    Except Error (SocketAddress × Machine) := do
  let (address, machine) ← machine.listen "127.0.0.1:0" (.script machine.scripts.length)
  return (address, { machine with scripts := machine.scripts ++ [{ replies }] })

def shutDown (machine : Machine) : Machine := { machine with listening := [], line := .closed }

def listener? (machine : Machine) (address : SocketAddress) : Option Listener :=
  (machine.listening.find? (·.1.reachedBy address)).map (·.2)

/-- A new session of a server. A server that allows no silence closes the connection at once. -/
def answer (machine : Machine) (listener : Listener) : Line :=
  let label (protocol : String) := LogPrefix.forPeer protocol "127.0.0.1"
  match listener with
  | .mailbox index =>
    match machine.mailboxServers[index]? with
    | some server =>
      if server.idle = 0 then .closed
      else .mailbox index { session := server.receive (label "dmtp") }
    | none => .closed
  | .access index =>
    match machine.mailboxServers[index]? with
    | some server =>
      if server.idle = 0 then .closed
      else .access index { session := server.access (label "dmap") machine.keys machine.files }
    | none => .closed
  | .transfer =>
    match machine.transferServer? with
    | some server =>
      if server.idle = 0 then .closed else .transfer { session := server.receive (label "dmtp") }
    | none => .closed
  | .script index =>
    match machine.scripts[index]? with
    | some script => .script index { session := script.start (label "script") }
    | none => .closed

end Machine

namespace Line

def speak : Line → Bytes × Line
  | closed => ([], closed)
  | mailbox index live => live.answer.map id (mailbox index)
  | access index live => live.answer.map id (access index)
  | transfer live => live.answer.map id transfer
  | script index live => live.answer.map id (script index)

def feed (bytes : Bytes) : Line → Line
  | closed => closed
  | mailbox index live => mailbox index (live.feed bytes)
  | access index live => access index (live.feed bytes)
  | transfer live => transfer (live.feed bytes)
  | script index live => script index (live.feed bytes)

end Line

namespace Machine

def keepMailboxes (machine : Machine) (index : Nat) (mailboxes : Mailboxes) : Machine :=
  { machine with
    mailboxServers := machine.mailboxServers.modify index fun server =>
      { server with delivery.mailboxes := mailboxes } }

def hangUp (machine : Machine) : Machine :=
  let after := { machine with line := .closed }
  match machine.line with
  | .closed => after
  | .mailbox index live => after.keepMailboxes index live.hangUp.desk.consumer.mailboxes
  | .access index live =>
    let site := live.hangUp.site
    { after.keepMailboxes index site.mailboxes with keys := site.keys }
  | .transfer live =>
    { after with
      transferServer? := machine.transferServer?.map fun server =>
        { server with queue := live.hangUp.desk.consumer } }
  | .script index live =>
    { after with scripts := machine.scripts.modify index (·.note live.hangUp) }

def dial (machine : Machine) (timeout : Nat) (text : String) : Except Error Bytes × Machine :=
  match SocketAddress.parse text with
  | .error error => (.error error, machine)
  | .ok address =>
    if timeout = 0 then (.error Network.noTime, machine)
    else if !address.host.isLocal then (.error .networkUnreachable, machine)
    else match machine.listener? address with
      | none => (.error .connectionRefused, machine)
      | some listener =>
        let (greeting, line) := (machine.answer listener).speak
        (.ok greeting, { machine with line })

instance : Network Machine where
  hear machine bytes :=
    let (more, line) := (machine.line.feed bytes).speak
    (.ok more, { machine with line })
  dial := dial
  hangUp := hangUp

def relayAll (settings : Relay.Settings) : List Mail → Machine → Machine
  | [], machine => machine
  | mail :: rest, machine => relayAll settings rest (Relay.process settings mail machine).2

def relayWaiting (machine : Machine) : Machine :=
  match machine.transferServer? with
  | none => machine
  | some server =>
    let (waiting, queue) := server.queue.takeAll
    relayAll server.relay waiting
      { machine with transferServer? := some { server with queue } }

end Machine

end MailExchange.Service
