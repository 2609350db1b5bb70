import MailExchange.Program.System
import MailExchange.Service.Servers
import Std.Sync.Channel

namespace MailExchange.Program.Serve

open Socket (ofHost receive resolve send)
open Std.Async (Async background)
open Std.Async.TCP.Socket (Client Server)
open Wire (Live)

/-- How sessions of one kind share a state. -/
structure Sharing (τ σ : Type) where
  load : τ → σ → σ
  keep : τ → σ → τ
  settle : Async Unit := pure ()

variable {τ σ : Type} [Wire.Session σ]

def share {α : Type} (sharing : Sharing τ σ) (shared : IO.Ref τ)
    (act : Live σ → α × Live σ) (live : Live σ) : BaseIO (α × Live σ) :=
  shared.modifyGet fun state =>
    let (value, live) := act { live with session := sharing.load state live.session }
    ((value, live), sharing.keep state live.session)

partial def converse (sharing : Sharing τ σ) (shared : IO.Ref τ) (idle : Nat) (client : Client)
    (live : Live σ) : Async Unit := do
  let (output, live) ← share sharing shared Live.answer live
  sharing.settle
  send client output
  if Wire.Session.isOver live.session then return
  match ← receive idle client with
  | .error _ =>
    let _ ← share sharing shared (fun live => ((), { live with session := live.hangUp })) live
    sharing.settle
  | .ok bytes =>
    let (_, live) ← share sharing shared (fun live => ((), live.feed bytes)) live
    converse sharing shared idle client live

partial def work (clients : Std.CloseableChannel Client) (serve : Client → Async Unit) :
    Async Unit := do
  match ← Std.Async.await (← clients.recv) with
  | none => return
  | some client =>
    try serve client catch _ => pure ()
    try client.shutdown catch _ => pure ()
    work clients serve

partial def accept (server : Server) (clients : Std.CloseableChannel Client) : Async Unit := do
  let client ← server.accept
  let _ ← Std.Async.await (← clients.send client)
  accept server clients

def listen (address : String) (workers : Nat) (serve : Client → Async Unit) :
    Async (Except Error Unit) := do
  match ← resolve address with
  | .error error => return .error error
  | .ok address =>
    try
      let server ← Server.mk
      server.bind address
      server.listen 128
      let clients ← Std.CloseableChannel.new (some (max workers 1))
      for _ in List.range (max workers 1) do
        background (work clients serve)
      background (accept server clients)
      return .ok ()
    catch error => return .error (Socket.ofIOError error)

def label (protocol : String) (client : Client) : Async LogPrefix := do
  match ← (client.getPeerName : IO _).toBaseIO with
  | .ok peer => return LogPrefix.forPeer protocol (toString peer.ipAddr)
  | .error _ => return LogPrefix.forPeer protocol "unknown"

def mailboxSharing : Sharing Mailboxes (Transfer.Session Delivery) where
  load mailboxes session := { session with desk.consumer.mailboxes := mailboxes }
  keep _ session := session.desk.consumer.mailboxes

def accessSharing : Sharing (Mailboxes × Keys.Store) Access.Session where
  load state session := { session with site.mailboxes := state.1, site.keys := state.2 }
  keep _ session := (session.site.mailboxes, session.site.keys)

def mailbox (settings : MailboxSettings) (keys : Keys.Store) : Async (Except Error Unit) := do
  match Service.MailboxServer.ofSettings settings with
  | .error error => return .error error
  | .ok server =>
    let shared ← IO.mkRef (server.delivery.mailboxes, keys)
    let incoming : Sharing (Mailboxes × Keys.Store) (Transfer.Session Delivery) :=
      { load := fun state => mailboxSharing.load state.1
        keep := fun state session => (mailboxSharing.keep state.1 session, state.2) }
    let receiving ← listen settings.transferListen settings.connectionWorkers fun client => do
      let session := server.receive (← label "dmtp" client)
      converse incoming shared server.idle client { session }
    match receiving with
    | .error error => return .error error
    | .ok () =>
      listen settings.accessListen settings.connectionWorkers fun client => do
        let files ← Disk.fetch (← Disk.current)
          (Files.PathText.join keys.rootName (Keys.fileName server.identity .privateKey))
        let session := server.access (← label "dmap" client) keys files
        converse accessSharing shared server.idle client { session }

def handOver (shared : IO.Ref Relay.Queue) (mails : Std.CloseableChannel Mail) : Async Unit := do
  let waiting ← shared.modifyGet Relay.Queue.takeAll
  for mail in waiting do
    let _ ← Std.Async.await (← mails.send mail)

partial def relay (settings : Relay.Settings) (mails : Std.CloseableChannel Mail) :
    Async Unit := do
  match ← Std.Async.await (← mails.recv) with
  | none => return
  | some mail =>
    let _ ← Socket.run settings.timeout (Relay.process settings mail)
    relay settings mails

def transfer (settings : TransferSettings) : Async (Except Error Unit) := do
  let server := Service.TransferServer.ofSettings settings
  let shared ← IO.mkRef server.queue
  let mails ← Std.CloseableChannel.new (some settings.queueCapacity)
  for _ in List.range (max settings.relayWorkers 1) do
    background (relay server.relay mails)
  let sharing : Sharing Relay.Queue (Transfer.Session Relay.Queue) :=
    { load := fun queue session => { session with desk.consumer := queue }
      keep := fun _ session => session.desk.consumer
      settle := handOver shared mails }
  listen settings.listen settings.connectionWorkers fun client => do
    let session := server.receive (← label "dmtp" client)
    converse sharing shared server.idle client { session }

end MailExchange.Program.Serve
