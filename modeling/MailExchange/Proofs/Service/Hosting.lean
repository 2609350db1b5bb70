import MailExchange.Proofs.Mail.Delivery
import MailExchange.Proofs.Relay.Accounting
import MailExchange.Service.Machine

namespace MailExchange.Service

open Network (SocketAddress)
open Relay (opened transfer)
open Transfer (WireClean)
open Wire (Embeds Live)

def MailboxServer.taking (server : MailboxServer) (mail : Mail) : MailboxServer :=
  { server with delivery := server.delivery.deliver mail }

namespace Machine

variable {machine : Machine} {settings : Relay.Settings} {mail : Mail} {target : String} {index : Nat}
  {server : MailboxServer}

def reached? (machine : Machine) (target : String) : Option Nat :=
  match SocketAddress.parse target with
  | .error _ => none
  | .ok address =>
    if address.host.isLocal then
      match machine.listener? address with
      | some (.mailbox index) => some index
      | _ => none
    else none

theorem reached_some (reached : machine.reached? target = some index) :
    ∃ address, SocketAddress.parse target = .ok address ∧ address.host.isLocal = true ∧
      machine.listener? address = some (.mailbox index) := by
  rw [reached?] at reached
  split at reached
  · cases reached
  · rename_i address parsed
    split at reached
    · rename_i on_machine
      split at reached
      · rename_i found listening
        cases reached
        exact ⟨address, parsed, on_machine, listening⟩
      · cases reached
    · cases reached

def arrival (server : MailboxServer) : Live (Transfer.Session Delivery) :=
  { session := server.receive (.forPeer "dmtp" "127.0.0.1") }

theorem dial_reached (timed : settings.timeout ≠ 0)
    (reached : machine.reached? target = some index)
    (here : machine.mailboxServers[index]? = some server) (patient : server.idle ≠ 0) :
    Network.dial machine settings.timeout target =
      (.ok (arrival server).answer.1,
        { machine with line := .mailbox index (arrival server).answer.2 }) := by
  obtain ⟨address, parsed, on_machine, listening⟩ := reached_some reached
  change machine.dial settings.timeout target = _
  simp only [dial, parsed, if_neg timed, on_machine, Bool.not_true, Bool.false_eq_true, if_false,
    listening, answer, here, if_neg patient]
  rfl

def serverAt? (machine : Machine) (target : String) : Option MailboxServer :=
  (machine.reached? target).bind fun index => machine.mailboxServers[index]?

theorem embeds (machine : Machine) (index : Nat) :
    Embeds fun live => { machine with line := .mailbox index live } :=
  ⟨fun _ _ => rfl, fun _ => rfl⟩

theorem keepMailboxes_serverAt (here : machine.mailboxServers[index]? = some server)
    (line : Line) (mailboxes : Mailboxes) (target : String) :
    ({ machine with line }.keepMailboxes index mailboxes).serverAt? target =
      if machine.reached? target = some index then
        some { server with delivery.mailboxes := mailboxes }
      else machine.serverAt? target := by
  change (machine.reached? target).bind (fun found =>
    (machine.mailboxServers.modify index _)[found]?) = _
  rw [serverAt?]
  cases machine.reached? target with
  | none => rfl
  | some found =>
      rw [Option.bind_some, Option.bind_some, List.getElem?_modify]
      by_cases same : found = index
      · subst same
        rw [if_pos rfl, here]
        simp only [if_true, Option.map_eq_map, Option.map_some]
      · rw [if_neg (Option.some_injective Nat |>.ne same)]
        simp only [Ne.symm same, if_false, Option.map_eq_map, Option.map_id']

/-- A transfer to a mailbox server hands the mail over there, and is for all who reach that server. -/
theorem transfer_taken (timed : settings.timeout ≠ 0)
    (found : machine.serverAt? target = some server) (patient : server.idle ≠ 0)
    (clean : WireClean server.delivery mail) :
    ∃ refused endpoint after, transfer settings mail target machine =
        (.transferred ⟨.ok (), refused⟩ endpoint, after) ∧
      ∀ other, after.serverAt? other =
        if machine.reached? other = machine.reached? target then some (server.taking mail)
        else machine.serverAt? other := by
  obtain ⟨index, reached, here⟩ := Option.bind_eq_some_iff.mp found
  obtain ⟨refused, closed, submitted, left⟩ := Transfer.Client.deliver_taken
    (.forPeer "dmtp" "127.0.0.1") (.forPeer "dmtp" target) clean rfl
  have mapped := Transfer.Client.deliver_map (machine.embeds index) mail
    (Live.connect (.forPeer "dmtp" target)
      (Transfer.Session.greet (.forPeer "dmtp" "127.0.0.1") server.delivery))
  rw [submitted] at mapped
  have opened_here : Transfer.Client.deliver mail (opened target (arrival server).answer.1
      { machine with line := .mailbox index (arrival server).answer.2 }) = _ := mapped
  refine ⟨refused, closed.endpoint,
    { machine with line := .closed }.keepMailboxes index
      (server.delivery.deliver mail).mailboxes, ?_, ?_⟩
  · have kept : closed.peer.hangUp.desk.consumer.mailboxes =
        (server.delivery.deliver mail).mailboxes := congrArg Delivery.mailboxes left
    rw [Relay.transfer_opened (dial_reached timed reached here patient), opened_here, ← kept]
    rfl
  · intro other
    rw [reached]
    exact keepMailboxes_serverAt here .closed _ other

end Machine

end MailExchange.Service
