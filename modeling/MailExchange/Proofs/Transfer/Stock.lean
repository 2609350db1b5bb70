import MailExchange.Proofs.Mail.Delivery
import MailExchange.Proofs.Transfer.RoundTrip

/-!
What the mailboxes of a domain can hold, when mail comes into them from transfer sessions only:
every message has come over the wire, line by line.
-/

namespace MailExchange

open Text (Bytes)
open Transfer (Command Desk Session)

/-- A mail that a session has given to its consumer, on some stream of bytes. -/
def Mail.Handed (mail : Mail) : Prop :=
  ∃ (κ : Type) (_ : Consumer κ) (label : LogPrefix) (consumer : κ) (input : Bytes),
    mail ∈ (Wire.Session.run (Session.observed label consumer)
      input).desk.consumer.calls.map Prod.fst

theorem Mail.Handed.sound {mail : Mail} (handed : mail.Handed) : mail.Sound := by
  obtain ⟨κ, _, label, consumer, input, member⟩ := handed
  obtain ⟨call, called, rfl⟩ := List.mem_map.mp member
  obtain ⟨turns, told⟩ := Transfer.told_run label consumer input
  exact told.sound call called

theorem Transfer.WireClean.handed {κ : Type} [Consumer κ] {consumer : κ} {mail : Mail}
    (clean : Transfer.WireClean consumer mail) : mail.Handed := by
  have whole : mail.arrived none = mail :=
    (clean.arrives none).trans (Mail.retagged_eq.mpr fun _ => rfl)
  have calls := Transfer.run_script (.ofProtocol "DMTP") consumer clean.toSendable.sound
    clean.toSendable.reply_fits
  rw [whole] at calls
  refine ⟨κ, inferInstance, .ofProtocol "DMTP", consumer,
    ((Transfer.Client.script mail).map Command.line).flatMap Wire.lineBytes, ?_⟩
  rw [calls]
  exact List.mem_singleton_self mail

/-- Mailboxes into which mail was delivered, in whatever order the sessions handed it over, and of
which any was deleted. -/
inductive Stocked (users : Users) : Mailboxes → Prop
  | empty : Stocked users {}
  | deliver {mailboxes : Mailboxes} {mail : Mail} (stocked : Stocked users mailboxes)
      (handed : mail.Handed) :
      Stocked users ((⟨users, mailboxes⟩ : Delivery).deliver mail).mailboxes
  | delete {mailboxes : Mailboxes} (user : String) (id : MessageId)
      (stocked : Stocked users mailboxes) : Stocked users (mailboxes.delete user id).2

namespace Stocked

variable {users : Users} {mailboxes : Mailboxes}

theorem sound (stocked : Stocked users mailboxes) {user : String} {message : MessageId × Mail}
    (member : message ∈ mailboxes.list user) : message.2.Sound := by
  induction stocked generalizing message with
  | empty => cases member
  | @deliver mailboxes mail stocked handed ih =>
      rw [Delivery.deliver_list, List.mem_append] at member
      rcases member with before | coming
      · exact ih before
      · split at coming
        · rw [List.mem_singleton.mp coming]
          exact handed.sound
        · cases coming
  | @delete mailboxes name id stocked ih =>
      change message ∈ ((mailboxes.setBox name _).box user).messages at member
      by_cases same : user = name
      · rw [same, Mailboxes.box_setBox] at member
        exact ih (by rw [same]; exact (List.mem_filter.mp member).1)
      · rw [Mailboxes.box_setBox_other same] at member
        exact ih member

end Stocked

namespace Transfer

variable {κ : Type} [Consumer κ]

def replayed (consumer : κ) (calls : List (Mail × Except Error Unit)) : κ :=
  calls.foldl (fun consumer call => (Consumer.consume consumer call.1).2) consumer

/-- Only what the journal of a session notes has changed its consumer. -/
structure Replays (consumer : κ) (session : Session (Journal κ)) : Prop where
  clear : session.endpoint.cipher = none
  consumer : session.desk.consumer.consumer = replayed consumer session.desk.consumer.calls

theorem Replays.step {consumer : κ} {session next : Session (Journal κ)}
    (replays : Replays consumer session) (step : Session.Step session next) :
    Replays consumer next := by
  obtain ⟨clear, same⟩ := replays
  cases step with
  | answered line reply command desk found carried begun response =>
      refine ⟨clear, ?_⟩
      change desk.consumer.consumer = replayed consumer desk.consumer.calls
      have answer := Desk.respond_response response
      by_cases send : command = .send
      · subst send
        cases answer with
        | incomplete missing complete => exact same
        | handed mail complete =>
            rw [Journal.consume_calls, replayed, List.foldl_concat, ← replayed, ← same]
            rfl
      · rw [answer.amends send]
        exact same
  | _ => exact ⟨clear, same⟩

theorem run_replayed (label : LogPrefix) (consumer : κ) (input : Bytes) :
    Replays consumer (Wire.Session.run (Session.observed label consumer) input) := by
  refine Wire.Session.run_induction ?_ ?_ _ input ⟨rfl, rfl⟩
  · intro session frame running cut replays
    exact replays.step (Session.take_step replays.clear (Wire.Session.isOver_iff.mp running) cut)
  · intro session running replays
    have ended : Wire.Session.take session none =
        { session with result? := some (.error .unexpectedEof) } :=
      Session.take_none (Wire.Session.isOver_iff.mp running)
    rw [ended]
    exact ⟨replays.clear, replays.consumer⟩

end Transfer

namespace Stocked

variable {users : Users} {mailboxes : Mailboxes}

theorem replayed (stocked : Stocked users mailboxes) {calls : List (Mail × Except Error Unit)}
    (handed : ∀ call ∈ calls, call.1.Handed) :
    Stocked users (Transfer.replayed (⟨users, mailboxes⟩ : Delivery) calls).mailboxes := by
  induction calls generalizing mailboxes with
  | nil => exact stocked
  | cons call calls ih =>
      exact ih (stocked.deliver (handed call List.mem_cons_self)) fun other called =>
        handed other (List.mem_cons_of_mem call called)

theorem run (stocked : Stocked users mailboxes) (label : LogPrefix) (input : Bytes) :
    Stocked users (Wire.Session.run (Session.greet label (⟨users, mailboxes⟩ : Delivery))
      input).desk.consumer.mailboxes := by
  have same : (Wire.Session.run (Session.greet label (⟨users, mailboxes⟩ : Delivery))
      input).desk.consumer = (Wire.Session.run (Session.observed label
        (⟨users, mailboxes⟩ : Delivery)) input).desk.consumer.consumer := by
    rw [Session.greet_unobserved, Session.run_unobserved]
    rfl
  rw [same, (Transfer.run_replayed label _ input).consumer]
  exact stocked.replayed fun call called =>
    ⟨Delivery, inferInstance, label, ⟨users, mailboxes⟩, input, List.mem_map_of_mem called⟩

end Stocked

end MailExchange
