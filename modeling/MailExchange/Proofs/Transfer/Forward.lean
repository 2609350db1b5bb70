import MailExchange.Proofs.Transfer.RoundTrip

/-!
A mail that one session has taken in is sent on to another. It can always be sent, and arrives with
all its fields but for a CR at the end of its subject or its body.
-/

namespace MailExchange.Transfer

open Text (Bytes)
open Wire (Channel Fits Live chomp)

variable {κ ν : Type} [Consumer κ] [Consumer ν]

def forwarded (mail : Mail) : Mail :=
  { mail with subject := chomp mail.subject, body := chomp mail.body }

theorem forwarded_eq {mail : Mail} : forwarded mail = mail ↔
    mail.subject.toList.getLast? ≠ some '\r' ∧ mail.body.toList.getLast? ≠ some '\r' := by
  rw [← Wire.chomp_eq, ← Wire.chomp_eq]
  rcases mail with ⟨sender, recipients, subject, body, tag⟩
  simp only [forwarded, Mail.mk.injEq, true_and, and_true]

theorem arrived_forwarded (mail : Mail) : mail.arrived none = forwarded mail := by
  rw [Mail.arrived, Mail.retagged, Option.or_none]
  rfl

section Accepting

variable {consumer : ν} (accepts : ∀ address, Consumer.accepts consumer address = true)

include accepts

theorem admission_accepting (addresses : List String) :
    Desk.admission consumer addresses = "ok " ++ toString addresses.length := by
  rw [Desk.admission, if_pos]
  rw [List.filter_eq_nil_iff]
  intro address _
  rw [accepts address]
  exact Bool.false_ne_true

theorem admission_fits {addresses : List String} (few : addresses.length < UInt64.size) :
    Fits (Desk.admission consumer addresses) := by
  refine ⟨Desk.admission_one_line consumer addresses, ?_⟩
  have digits : (toString addresses.length).length ≤ 20 :=
    Text.toString_length few
  have encoded := Text.utf8_length_le (toString addresses.length)
  have start : (Text.utf8 "ok ").length = 3 := by decide
  rw [admission_accepting accepts, Wire.lineBytes_append, start, Wire.maxLine]
  omega

theorem refuses_accepting {addresses : List String} {refused : Option (List String)}
    (refuses : Refuses consumer addresses refused) : refused = none := by
  cases refused with
  | none => rfl
  | some users =>
      obtain ⟨⟨address, _, unknown⟩, _⟩ := refuses
      rw [accepts address] at unknown
      cases unknown

end Accepting

/-- What one session has handed to its consumer, another takes in as it is, but for a CR at the end
of a text. -/
theorem forwarded_mail (label : LogPrefix) (first : κ) (input : Bytes)
    (call : Mail × Except Error Unit)
    (handed : call ∈ (Wire.Session.run (Session.observed label first) input).desk.consumer.calls)
    (next_label client_label : LogPrefix) (second : ν)
    (accepts : ∀ address, Consumer.accepts second address = true)
    (consumes : ∀ mail, (Consumer.consume second mail).1 = .ok ()) :
    ∃ opened sent closed,
      Client.begin.run (Live.connect client_label (Session.observed next_label second)) =
        (.ok (), opened) ∧
      Client.sendMail call.1 opened = (⟨.ok (), none⟩, sent) ∧
      Client.quit.run sent = (.ok (), closed) ∧
      closed.peer.session.result? = some (.ok ()) ∧
      closed.peer.session.desk.consumer.calls = [(forwarded call.1, .ok ())] ∧
      (forwarded call.1 = call.1 ↔
        call.1.subject.toList.getLast? ≠ some '\r' ∧ call.1.body.toList.getLast? ≠ some '\r') := by
  obtain ⟨turns, told⟩ := told_run label first input
  have sound := told.sound call handed
  have few := recipients_few (sound.recipients call.1.recipients rfl).2
  obtain ⟨opened, sent, closed, refused, session, began, submitted, ended, refuses, quiet, result,
    calls⟩ := exchange_mail next_label client_label second sound (admission_fits accepts few)
  rw [consumes, refuses_accepting accepts refuses] at submitted
  rw [consumes, arrived_forwarded] at calls
  refine ⟨opened, sent, closed, began, submitted, ended, ?_, ?_, forwarded_eq⟩
  · rw [quiet.peer]
    exact result
  · rw [quiet.peer]
    exact calls

def trailing : Mail := ⟨"zim@irk.planet", ["gaz@earth.planet"], "", "foo\r", none⟩

def trailingTwice : Mail := { trailing with body := "foo\r\r" }

theorem trailingTwice_sendable : Sendable planet trailingTwice :=
  ⟨by decide, by decide, by decide, by decide, by decide, nofun, by decide, by decide⟩

theorem forwarded_trailing : ∃ opened sent closed,
    (trailing, .ok ()) ∈ (Wire.Session.run (Session.observed (.ofProtocol "DMTP") planet)
      (((Client.script trailingTwice).map Command.line).flatMap
        Wire.lineBytes)).desk.consumer.calls ∧
    Client.begin.run (Live.connect (.ofProtocol "DMTP")
      (Session.observed (.ofProtocol "DMTP") (Reluctant.mk 0))) = (.ok (), opened) ∧
    Client.sendMail trailing opened = (⟨.ok (), none⟩, sent) ∧
    Client.quit.run sent = (.ok (), closed) ∧
    closed.peer.session.result? = some (.ok ()) ∧
    closed.peer.session.desk.consumer.calls = [({ trailing with body := "foo" }, .ok ())] := by
  have arrives : trailingTwice.arrived none = trailing := by decide
  have handed := run_script (.ofProtocol "DMTP") planet trailingTwice_sendable.sound
    trailingTwice_sendable.reply_fits
  have member : (trailing, .ok ()) ∈ (Wire.Session.run
      (Session.observed (.ofProtocol "DMTP") planet)
      (((Client.script trailingTwice).map Command.line).flatMap
        Wire.lineBytes)).desk.consumer.calls := by
    rw [handed, arrives]
    exact List.mem_cons_self
  obtain ⟨opened, sent, closed, began, submitted, ended, result, calls, _⟩ :=
    forwarded_mail (.ofProtocol "DMTP") planet _ (trailing, .ok ()) member (.ofProtocol "DMTP")
      (.ofProtocol "DMTP") (Reluctant.mk 0) (fun _ => rfl) (fun _ => rfl)
  have cut : forwarded trailing = { trailing with body := "foo" } := by decide
  rw [cut] at calls
  exact ⟨opened, sent, closed, member, began, submitted, ended, result, calls⟩

end MailExchange.Transfer
