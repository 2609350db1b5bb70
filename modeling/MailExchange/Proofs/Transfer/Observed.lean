import MailExchange.Proofs.Mail.Journal
import MailExchange.Proofs.Transfer.Server
import MailExchange.Proofs.Wire.Session

namespace MailExchange.Transfer

open Text (Bytes)
open Wire (Frame)

variable {κ : Type} [Consumer κ]

namespace Desk

def unobserved (desk : Desk (Journal κ)) : Desk κ := ⟨desk.consumer.consumer, desk.draft⟩

theorem setRecipients_unobserved (desk : Desk (Journal κ)) (addresses : List String) :
    desk.unobserved.setRecipients addresses =
      ((desk.setRecipients addresses).1, (desk.setRecipients addresses).2.unobserved) := by
  unfold setRecipients
  cases addresses.find? (!Address.isValid ·) <;> rfl

omit [Consumer κ] in
theorem setSender_unobserved (desk : Desk (Journal κ)) (address : String) :
    desk.unobserved.setSender address =
      ((desk.setSender address).1, (desk.setSender address).2.unobserved) := by
  unfold setSender
  split <;> rfl

theorem send_unobserved (desk : Desk (Journal κ)) :
    desk.unobserved.send = (desk.send.1, desk.send.2.unobserved) := by
  cases complete : desk.draft.complete with
  | error missing =>
      have lacking : desk.unobserved.draft.complete = .error missing := complete
      rw [send_missing complete, send_missing lacking]
  | ok mail =>
      have whole : desk.unobserved.draft.complete = .ok mail := complete
      rw [send_complete complete, send_complete whole]
      rfl

end Desk

namespace Session

def unobserved (session : Session (Journal κ)) : Session κ :=
  ⟨session.endpoint, session.desk.unobserved, session.begun, session.result?⟩

omit [Consumer κ] in
theorem say_unobserved (session : Session (Journal κ)) (line : String) :
    session.unobserved.say line = (session.say line).unobserved := by
  have same_endpoint : session.unobserved.endpoint = session.endpoint := rfl
  simp only [say, same_endpoint]
  cases session.endpoint.write line with
  | mk result endpoint => cases result <;> rfl

omit [Consumer κ] in
theorem violation_unobserved (session : Session (Journal κ)) (detail : String) :
    session.unobserved.violation detail = (session.violation detail).unobserved := by
  rw [violation, say_unobserved]
  rfl

omit [Consumer κ] in
theorem quit_unobserved (session : Session (Journal κ)) :
    session.unobserved.quit = session.quit.unobserved :=
  congrArg (finish · (.ok ()))
    (say_unobserved { session with desk := { session.desk with draft := {} } } "ok bye")

omit [Consumer κ] in
theorem answer_unobserved (session : Session (Journal κ)) (reply : String × Desk (Journal κ)) :
    session.unobserved.answer (reply.1, reply.2.unobserved) = (session.answer reply).unobserved :=
  say_unobserved { session with desk := reply.2 } reply.1

theorem execute_unobserved (session : Session (Journal κ)) (command : Command) :
    session.unobserved.execute command = (session.execute command).unobserved := by
  cases command with
  | begin => exact violation_unobserved session _
  | recipients addresses =>
      have same : session.unobserved.desk.setRecipients addresses = _ :=
        session.desk.setRecipients_unobserved addresses
      rw [execute, execute, same]
      exact answer_unobserved session _
  | sender address =>
      have same : session.unobserved.desk.setSender address = _ :=
        session.desk.setSender_unobserved address
      rw [execute, execute, same]
      exact answer_unobserved session _
  | subject text => exact answer_unobserved session (_, { session.desk with draft.subject := text })
  | body text => exact answer_unobserved session (_, { session.desk with draft.body := text })
  | tag text => exact answer_unobserved session (_, { session.desk with draft.tag := text })
  | send =>
      have same : session.unobserved.desk.send = _ := session.desk.send_unobserved
      rw [execute, execute, same]
      exact answer_unobserved session _
  | quit => exact quit_unobserved session

omit [Consumer κ] in
theorem start_unobserved (session : Session (Journal κ)) (command : Command) :
    session.unobserved.start command = (session.start command).unobserved := by
  cases command with
  | begin => exact say_unobserved { session with begun := true } "ok"
  | quit => exact quit_unobserved session
  | _ => exact violation_unobserved session _

theorem interpret_unobserved (session : Session (Journal κ)) (line : String) :
    session.unobserved.interpret line = (session.interpret line).unobserved := by
  have same : session.unobserved.begun = session.begun := rfl
  simp only [interpret, same]
  cases Command.parse? line with
  | none => exact violation_unobserved session _
  | some command =>
      cases session.begun with
      | false => exact start_unobserved session command
      | true => exact execute_unobserved session command

theorem take_unobserved (session : Session (Journal κ)) (frame : Option Frame) :
    session.unobserved.take frame = (session.take frame).unobserved := by
  have same : session.unobserved.endpoint = session.endpoint := rfl
  simp only [take, same]
  cases session.endpoint.decode frame with
  | mk heard endpoint =>
      cases heard with
      | error error => rfl
      | ok line => exact interpret_unobserved { session with endpoint } line

theorem run_unobserved (session : Session (Journal κ)) (input : Bytes) :
    Wire.Session.run session.unobserved input = (Wire.Session.run session input).unobserved :=
  Wire.Session.run_map unobserved take_unobserved (fun _ => rfl) session input

def observed (label : LogPrefix) (consumer : κ) : Session (Journal κ) := greet label ⟨consumer, []⟩

omit [Consumer κ] in
theorem greet_unobserved (label : LogPrefix) (consumer : κ) :
    greet label consumer = (observed label consumer).unobserved :=
  say_unobserved { endpoint := { label }, desk := ⟨⟨consumer, []⟩, {}⟩ } greeting

end Session

end MailExchange.Transfer
