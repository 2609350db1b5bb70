import MailExchange.Proofs.Access.Serving
import MailExchange.Proofs.Wire.Responding
import MailExchange.Proofs.Wire.Trail

/-!
What a session says at each moment, whoever it talks to. The lines are the same in clear and in
secret: the wire makes the difference, and only the moment at which an offer is accepted changes it.
-/

namespace MailExchange.Access

open Text (Bytes)
open Wire (Cipher Endpoint Frame Lane Wrote writable)
open Wire.Handshake (challenge openOffer step_challenged step_responds)

namespace Session

variable {session : Session} {frame : Option Frame}

def answers (session : Session) (request : Request) : List String :=
  Answer.lines (session.account.perform session.site.users request).1

def reply (session : Session) : Command → List String
  | .startSecure =>
    if session.endpoint.isEncrypted then ["error already secure"]
    else match (session.site.keys.privateKey session.site.files session.site.identity).1 with
      | .error _ => ["error secure sessions unavailable"]
      | .ok _ => ["ok " ++ session.site.identity]
  | .login user password => session.answers (.login user password)
  | .list => session.answers .list
  | .view id => session.answers (.view id)
  | .delete id => session.answers (.delete id)
  | .logout => session.answers .logout
  | .quit => ["ok bye"]

def replyTo (session : Session) (line : String) : List String :=
  match Command.parse? line with
  | some command => session.reply command
  | none => ["error protocol error"]

/-- The lines that a session says in clear, or secretly under the cipher that it has. What it says in
a handshake is not among them. -/
def said (session : Session) (frame : Option Frame) : List String :=
  match session.stage with
  | .securing _ _ => []
  | .commands =>
    match (session.endpoint.decode frame).1 with
    | .error _ => []
    | .ok line => writable (session.replyTo line)

def accepted? (session : Session) (frame : Option Frame) : Option (Bytes × Cipher) :=
  match session.stage with
  | .securing key .offer =>
    match (session.endpoint.decode frame).1 with
    | .error _ => none
    | .ok line => (openOffer key.decrypt line).toOption
  | _ => none

theorem say_writable (session : Session) (lines : List String) :
    (session.say lines).endpoint = session.endpoint.wroteAll (writable lines) := by
  have written := session.endpoint.writeAll_writable lines
  rw [say]
  split <;> rename_i failed <;> rw [failed] at written <;> exact written

theorem say_said (session : Session) (lines : List String) :
    Wrote session.endpoint (writable lines) (session.say lines).endpoint := by
  rw [say_writable]
  exact Wrote.lines session.endpoint (writable lines)

theorem SameLanes.wrote {before after : Endpoint} (same : SameLanes before after) :
    Wrote before [] after :=
  ⟨same.sent.trans (List.append_nil _).symm, same.outbound⟩

theorem settle_said (session : Session) (request : Request) :
    Wrote session.endpoint (writable (session.answers request))
      (session.settle (session.account.perform session.site.users request)).endpoint :=
  (session.turn_lanes _).wrote.append (say_said _ _)

theorem startSecure_reply (session : Session) : ∃ keys stage,
    session.startSecure =
      { session with site.keys := keys, stage }.say (session.reply .startSecure) := by
  rw [startSecure, reply]
  split
  · exact ⟨session.site.keys, session.stage, rfl⟩
  · rcases looked : session.site.keys.privateKey session.site.files session.site.identity with
      ⟨key, keys⟩
    simp only [looked]
    cases key with
    | error error => exact ⟨keys, session.stage, rfl⟩
    | ok key => exact ⟨keys, .securing key .offer, rfl⟩

theorem execute_said (session : Session) (command : Command) :
    Wrote session.endpoint (writable (session.reply command))
      (session.execute command).endpoint := by
  have requested (request : Request) : Wrote session.endpoint
      (writable (session.answers request)) (session.execute request.command).endpoint := by
    rw [execute_request]
    exact session.settle_said request
  cases command with
  | startSecure =>
      obtain ⟨keys, stage, replied⟩ := session.startSecure_reply
      rw [execute, replied]
      exact say_said { session with site.keys := keys, stage } (session.reply .startSecure)
  | quit => exact say_said { session with user := none } ["ok bye"]
  | login user password => exact requested (.login user password)
  | list => exact requested .list
  | view id => exact requested (.view id)
  | delete id => exact requested (.delete id)
  | logout => exact requested .logout

theorem interpret_said (session : Session) (line : String) :
    Wrote session.endpoint (writable (session.replyTo line)) (session.interpret line).endpoint := by
  rw [interpret, replyTo]
  cases Command.parse? line with
  | some command => exact session.execute_said command
  | none => exact session.say_said ["error protocol error"]

theorem replyTo_hearing (session : Session) (heard line : String) :
    (session.hearing heard).replyTo line = session.replyTo line := by
  have same : (session.hearing heard).endpoint.isEncrypted = session.endpoint.isEncrypted :=
    session.endpoint.took_isEncrypted heard
  rw [replyTo, replyTo]
  cases Command.parse? line with
  | none => rfl
  | some command =>
      cases command with
      | startSecure =>
          simp only [reply, same]
          rfl
      | _ => rfl

theorem take_read {line : String} (waiting : session.stage = .commands)
    (read : (session.endpoint.decode frame).1 = .ok line) :
    session.take frame = (session.hearing line).interpret line := by
  rcases decoded : session.endpoint.decode frame with ⟨result, after⟩
  rw [decoded] at read
  cases read
  cases Endpoint.decode_took decoded
  simp only [take, waiting, decoded, hearing]

/-- Outside of an accepted offer a session writes what it says to the lane that it has, and keeps the
lane unless it is over. -/
theorem take_said (ordinary : session.accepted? frame = none) :
    (session.take frame).endpoint.sent =
        session.endpoint.sent ++ session.endpoint.outbound.wires (session.said frame) ∧
      ((session.take frame).result? = none → (session.take frame).endpoint.outbound =
        session.endpoint.outbound.afterAll (session.said frame)) := by
  cases stage : session.stage with
  | commands =>
      have wrote : Wrote session.endpoint (session.said frame) (session.take frame).endpoint := by
        cases read : (session.endpoint.decode frame).1 with
        | error error =>
            have wrote := session.endpoint.decode_wrote frame
            rcases decoded : session.endpoint.decode frame with ⟨result, after⟩
            rw [decoded] at read wrote
            cases read
            simp only [said, take, stage, decoded]
            exact wrote
        | ok line =>
            rw [take_read stage read]
            simp only [said, stage, read]
            rw [← session.replyTo_hearing line line]
            exact (Wrote.took session.endpoint line).append ((session.hearing line).interpret_said line)
      exact ⟨wrote.sent, fun _ => wrote.outbound⟩
  | securing key awaited =>
      have silent : session.said frame = [] := by rw [said, stage]
      have responds := step_responds key.decrypt awaited session.endpoint frame
      rw [silent]
      simp only [take, stage, secure]
      generalize Wire.Handshake.step key.decrypt awaited session.endpoint frame = stepped at responds
      cases responds with
      | failed sent clear =>
          exact ⟨sent.trans (List.append_nil _).symm, fun running => absurd running (Option.some_ne_none _)⟩
      | challenged read opened =>
          simp only [accepted?, stage, read, opened] at ordinary
          cases ordinary
      | acknowledged read =>
          have wrote := Wrote.took session.endpoint "ok"
          exact ⟨wrote.sent, fun _ => wrote.outbound⟩

theorem take_challenged {nonce : Bytes} {cipher : Cipher}
    (accepted : session.accepted? frame = some (nonce, cipher)) :
    ∃ key line, session.stage = .securing key .offer ∧
      openOffer key.decrypt line = .ok (nonce, cipher) ∧
      session.take frame =
        { session with
          endpoint := ((session.endpoint.took line).withCipher (some cipher)).wrote (challenge nonce)
          stage := .securing key .acknowledgement } := by
  cases stage : session.stage with
  | commands =>
      simp only [accepted?, stage] at accepted
      cases accepted
  | securing key awaited =>
      cases awaited with
      | acknowledgement =>
          simp only [accepted?, stage] at accepted
          cases accepted
      | offer =>
          cases read : (session.endpoint.decode frame).1 with
          | error error =>
              simp only [accepted?, stage, read] at accepted
              cases accepted
          | ok line =>
              cases opened : openOffer key.decrypt line with
              | error error =>
                  simp only [accepted?, stage, read, opened] at accepted
                  cases accepted
              | ok offer =>
                  simp only [accepted?, stage, read, opened, Except.toOption,
                    Option.some.injEq] at accepted
                  rw [accepted] at opened
                  refine ⟨key, line, rfl, opened, ?_⟩
                  simp only [take, stage, secure, step_challenged read opened]

end Session

end MailExchange.Access
