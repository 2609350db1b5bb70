import MailExchange.Proofs.Address
import MailExchange.Proofs.Text.Decimal
import MailExchange.Proofs.Transfer.Command
import MailExchange.Proofs.Wire.Frame
import MailExchange.Transfer.Server

/-!
What one frame does to a session in clear. `Session.Step` lists all that can happen; whatever a
session preserves is shown by its cases.
-/

namespace MailExchange.Transfer

open Text (Bytes)
open Wire (Endpoint Fits Frame)

namespace Command

def acceptable : Command → Bool
  | sender address => Address.isValid address
  | recipients addresses => addresses.all Address.isValid
  | _ => true

theorem sender_formed {address : String} (valid : Address.isValid address = true) :
    (sender address).WellFormed :=
  ⟨Address.valid_ne_empty valid, Address.valid_space valid⟩

theorem recipients_formed {addresses : List String} (some_address : addresses ≠ [])
    (valid : ∀ address ∈ addresses, Address.isValid address = true) :
    (recipients addresses).WellFormed := by
  refine ⟨some_address, fun address present => ?_⟩
  have this_one := valid address present
  exact ⟨Address.valid_ne_empty this_one, Address.valid_space this_one,
    Address.valid_comma this_one⟩

/-- A command that a line on the wire can hold. -/
structure Carried (command : Command) : Prop where
  formed : command.WellFormed
  fits : Fits command.line

theorem carried_parse {bytes : Bytes} {text : String} {command : Command}
    (cut : (Frame.line bytes).Cut) (read : Text.utf8 text = Wire.withoutCr bytes)
    (found : parse? text = some command) : command.Carried := by
  obtain ⟨formed, same⟩ := line_parse found
  refine ⟨formed, ?_⟩
  rcases same with same | ⟨_, rfl⟩ | ⟨_, rfl⟩
  · rw [same]
    have shorter : (Wire.withoutCr bytes).length ≤ bytes.length := by
      unfold Wire.withoutCr
      split
      · rw [List.length_dropLast]
        omega
      · exact Nat.le_refl _
    have short := cut.2
    refine ⟨Wire.cut_one_line cut read, ?_⟩
    rw [Wire.lineBytes_length, read]
    omega
  · exact ⟨by decide, by decide⟩
  · exact ⟨by decide, by decide⟩

end Command

namespace Desk

variable {κ : Type} [Consumer κ] {desk after : Desk κ} {command : Command} {reply : String}

def respond? (desk : Desk κ) : Command → Option (String × Desk κ)
  | .begin => none
  | .recipients addresses => some (desk.setRecipients addresses)
  | .sender address => some (desk.setSender address)
  | .subject text => some ("ok", { desk with draft.subject := some text })
  | .body text => some ("ok", { desk with draft.body := some text })
  | .tag text => some ("ok", { desk with draft.tag := some text })
  | .send => some desk.send
  | .quit => none

theorem respond_ordinary (desk : Desk κ) {command : Command} (no_begin : command ≠ .begin)
    (no_quit : command ≠ .quit) : ∃ reply after, desk.respond? command = some (reply, after) := by
  cases command with
  | begin => exact absurd rfl no_begin
  | quit => exact absurd rfl no_quit
  | _ => exact ⟨_, _, rfl⟩

def admission (consumer : κ) (addresses : List String) : String :=
  if addresses.filter (!Consumer.accepts consumer ·) = [] then "ok " ++ toString addresses.length
  else "error unknown recipient " ++
    Text.join "," ((addresses.filter (!Consumer.accepts consumer ·)).filterMap Address.user?)

theorem setRecipients_valid (desk : Desk κ) {addresses : List String}
    (valid : ∀ address ∈ addresses, Address.isValid address = true) :
    desk.setRecipients addresses =
      (admission desk.consumer addresses, { desk with draft.recipients := some addresses }) := by
  have none_invalid : addresses.find? (!Address.isValid ·) = none := by
    rw [List.find?_eq_none]
    intro address present
    rw [valid address present]
    decide
  rw [setRecipients, none_invalid]
  rfl

theorem setRecipients_invalid (desk : Desk κ) {addresses : List String}
    (invalid : ¬ ∀ address ∈ addresses, Address.isValid address = true) :
    ∃ address ∈ addresses, ¬ Address.isValid address = true ∧
      desk.setRecipients addresses = ("error invalid recipient " ++ address, desk) := by
  cases found : addresses.find? (!Address.isValid ·) with
  | none =>
      rw [List.find?_eq_none] at found
      refine absurd ?_ invalid
      intro address present
      have valid := found address present
      rwa [Bool.not_eq_true', Bool.not_eq_false] at valid
  | some address =>
      have invalid := List.find?_some found
      rw [Bool.not_eq_true'] at invalid
      exact ⟨address, List.mem_of_find?_eq_some found, ne_true_of_eq_false invalid,
        by rw [setRecipients, found]⟩

omit [Consumer κ] in
theorem setSender_valid (desk : Desk κ) {address : String}
    (valid : Address.isValid address = true) :
    desk.setSender address = ("ok", { desk with draft.sender := some address }) := if_pos valid

omit [Consumer κ] in
theorem setSender_invalid (desk : Desk κ) {address : String}
    (invalid : ¬ Address.isValid address = true) :
    desk.setSender address = ("error invalid address " ++ address, desk) := if_neg invalid

theorem admission_free (consumer : κ) (addresses : List String) {c : Char}
    (other : ∀ word ∈ ["ok ", "error unknown recipient ", ","], c ∉ word.toList)
    (no_digit : Text.isDigit c = false) (special : Address.isPlain c = false) :
    c ∉ (admission consumer addresses).toList := by
  unfold admission
  split
  · rw [String.toList_append, List.mem_append, not_or]
    refine ⟨other "ok " (by decide), fun digit => ?_⟩
    rw [Text.mem_toString digit] at no_digit
    cases no_digit
  · rw [String.toList_append, List.mem_append, not_or]
    refine ⟨other "error unknown recipient " (by decide), ?_⟩
    intro member
    rcases Text.mem_join member with between | ⟨user, present, inside⟩
    · exact other "," (by decide) between
    · obtain ⟨address, _, named⟩ := List.mem_filterMap.mp present
      rw [Address.user_plain named inside] at special
      cases special

theorem admission_one_line (consumer : κ) (addresses : List String) :
    '\n' ∉ (admission consumer addresses).toList :=
  admission_free consumer addresses (by decide) (by decide) (by decide)

def verdict : Except Error Unit → String
  | .ok () => "ok"
  | .error _ => "error consuming email"

theorem send_missing {desk : Desk κ} {missing : Field}
    (incomplete : desk.draft.complete = .error missing) :
    desk.send = ("error no " ++ missing.name, desk) := by
  rw [send, incomplete]

def leftover (draft : Draft) : Except Error Unit → Draft
  | .ok () => {}
  | .error _ => draft

theorem send_complete {desk : Desk κ} {mail : Mail} (complete : desk.draft.complete = .ok mail) :
    desk.send = (verdict (Consumer.consume desk.consumer mail).1,
      ⟨(Consumer.consume desk.consumer mail).2,
        leftover desk.draft (Consumer.consume desk.consumer mail).1⟩) := by
  simp only [send, complete]
  cases Consumer.consume desk.consumer mail with
  | mk result consumer => cases result <;> rfl

theorem verdict_one_line (result : Except Error Unit) : '\n' ∉ (verdict result).toList := by
  cases result with
  | ok _ => exact (by decide : '\n' ∉ "ok".toList)
  | error _ => exact (by decide : '\n' ∉ "error consuming email".toList)

theorem missing_one_line (missing : Field) : '\n' ∉ ("error no " ++ missing.name).toList := by
  cases missing <;> decide

inductive Response (desk : Desk κ) : Command → String → Desk κ → Prop
  | admitted (addresses : List String)
      (valid : ∀ address ∈ addresses, Address.isValid address = true) :
      Response desk (.recipients addresses) (admission desk.consumer addresses)
        { desk with draft.recipients := some addresses }
  | invalid_recipient (addresses : List String) (address : String) (present : address ∈ addresses)
      (invalid : ¬ Address.isValid address = true) :
      Response desk (.recipients addresses) ("error invalid recipient " ++ address) desk
  | sender (address : String) (valid : Address.isValid address = true) :
      Response desk (.sender address) "ok" { desk with draft.sender := some address }
  | invalid_sender (address : String) (invalid : ¬ Address.isValid address = true) :
      Response desk (.sender address) ("error invalid address " ++ address) desk
  | subject (text : String) :
      Response desk (.subject text) "ok" { desk with draft.subject := some text }
  | body (text : String) : Response desk (.body text) "ok" { desk with draft.body := some text }
  | tag (text : String) : Response desk (.tag text) "ok" { desk with draft.tag := some text }
  | incomplete (missing : Field) (complete : desk.draft.complete = .error missing) :
      Response desk .send ("error no " ++ missing.name) desk
  | handed (mail : Mail) (complete : desk.draft.complete = .ok mail) :
      Response desk .send (verdict (Consumer.consume desk.consumer mail).1)
        ⟨(Consumer.consume desk.consumer mail).2,
          leftover desk.draft (Consumer.consume desk.consumer mail).1⟩

theorem respond_response (found : desk.respond? command = some (reply, after)) :
    Response desk command reply after := by
  cases command with
  | begin => cases found
  | quit => cases found
  | recipients addresses =>
      have same := Option.some.inj found
      by_cases valid : ∀ address ∈ addresses, Address.isValid address = true
      · rw [setRecipients_valid desk valid] at same
        cases same
        exact .admitted addresses valid
      · obtain ⟨address, present, invalid, refused⟩ := setRecipients_invalid desk valid
        rw [refused] at same
        cases same
        exact .invalid_recipient addresses address present invalid
  | sender address =>
      have same := Option.some.inj found
      by_cases valid : Address.isValid address = true
      · rw [setSender_valid desk valid] at same
        cases same
        exact .sender address valid
      · rw [setSender_invalid desk valid] at same
        cases same
        exact .invalid_sender address valid
  | subject text => cases found; exact .subject text
  | body text => cases found; exact .body text
  | tag text => cases found; exact .tag text
  | send =>
      have same := Option.some.inj found
      cases complete : desk.draft.complete with
      | error missing =>
          rw [send_missing complete] at same
          cases same
          exact .incomplete missing complete
      | ok mail =>
          rw [send_complete complete] at same
          cases same
          exact .handed mail complete

theorem Response.one_line (response : Response desk command reply after)
    (one_line : '\n' ∉ command.line.toList) : '\n' ∉ reply.toList := by
  cases response with
  | admitted addresses valid => exact admission_one_line desk.consumer addresses
  | invalid_recipient addresses address present invalid =>
      rw [Command.line, String.toList_append, List.mem_append, not_or] at one_line
      rw [String.toList_append, List.mem_append, not_or]
      exact ⟨by decide, fun broken => one_line.2 (Text.mem_join_of_mem present broken)⟩
  | invalid_sender address invalid =>
      rw [Command.line, String.toList_append, List.mem_append, not_or] at one_line
      rw [String.toList_append, List.mem_append, not_or]
      exact ⟨by decide, one_line.2⟩
  | incomplete missing complete => exact missing_one_line missing
  | handed mail complete => exact verdict_one_line _
  | _ => decide

end Desk

namespace Session

variable {κ : Type} [Consumer κ] {session : Session κ}

def hearing (session : Session κ) (line : String) : Session κ :=
  { session with endpoint := session.endpoint.hear line }

def exchange (session : Session κ) (line reply : String) : Session κ :=
  { session with endpoint := (session.endpoint.hear line).say reply }

def refusal : String := "error protocol error"

inductive Step (session : Session κ) : Session κ → Prop
  | unread (error : Error) : Step session { session with result? := some (.error error) }
  | unknown (line detail : String) (found : Command.parse? line = none) :
      Step session
        { session.exchange line refusal with result? := some (.error (.protocol detail)) }
  | misplaced (line detail : String) (command : Command)
      (found : Command.parse? line = some command)
      (place : command ≠ .quit ∧ (session.begun = true ↔ command = .begin)) :
      Step session
        { session.exchange line refusal with result? := some (.error (.protocol detail)) }
  | begun (line : String) (found : Command.parse? line = some .begin)
      (first : session.begun = false) :
      Step session { session.exchange line "ok" with begun := true }
  | ended (line : String) (found : Command.parse? line = some .quit) :
      Step session
        { session.exchange line "ok bye" with
          desk := { session.desk with draft := {} }, result? := some (.ok ()) }
  | answered (line reply : String) (command : Command) (desk : Desk κ)
      (found : Command.parse? line = some command) (carried : command.Carried)
      (begun : session.begun = true)
      (response : session.desk.respond? command = some (reply, desk)) :
      Step session { session.exchange line reply with desk }

omit [Consumer κ] in
theorem say_clear (session : Session κ) (line : String) (clear : session.endpoint.cipher = none)
    (one_line : '\n' ∉ line.toList) :
    session.say line = { session with endpoint := session.endpoint.say line } := by
  rw [say, Endpoint.write_clear clear one_line]

omit [Consumer κ] in
theorem greet_clear (label : LogPrefix) (consumer : κ) :
    greet label consumer = { endpoint := { label, sent := [greeting] }, desk := { consumer } } :=
  say_clear _ greeting rfl (by decide)

omit [Consumer κ] in
theorem say_hearing (clear : session.endpoint.cipher = none) (line : String) {reply : String}
    (one_line : '\n' ∉ reply.toList) :
    (session.hearing line).say reply = session.exchange line reply :=
  say_clear (session.hearing line) reply clear one_line

omit [Consumer κ] in
theorem finish_running (session : Session κ) (running : session.result? = none)
    (result : Except Error Unit) :
    session.finish result = { session with result? := some result } := by
  rw [finish, running]
  rfl

omit [Consumer κ] in
theorem violation_clear (clear : session.endpoint.cipher = none) (running : session.result? = none)
    (line detail : String) :
    (session.hearing line).violation detail =
      { session.exchange line refusal with result? := some (.error (.protocol detail)) } := by
  rw [violation, say_hearing clear line (by decide)]
  exact finish_running (session.exchange line refusal) running _

theorem execute_respond (session : Session κ) {command : Command} {reply : String} {desk : Desk κ}
    (response : session.desk.respond? command = some (reply, desk)) :
    session.execute command = session.answer (reply, desk) := by
  cases command with
  | begin => cases response
  | quit => cases response
  | recipients addresses => exact congrArg session.answer (Option.some.inj response)
  | sender address => exact congrArg session.answer (Option.some.inj response)
  | subject text => exact congrArg session.answer (Option.some.inj response)
  | body text => exact congrArg session.answer (Option.some.inj response)
  | tag text => exact congrArg session.answer (Option.some.inj response)
  | send => exact congrArg session.answer (Option.some.inj response)

theorem take_text (clear : session.endpoint.cipher = none) {bytes : Bytes} {line : String}
    (text : Text.ofUtf8? (Wire.withoutCr bytes) = some line) :
    session.take (some (.line bytes)) = (session.hearing line).interpret line := by
  rw [take, Endpoint.decode_text clear text]
  rfl

theorem interpret_answered (clear : session.endpoint.cipher = none) (begun : session.begun = true)
    {line reply : String} {command : Command} {desk : Desk κ}
    (found : Command.parse? line = some command)
    (response : session.desk.respond? command = some (reply, desk))
    (one_line : '\n' ∉ reply.toList) :
    (session.hearing line).interpret line = { session.exchange line reply with desk } := by
  have asked : (session.hearing line).begun = true := begun
  simp only [interpret, found, asked, if_true]
  rw [execute_respond (session.hearing line) response, answer]
  exact say_clear { session.hearing line with desk } reply clear one_line

omit [Consumer κ] in
theorem quit_clear (clear : session.endpoint.cipher = none) (running : session.result? = none)
    (line : String) : (session.hearing line).quit =
      { session.exchange line "ok bye" with
        desk := { session.desk with draft := {} }, result? := some (.ok ()) } := by
  have said := say_clear { session.hearing line with desk := { session.desk with draft := {} } }
    "ok bye" clear (by decide)
  have ended := finish_running
    { session.exchange line "ok bye" with desk := { session.desk with draft := {} } } running
    (.ok ())
  exact (congrArg (finish · (.ok ())) said).trans ended

omit [Consumer κ] in
theorem start_other (session : Session κ) {command : Command} (no_begin : command ≠ .begin)
    (no_quit : command ≠ .quit) :
    session.start command = session.violation ("expected begin, got " ++ command.describe) := by
  cases command with
  | begin => exact absurd rfl no_begin
  | quit => exact absurd rfl no_quit
  | _ => rfl

theorem start_step (clear : session.endpoint.cipher = none) (running : session.result? = none)
    (waiting : session.begun = false) {line : String} {command : Command}
    (found : Command.parse? line = some command) :
    Step session ((session.hearing line).start command) := by
  by_cases begins : command = .begin
  · subst begins
    have said := say_clear { session.hearing line with begun := true } "ok" clear (by decide)
    rw [start, said]
    exact .begun line found waiting
  · by_cases quits : command = .quit
    · subst quits
      rw [start, quit_clear clear running]
      exact .ended line found
    · rw [start_other _ begins quits, violation_clear clear running]
      refine .misplaced line _ command found ⟨quits, ?_⟩
      rw [waiting]
      exact iff_of_false Bool.false_ne_true begins

theorem interpret_step (clear : session.endpoint.cipher = none) (running : session.result? = none)
    {line : String}
    (carried : ∀ command, Command.parse? line = some command → command.Carried) :
    Step session ((session.hearing line).interpret line) := by
  cases found : Command.parse? line with
  | none =>
      rw [interpret, found]
      simp only
      rw [violation_clear clear running]
      exact .unknown line _ found
  | some command =>
      cases begun : session.begun with
      | false =>
          have waiting : (session.hearing line).begun = false := begun
          simp only [interpret, found, waiting, Bool.false_eq_true, if_false]
          exact start_step clear running begun found
      | true =>
          have asked : (session.hearing line).begun = true := begun
          by_cases begins : command = .begin
          · subst begins
            simp only [interpret, found, asked, if_true, execute]
            rw [violation_clear clear running]
            exact .misplaced line _ .begin found ⟨by decide, iff_of_true begun rfl⟩
          · by_cases quits : command = .quit
            · subst quits
              simp only [interpret, found, asked, if_true, execute]
              rw [quit_clear clear running]
              exact .ended line found
            · obtain ⟨reply, desk, response⟩ := Desk.respond_ordinary session.desk begins quits
              have fits := (carried command found).fits
              have one_line := (Desk.respond_response response).one_line fits.one_line
              rw [interpret_answered clear begun found response one_line]
              exact .answered line reply command desk found (carried command found) begun response

theorem take_step (clear : session.endpoint.cipher = none) (running : session.result? = none)
    {frame : Frame} (cut : frame.Cut) : Step session (session.take (some frame)) := by
  rcases Endpoint.decode_cases clear (some frame) with
    ⟨error, unread⟩ | ⟨bytes, line, same, read, heard⟩
  · rw [take, unread]
    change Step session (session.finish (.error error))
    rw [finish_running session running]
    exact .unread error
  · cases same
    rw [take, heard]
    exact interpret_step clear running fun command found =>
      Command.carried_parse cut read found

theorem take_none (running : session.result? = none) :
    session.take none = { session with result? := some (.error .unexpectedEof) } := by
  rw [take]
  exact finish_running session running (.error .unexpectedEof)

end Session

end MailExchange.Transfer
