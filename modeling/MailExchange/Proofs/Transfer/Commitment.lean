import MailExchange.Proofs.Transfer.Refused
import MailExchange.Proofs.Transfer.Unsendable
import Mathlib.Data.List.Forall2

/-!
A client does not commit itself before everything is acknowledged, whatever its peer answers. Each
command is written only when the one before it was acknowledged, so that `send` comes after an
acknowledgement of all that is to be sent.
-/

namespace MailExchange.Transfer.Client

open Wire (Channel Peer Talk Wrote expectOk expectOk_bare expectOk_error oneLine splitCommand_error
  splitCommand_ok)

/-- The replies on which a client goes on. -/
def Acknowledges : Command → String → Prop
  | .recipients addresses, reply =>
    (∃ text, reply = "ok " ++ text ∧
      (Text.word64? text).map UInt64.toNat = some addresses.length) ∨
    ∃ users, reply = "error unknown recipient " ++ users
  | _, reply => reply = "ok"

/-- How a call fails on any other reply: if it is an error, with the text of it. -/
def Rejects (reply : String) (error : Error) : Prop :=
  (reply = "error" → error = .remote "") ∧ ∀ text, reply = "error " ++ text → error = .remote text

/-- How it can go with commands that are sent one after another: which of them are written, what is
replied, and what comes of it. -/
inductive Course : List Command → List Command → List String → Except Error Unit → Prop
  | done : Course [] [] [] (.ok ())
  | unwritten (command : Command) (later : List Command) (error : Error) :
      Course (command :: later) [] [] (.error error)
  | unanswered (command : Command) (later : List Command) (error : Error) :
      Course (command :: later) [command] [] (.error error)
  | rejected {command : Command} {reply : String} {error : Error} (later : List Command)
      (unacknowledged : ¬Acknowledges command reply) (rejects : Rejects reply error) :
      Course (command :: later) [command] [reply] (.error error)
  | acknowledged {command : Command} {reply : String} {later written : List Command}
      {replies : List String} {result : Except Error Unit}
      (acknowledged : Acknowledges command reply) (course : Course later written replies result) :
      Course (command :: later) (command :: written) (reply :: replies) result

section Replies

variable {reply : String} {error : Error} {count : Nat}

def readBare (reply : String) : Except Error Unit :=
  match expectOk reply with
  | .error error => .error error
  | .ok none => .ok ()
  | .ok (some _) => .error (.unexpectedReply reply)

theorem readBare_ok (read : readBare reply = .ok ()) : reply = "ok" := by
  rw [readBare] at read
  split at read
  · cases read
  · rename_i bare
    exact expectOk_bare bare
  · cases read

theorem readBare_rejects (failed : readBare reply = .error error) : Rejects reply error := by
  constructor
  · rintro rfl
    cases failed
    rfl
  · rintro text rfl
    simp only [readBare, expectOk_error] at failed
    cases failed
    rfl

theorem readRefusal_rejects (failed : readRefusal count reply = .error error) :
    Rejects reply error := by
  constructor
  · rintro rfl
    cases failed
    rfl
  · rintro text rfl
    simp only [readRefusal, splitCommand_error] at failed
    split at failed
    · cases failed
    · cases failed
      rfl

theorem acknowledges_bare {command : Command} (other : ∀ addresses, command ≠ .recipients addresses) :
    Acknowledges command reply ↔ reply = "ok" := by
  cases command with
  | recipients addresses => exact absurd rfl (other addresses)
  | _ => exact Iff.rfl

theorem readRefusal_acknowledges {addresses : List String} :
    (∃ refused, readRefusal addresses.length reply = .ok refused) ↔
      Acknowledges (.recipients addresses) reply := by
  constructor
  · rintro ⟨refused, read⟩
    rcases readRefusal_ok read with ⟨text, same, counted, _⟩ | ⟨users, same, _⟩
    · exact Or.inl ⟨text, same, counted⟩
    · exact Or.inr ⟨users, same⟩
  · rintro (⟨text, rfl, counted⟩ | ⟨users, rfl⟩)
    · exact ⟨none, by simp only [readRefusal, splitCommand_ok, counted, if_true]⟩
    · exact ⟨_, refusal_read users _⟩

end Replies

namespace Course

variable {first second written more : List Command} {replies others : List String}
  {outcome result : Except Error Unit} {error : Error}

theorem append (course : Course first written replies outcome) (done : outcome = .ok ())
    (next : Course second more others result) :
    Course (first ++ second) (written ++ more) (replies ++ others) result := by
  induction course with
  | done => exact next
  | unwritten => cases done
  | unanswered => cases done
  | rejected => cases done
  | acknowledged acknowledged _ ih => exact .acknowledged acknowledged (ih done)

theorem stop (course : Course first written replies outcome) (failed : outcome = .error error)
    (second : List Command) : Course (first ++ second) written replies outcome := by
  induction course with
  | done => cases failed
  | unwritten command later error => exact .unwritten command _ error
  | unanswered command later error => exact .unanswered command _ error
  | rejected later unacknowledged rejects => exact .rejected _ unacknowledged rejects
  | acknowledged acknowledged _ ih => exact .acknowledged acknowledged (ih failed)

theorem in_order (course : Course first written replies result) : written <+: first := by
  induction course with
  | done => exact List.prefix_rfl
  | unwritten => exact List.nil_prefix
  | unanswered command later => exact ⟨later, rfl⟩
  | rejected later => exact ⟨later, rfl⟩
  | acknowledged _ _ ih => exact List.cons_prefix_cons.mpr ⟨rfl, ih⟩

theorem one_reply_each (course : Course first written replies result) :
    replies.length ≤ written.length ∧ written.length ≤ replies.length + 1 := by
  induction course with
  | acknowledged _ _ ih => exact ⟨Nat.succ_le_succ ih.1, Nat.succ_le_succ ih.2⟩
  | _ => simp

theorem earlier (course : Course first written replies result) {before after : List Command}
    {command : Command} (cut : written = before ++ command :: after) :
    List.Forall₂ Acknowledges before (replies.take before.length) := by
  induction course generalizing before with
  | acknowledged acknowledged _ ih =>
      cases before with
      | nil => exact .nil
      | cons _ before =>
          obtain ⟨rfl, rest⟩ := List.cons.inj cut
          exact .cons acknowledged (ih rest)
  | _ =>
      -- Nothing was written before the one command that was written, if any was.
      cases before with
      | nil => exact .nil
      | cons _ before => simp at cut

theorem rejection (course : Course first written replies result) {index : Nat} {command : Command}
    {reply : String} (asked : written[index]? = some command) (told : replies[index]? = some reply)
    (unacknowledged : ¬Acknowledges command reply) :
    written.length = index + 1 ∧ replies.length = index + 1 ∧
      ∃ error, result = .error error ∧ Rejects reply error := by
  induction course generalizing index with
  | done => cases asked
  | unwritten => cases asked
  | unanswered => cases told
  | rejected later _ rejects =>
      cases index with
      | zero =>
          cases told
          exact ⟨rfl, rfl, _, rfl, rejects⟩
      | succ index => cases told
  | acknowledged acknowledged _ ih =>
      cases index with
      | zero =>
          cases asked
          cases told
          exact absurd acknowledged unacknowledged
      | succ index =>
          obtain ⟨wrote, heard, failed⟩ := ih asked told
          exact ⟨congrArg Nat.succ wrote, congrArg Nat.succ heard, failed⟩

/-- All is well exactly if everything is acknowledged. -/
theorem succeeds_iff (course : Course first written replies result) :
    result = .ok () ↔ written = first ∧ List.Forall₂ Acknowledges first replies := by
  induction course with
  | done => exact iff_of_true rfl ⟨rfl, .nil⟩
  | unwritten => exact iff_of_false nofun nofun
  | unanswered => exact iff_of_false nofun nofun
  | rejected later unacknowledged =>
      refine iff_of_false nofun ?_
      rintro ⟨_, all⟩
      cases all with
      | cons acknowledged _ => exact unacknowledged acknowledged
  | acknowledged acknowledged _ ih =>
      rw [ih, List.forall₂_cons, and_iff_right acknowledged, List.cons.injEq, and_iff_right rfl]

end Course

section Following

variable {π α β : Type}

def Follows (talk : Talk π α) (commands : List Command) : Prop :=
  ∀ channel, ∃ written replies,
    Course commands written replies ((talk.run channel).1.map fun _ => ()) ∧
    Wrote channel.endpoint (written.map Command.line) (talk.run channel).2.endpoint ∧
    (talk.run channel).2.endpoint.heard = channel.endpoint.heard ++ replies

theorem follows_pure (value : α) : Follows (pure value : Talk π α) [] :=
  fun channel => ⟨[], [], .done, Wrote.nothing channel.endpoint, (List.append_nil _).symm⟩

theorem Follows.bind {talk : Talk π α} {next : α → Talk π β} {first second : List Command}
    (follows : Follows talk first) (more : ∀ value, Follows (next value) second) :
    Follows (talk >>= next) (first ++ second) := by
  intro channel
  obtain ⟨written, replies, course, wrote, heard⟩ := follows channel
  rcases ran : talk.run channel with ⟨result, middle⟩
  rw [ran] at course wrote heard
  cases result with
  | error error =>
      rw [Talk.run_error ran]
      exact ⟨written, replies, course.stop rfl second, wrote, heard⟩
  | ok value =>
      obtain ⟨later, others, next_course, next_wrote, next_heard⟩ := more value middle
      rw [Talk.run_ok ran]
      refine ⟨written ++ later, replies ++ others, course.append rfl next_course, ?_, ?_⟩
      · rw [List.map_append]
        exact wrote.append next_wrote
      · rw [next_heard, heard, List.append_assoc]

variable [Peer π]

theorem follows_asked {command : Command} {check : String → Except Error α}
    (accepted : ∀ reply value, check reply = .ok value → Acknowledges command reply)
    (refused : ∀ reply error, check reply = .error error →
      ¬Acknowledges command reply ∧ Rejects reply error) :
    Follows (request command >>= fun reply => (Talk.ofExcept (check reply) : Talk π α))
      [command] := by
  intro channel
  have wrote : Wrote channel.endpoint (oneLine command.line)
      ((request command).run channel).2.endpoint := Talk.writes_request command.line channel
  have heard : ((request command).run channel).2.endpoint.heard =
      channel.endpoint.heard ++ ((request command).run channel).1.toOption.toList :=
    Talk.request_heard command.line channel
  rcases asked : (request command).run channel with ⟨result, after⟩
  rw [asked] at wrote heard
  cases result with
  | error error =>
      rw [Talk.run_error asked]
      by_cases broken : '\n' ∈ command.line.toList
      · rw [oneLine, if_pos broken] at wrote
        exact ⟨[], [], .unwritten command [] error, wrote, heard⟩
      · rw [oneLine, if_neg broken] at wrote
        exact ⟨[command], [], .unanswered command [] error, wrote, heard⟩
  | ok reply =>
      rw [Talk.run_ok asked, Talk.run_ofExcept]
      have one_line : '\n' ∉ command.line.toList := by
        intro broken
        have written : (Talk.writeLine command.line).run channel =
            (.error .lineBreakInLine, channel) := channel.send_broken broken
        have unsent : (request command).run channel = (.error .lineBreakInLine, channel) :=
          Talk.run_error written
        rw [unsent] at asked
        cases asked
      rw [oneLine, if_neg one_line] at wrote
      refine ⟨[command], [reply], ?_, wrote, heard⟩
      cases checked : check reply with
      | ok value => exact .acknowledged (accepted reply value checked) .done
      | error error =>
          obtain ⟨unacknowledged, rejects⟩ := refused reply error checked
          exact .rejected [] unacknowledged rejects

theorem command_bare (command : Command) : (Client.command command : Talk π Unit) =
    request command >>= fun reply => Talk.ofExcept (readBare reply) := by
  rw [Client.command]
  congr 1
  funext reply
  rw [readBare]
  cases expectOk reply with
  | error error => rfl
  | ok text => cases text <;> rfl

theorem follows_command {command : Command} (other : ∀ addresses, command ≠ .recipients addresses) :
    Follows (Client.command command : Talk π Unit) [command] := by
  rw [command_bare]
  apply follows_asked
  · intro reply _ read
    exact (acknowledges_bare other).mpr (readBare_ok read)
  · intro reply error failed
    refine ⟨?_, readBare_rejects failed⟩
    rw [acknowledges_bare other]
    rintro rfl
    cases failed

theorem follows_commands {commands : List Command}
    (others : ∀ command ∈ commands, ∀ addresses, command ≠ .recipients addresses) :
    Follows (forM commands Client.command : Talk π Unit) commands := by
  induction commands with
  | nil => exact follows_pure ()
  | cons command commands ih =>
      exact (follows_command (others command List.mem_cons_self)).bind fun _ =>
        ih fun other member => others other (List.mem_cons_of_mem command member)

theorem follows_recipients (mail : Mail) :
    Follows (sendRecipients mail : Talk π (Option (List String)))
      [.recipients mail.recipients] := by
  apply follows_asked
  · intro reply refused read
    exact readRefusal_acknowledges.mp ⟨refused, read⟩
  · intro reply error failed
    refine ⟨?_, readRefusal_rejects failed⟩
    rw [← readRefusal_acknowledges]
    rintro ⟨refused, read⟩
    rw [read] at failed
    cases failed

theorem content_others (mail : Mail) :
    ∀ command ∈ content mail, ∀ addresses, command ≠ .recipients addresses := by
  rintro _ member addresses rfl
  simp [content] at member

theorem follows_mail (mail : Mail) :
    Follows (sendRecipients mail >>= fun _ => (sendContent mail : Talk π Unit)) (commands mail) := by
  rw [sendContent_forM]
  exact (follows_recipients mail).bind fun _ => follows_commands (content_others mail)

end Following

/-- What a client does about a mail, by what it has written and what it was replied. -/
structure Conduct (mail : Mail) (written : List Command) (replies : List String)
    (submission : Submission) : Prop where
  /-- The commands of the mail are written in their order. -/
  in_order : written <+: commands mail
  /-- Every reply is to a command, and only the last command may have none. -/
  one_reply_each : replies.length ≤ written.length ∧ written.length ≤ replies.length + 1
  /-- Whatever was written before a command had been acknowledged. -/
  earlier : ∀ before command after, written = before ++ command :: after →
    List.Forall₂ Acknowledges before (replies.take before.length)
  /-- The client sends the mail only when everything in it was acknowledged. -/
  sends : .send ∈ written → ∃ admission rest,
    Acknowledges (.recipients mail.recipients) admission ∧
      replies = admission :: (filling mail).map (fun _ => "ok") ++ rest
  /-- After any other reply nothing is written, and the call fails. -/
  rejection : ∀ (index : Nat) command reply, written[index]? = some command →
    replies[index]? = some reply → ¬Acknowledges command reply →
    written.length = index + 1 ∧ replies.length = index + 1 ∧
      ∃ error, submission.result = .error error ∧ Rejects reply error
  /-- The call succeeds only if also the mail was acknowledged. -/
  success : submission.result = .ok () ↔ written = commands mail ∧ ∃ admission,
    Acknowledges (.recipients mail.recipients) admission ∧
      replies = admission :: (filling mail).map (fun _ => "ok") ++ ["ok"]
  /-- Users are refused by the reply to the recipients and by nothing else. -/
  refused : ∀ users, submission.refused = some users ↔
    ∃ text, replies.head? = some ("error unknown recipient " ++ text) ∧
      users = Text.splitAtEach ',' text

section Conducting

variable {mail : Mail} {written : List Command} {replies : List String}
  {result : Except Error Unit}

theorem acknowledged_bare {commands : List Command}
    (others : ∀ command ∈ commands, ∀ addresses, command ≠ .recipients addresses) :
    List.Forall₂ Acknowledges commands replies ↔ replies = commands.map fun _ => "ok" := by
  induction commands generalizing replies with
  | nil => exact List.forall₂_nil_left_iff
  | cons command commands ih =>
      rw [List.forall₂_cons_left_iff, List.map_cons]
      constructor
      · rintro ⟨reply, more, acknowledged, rest, rfl⟩
        rw [(acknowledges_bare (others command List.mem_cons_self)).mp acknowledged,
          (ih fun other member => others other (List.mem_cons_of_mem command member)).mp rest]
      · rintro rfl
        refine ⟨_, _, (acknowledges_bare (others command List.mem_cons_self)).mpr rfl, ?_, rfl⟩
        exact (ih fun other member => others other (List.mem_cons_of_mem command member)).mpr rfl

theorem acknowledged_mail {later : List Command}
    (others : ∀ command ∈ later, ∀ addresses, command ≠ .recipients addresses) :
    List.Forall₂ Acknowledges (.recipients mail.recipients :: later) replies ↔
      ∃ admission, Acknowledges (.recipients mail.recipients) admission ∧
        replies = admission :: later.map fun _ => "ok" := by
  rw [List.forall₂_cons_left_iff]
  simp only [acknowledged_bare others]
  constructor
  · rintro ⟨admission, _, acknowledged, rfl, rfl⟩
    exact ⟨admission, acknowledged, rfl⟩
  · rintro ⟨admission, acknowledged, rfl⟩
    exact ⟨admission, _, acknowledged, rfl, rfl⟩

theorem Course.sends (course : Course (commands mail) written replies result)
    (sent : .send ∈ written) :
    ∃ admission rest, Acknowledges (.recipients mail.recipients) admission ∧
      replies = admission :: (filling mail).map (fun _ => "ok") ++ rest := by
  have cut : commands mail = (.recipients mail.recipients :: filling mail) ++ [.send] := rfl
  have whole : written = commands mail := by
    rcases (List.prefix_concat_iff.mp (cut ▸ course.in_order)) with all | early
    · exact all
    · exact absurd (early.subset sent) (filling_no_send mail)
  have earlier := course.earlier (whole.trans cut)
  have others : ∀ command ∈ filling mail, ∀ addresses, command ≠ .recipients addresses :=
    fun command member => content_others mail command (List.mem_append_left _ member)
  obtain ⟨admission, acknowledged, before⟩ := (acknowledged_mail others).mp earlier
  rw [List.length_cons] at before
  refine ⟨admission, replies.drop ((filling mail).length + 1), acknowledged, ?_⟩
  rw [← before, List.take_append_drop]

theorem Course.success (course : Course (commands mail) written replies result) :
    result = .ok () ↔ written = commands mail ∧ ∃ admission,
      Acknowledges (.recipients mail.recipients) admission ∧
        replies = admission :: (filling mail).map (fun _ => "ok") ++ ["ok"] := by
  have oks : (content mail).map (fun _ => "ok") = (filling mail).map (fun _ => "ok") ++ ["ok"] :=
    List.map_append
  rw [course.succeeds_iff, commands, acknowledged_mail (content_others mail), oks]
  rfl

end Conducting

section Refusing

variable {π : Type} [Peer π] {mail : Mail} {channel : Channel π} {replies : List String}

theorem sendMail_refused (heard : (sendMail mail channel).2.endpoint.heard =
      channel.endpoint.heard ++ replies) :
    (sendMail mail channel).1.refused = replies.head?.bind fun reply =>
      (readRefusal mail.recipients.length reply).toOption.join := by
  have asked : ((request (.recipients mail.recipients)).run channel).2.endpoint.heard =
      channel.endpoint.heard ++
        ((request (.recipients mail.recipients)).run channel).1.toOption.toList :=
    Talk.request_heard _ channel
  rcases replied : (request (.recipients mail.recipients)).run channel with ⟨result, middle⟩
  rw [replied] at asked
  cases result with
  | error error =>
      have listed : (sendRecipients mail).run channel = (.error error, middle) :=
        Talk.run_error replied
      simp only [sendMail, listed] at heard ⊢
      have none_heard : replies = [] := List.append_cancel_left (heard.symm.trans asked)
      rw [none_heard]
      rfl
  | ok reply =>
      have listed : (sendRecipients mail).run channel =
          (readRefusal mail.recipients.length reply, middle) := Talk.run_ok replied
      cases read : readRefusal mail.recipients.length reply with
      | error error =>
          rw [read] at listed
          simp only [sendMail, listed] at heard ⊢
          have one_heard : replies = [reply] := List.append_cancel_left (heard.symm.trans asked)
          rw [one_heard, List.head?_cons, Option.bind_some, read]
          rfl
      | ok refused =>
          rw [read] at listed
          obtain ⟨more, after, _⟩ := sendContent_hears mail middle
          rcases ran : (sendContent mail).run middle with ⟨result, last⟩
          rw [ran] at after
          simp only [sendMail, listed, ran] at heard ⊢
          rw [after, asked, List.append_assoc] at heard
          rw [← List.append_cancel_left heard]
          change refused = (readRefusal mail.recipients.length reply).toOption.join
          rw [read]
          rfl

end Refusing

/-- Whatever the peer is and answers, a mail is transferred with all due care. -/
theorem sent_when_acknowledged {π : Type} [Peer π] (mail : Mail) (channel : Channel π) :
    ∃ written replies,
      Wrote channel.endpoint (written.map Command.line) (sendMail mail channel).2.endpoint ∧
      (channel.endpoint.cipher = none → (sendMail mail channel).2.endpoint.sent =
        channel.endpoint.sent ++ written.map Command.line) ∧
      (sendMail mail channel).2.endpoint.heard = channel.endpoint.heard ++ replies ∧
      Conduct mail written replies (sendMail mail channel).1 := by
  obtain ⟨written, replies, course, wrote, heard⟩ := follows_mail mail channel
  rw [sendMail_run] at course wrote heard
  refine ⟨written, replies, wrote, ?_, heard, ?_⟩
  · intro clear
    have outbound : channel.endpoint.outbound = none := by
      rw [Wire.Endpoint.outbound, clear, Option.map_none]
    rw [wrote.sent, outbound, Wire.Lane.wires_clear]
  · have same : (sendMail mail channel).1.result.map (fun _ => ()) =
        (sendMail mail channel).1.result := by
      cases (sendMail mail channel).1.result <;> rfl
    rw [same] at course
    refine ⟨course.in_order, course.one_reply_each, fun _ _ _ => course.earlier, course.sends,
      fun _ _ _ => course.rejection, course.success, fun users => ?_⟩
    rw [sendMail_refused heard]
    exact readRefusal_told

/-- A mail to a server whose second reply has a space behind its `ok`. -/
theorem spaced_reply_stops :
    let mail : Mail := ⟨"zim@irk.planet", ["gaz@earth.planet"], "doom", "soon", none⟩
    let channel := Channel.ofBytes (.ofProtocol "DMTP") (["ok 1", "ok "].flatMap Wire.lineBytes)
    (sendMail mail channel).2.endpoint.sent = ["to gaz@earth.planet", "from zim@irk.planet"] ∧
      ∃ error, (sendMail mail channel).1.result = .error error := by
  intro mail channel
  obtain ⟨written, replies, _, sent, heard, conduct⟩ := sent_when_acknowledged mail channel
  have replied : (sendMail mail channel).2.endpoint.heard = ["ok 1", "ok "] := by decide +kernel
  rw [replied] at heard
  obtain rfl : ["ok 1", "ok "] = replies := heard
  obtain ⟨later, whole⟩ := conduct.in_order
  rcases written with _ | ⟨first, _ | ⟨second, more⟩⟩
  · exact absurd conduct.one_reply_each.1 (by decide)
  · exact absurd conduct.one_reply_each.1 (by simp)
  · obtain ⟨rfl, rest⟩ := List.cons.inj whole
    obtain ⟨rfl, _⟩ := List.cons.inj rest
    have unacknowledged : ¬Acknowledges (.sender mail.sender) "ok " := by
      change "ok " ≠ "ok"
      decide
    obtain ⟨two, _, error, failed, _⟩ := conduct.rejection 1 _ _ rfl rfl unacknowledged
    have none_more : more = [] := List.eq_nil_of_length_eq_zero (by simpa using two)
    rw [sent rfl, none_more]
    exact ⟨by decide +kernel, error, failed⟩

end MailExchange.Transfer.Client
