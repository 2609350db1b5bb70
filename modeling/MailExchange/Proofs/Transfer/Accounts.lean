import MailExchange.Proofs.Transfer.Observed
import MailExchange.Proofs.Transfer.Window

/-!
A session on any stream of bytes can be accounted for by its turns: each frame adds at most one, and
the draft on the desk is always what the window has said.
-/

namespace MailExchange.Transfer

open Text (Bytes)
open Wire (Endpoint Frame)

def Failure (reply : String) : Prop :=
  (∃ address, reply = "error invalid address " ++ address) ∨
    (∃ address, reply = "error invalid recipient " ++ address) ∨
    (∃ field, reply = "error no " ++ Field.name field) ∨ reply = "error consuming email"

variable {κ : Type} [Consumer κ]

structure Accounts (session : Session (Journal κ)) (turns : List Turn) : Prop where
  commands : session.endpoint.heard.filterMap Command.parse? = turns.map (·.command)
  replies : greeting :: turns.map (·.reply) <+: session.endpoint.sent
  dealt : Dealt turns session.desk.consumer.calls
  kept : session.result? = none → session.desk.draft = said (window turns)
  judged : ∀ turn ∈ turns, turn.reply ≠ Session.refusal → turn.command ≠ .send →
    (Failure turn.reply ↔ turn.command.acceptable = false)
  unchanged : ∀ before turn, before ++ [turn] <+: turns → Failure turn.reply →
    said (window (before ++ [turn])) = said (window before)

structure Ongoing (session : Session (Journal κ)) (turns : List Turn) : Prop where
  clear : session.endpoint.cipher = none
  replied : session.endpoint.sent = greeting :: turns.map (·.reply)
  idle : session.begun = false → turns = []
  begun : session.begun = true → ∃ turn ∈ turns, turn.command = .begin
  formed : ∀ turn ∈ turns, turn.command.WellFormed
  sound : session.desk.draft.Sound

/-- A session that turns account for, and whose mails have come over the wire. -/
structure Told (session : Session (Journal κ)) (turns : List Turn) : Prop where
  accounts : Accounts session turns
  ongoing : session.result? = none → Ongoing session turns
  sound : ∀ call ∈ session.desk.consumer.calls, call.1.Sound

theorem Failure.start {reply : String} (failure : Failure reply) :
    reply.toList.take 7 ∈ ["error i".toList, "error n".toList, "error c".toList] := by
  rcases failure with ⟨address, rfl⟩ | ⟨address, rfl⟩ | ⟨field, rfl⟩ | rfl
  · rw [String.toList_append]
    exact List.mem_cons_self
  · rw [String.toList_append]
    exact List.mem_cons_self
  · rw [String.toList_append]
    exact List.mem_cons_of_mem _ List.mem_cons_self
  · decide

theorem not_failure {reply : String}
    (other : reply.toList.take 7 ∉ ["error i".toList, "error n".toList, "error c".toList]) :
    ¬ Failure reply := fun failure => other failure.start

theorem refusal_succeeds : ¬ Failure Session.refusal := not_failure (by decide)

theorem admission_succeeds (consumer : κ) (addresses : List String) :
    ¬ Failure (Desk.admission consumer addresses) := by
  intro failure
  have start := failure.start
  unfold Desk.admission at start
  split at start <;> simp [String.toList_append] at start

theorem Desk.Response.judged {desk after : Desk κ} {command : Command} {reply : String}
    (response : Desk.Response desk command reply after) (no_send : command ≠ .send) :
    Failure reply ↔ command.acceptable = false := by
  have accepted {text : String} (succeeds : ¬ Failure text) (valid : command.acceptable = true) :
      Failure text ↔ command.acceptable = false := by
    rw [valid]
    exact ⟨fun failure => absurd failure succeeds, nofun⟩
  have rejected {text : String} (fails : Failure text) (invalid : ¬ command.acceptable = true) :
      Failure text ↔ command.acceptable = false :=
    ⟨fun _ => eq_false_of_ne_true invalid, fun _ => fails⟩
  cases response with
  | admitted addresses valid =>
      exact accepted (admission_succeeds desk.consumer addresses) (List.all_eq_true.mpr valid)
  | invalid_recipient addresses address present invalid =>
      exact rejected (Or.inr (Or.inl ⟨address, rfl⟩)) fun all =>
        invalid (List.all_eq_true.mp all address present)
  | sender address valid => exact accepted (not_failure (by decide)) valid
  | invalid_sender address invalid => exact rejected (Or.inl ⟨address, rfl⟩) invalid
  | subject text => exact accepted (not_failure (by decide)) rfl
  | body text => exact accepted (not_failure (by decide)) rfl
  | tag text => exact accepted (not_failure (by decide)) rfl
  | incomplete => exact absurd rfl no_send
  | handed => exact absurd rfl no_send

theorem Desk.Response.failed {desk after : Desk κ} {command : Command} {reply : String}
    (response : Desk.Response desk command reply after) (failure : Failure reply) :
    after.draft = desk.draft := by
  cases response with
  | admitted addresses valid =>
      exact absurd failure (admission_succeeds desk.consumer addresses)
  | sender => exact absurd failure (not_failure (by decide))
  | subject => exact absurd failure (not_failure (by decide))
  | body => exact absurd failure (not_failure (by decide))
  | tag => exact absurd failure (not_failure (by decide))
  | invalid_recipient => rfl
  | invalid_sender => rfl
  | incomplete => rfl
  | handed mail complete =>
      cases result : (Consumer.consume desk.consumer mail).1 with
      | ok _ =>
          rw [result] at failure
          have succeeds : ¬ Failure "ok" := not_failure (by decide)
          exact absurd failure succeeds
      | error _ => rfl

theorem Desk.Response.calls_sound {desk after : Desk (Journal κ)} {command : Command}
    {reply : String} (response : Desk.Response desk command reply after) (sound : desk.draft.Sound)
    (calls : ∀ call ∈ desk.consumer.calls, call.1.Sound) :
    ∀ call ∈ after.consumer.calls, call.1.Sound := by
  cases response with
  | handed mail complete =>
      intro call member
      rw [Journal.consume_calls, List.mem_append, List.mem_singleton] at member
      rcases member with earlier | rfl
      · exact calls call earlier
      · rw [Draft.complete_ok complete] at sound
        exact sound
  | _ => exact calls

variable {session next : Session (Journal κ)} {turns : List Turn}

omit [Consumer κ] in
theorem replied_snoc (replied : session.endpoint.sent = greeting :: turns.map (·.reply))
    {turn : Turn} {line : String}
    (exchanged : next.endpoint = (session.endpoint.hear line).say turn.reply) :
    next.endpoint.sent = greeting :: (turns ++ [turn]).map (·.reply) := by
  rw [exchanged, Endpoint.say_sent, Endpoint.hear_sent, replied, List.map_append,
    List.map_singleton, List.cons_append]

omit [Consumer κ] in
theorem Accounts.snoc (accounts : Accounts session turns)
    (replied : session.endpoint.sent = greeting :: turns.map (·.reply))
    {turn : Turn} {line : String}
    (found : Command.parse? line = some turn.command)
    (exchanged : next.endpoint = (session.endpoint.hear line).say turn.reply)
    (dealt : Dealt (turns ++ [turn]) next.desk.consumer.calls)
    (kept : next.result? = none → next.desk.draft = said (window (turns ++ [turn])))
    (judged : turn.reply ≠ Session.refusal → turn.command ≠ .send →
      (Failure turn.reply ↔ turn.command.acceptable = false))
    (unchanged : Failure turn.reply → said (window (turns ++ [turn])) = said (window turns)) :
    Accounts next (turns ++ [turn]) := by
  refine ⟨?_, ?_, dealt, kept, ?_, ?_⟩
  · rw [exchanged, Endpoint.say_heard, Endpoint.hear_heard, List.filterMap_append,
      accounts.commands, List.map_append, List.filterMap_cons_some found, List.filterMap_nil,
      List.map_singleton]
  · exact ⟨[], by rw [List.append_nil, replied_snoc replied exchanged]⟩
  · intro other member
    rcases List.mem_append.mp member with earlier | last
    · exact accounts.judged other earlier
    · rw [List.mem_singleton.mp last]
      exact judged
  · intro before last present failure
    rcases List.prefix_concat_iff.mp present with whole | earlier
    · obtain ⟨rfl, same⟩ := List.append_inj' whole rfl
      rw [List.singleton_inj.mp same] at failure ⊢
      exact unchanged failure
    · exact accounts.unchanged before last earlier failure

omit [Consumer κ] in
theorem Accounts.close (accounts : Accounts session turns)
    (replied : session.endpoint.sent = greeting :: turns.map (·.reply))
    {turn : Turn} {line : String}
    (found : Command.parse? line = some turn.command)
    (exchanged : next.endpoint = (session.endpoint.hear line).say turn.reply)
    (same_calls : next.desk.consumer.calls = session.desk.consumer.calls)
    (finished : next.result? ≠ none) (succeeds : ¬ Failure turn.reply)
    (unjudged : turn.reply = Session.refusal ∨ turn.command.acceptable = true)
    (dealt : Dealt (turns ++ [turn]) session.desk.consumer.calls) :
    Accounts next (turns ++ [turn]) := by
  refine accounts.snoc replied found exchanged ?_ ?_ ?_ ?_
  · rw [same_calls]
    exact dealt
  · exact fun running => absurd running finished
  · intro plain _
    rw [unjudged.resolve_left plain]
    exact ⟨fun failure => absurd failure succeeds, nofun⟩
  · exact fun failure => absurd failure succeeds

omit [Consumer κ] in
theorem Ongoing.snoc (ongoing : Ongoing session turns) {turn : Turn} {line : String}
    (exchanged : next.endpoint = (session.endpoint.hear line).say turn.reply)
    (asked : next.begun = true)
    (begun : turn.command = .begin ∨ ∃ earlier ∈ turns, earlier.command = .begin)
    (formed : turn.command.WellFormed) (sound : next.desk.draft.Sound) :
    Ongoing next (turns ++ [turn]) := by
  refine ⟨?_, replied_snoc ongoing.replied exchanged, ?_, ?_, ?_, sound⟩
  · rw [exchanged]
    exact ongoing.clear
  · intro waiting
    rw [asked] at waiting
    cases waiting
  · intro _
    rcases begun with here | ⟨earlier, present, begin⟩
    · exact ⟨turn, List.mem_append_right _ List.mem_cons_self, here⟩
    · exact ⟨earlier, List.mem_append_left _ present, begin⟩
  · intro other member
    rcases List.mem_append.mp member with earlier | last
    · exact ongoing.formed other earlier
    · rw [List.mem_singleton.mp last]
      exact formed

omit [Consumer κ] in
theorem Told.stop (told : Told session turns) (result : Except Error Unit) :
    Told { session with result? := some result } turns := by
  have accounts := told.accounts
  refine ⟨⟨accounts.commands, accounts.replies, accounts.dealt, ?_, accounts.judged,
    accounts.unchanged⟩, ?_, told.sound⟩
  · intro running
    cases running
  · intro running
    cases running

theorem Told.step (told : Told session turns) (running : session.result? = none)
    (step : session.Step next) : ∃ turns, Told next turns := by
  have ongoing := told.ongoing running
  have accounts := told.accounts
  cases step with
  | unread error => exact ⟨turns, told.stop _⟩
  | unknown line detail found =>
      refine ⟨turns, ⟨?_, accounts.replies.trans (List.prefix_append _ _), accounts.dealt, ?_,
        accounts.judged, accounts.unchanged⟩, ?_, told.sound⟩
      · change (session.endpoint.heard ++ [line]).filterMap Command.parse? = _
        rw [List.filterMap_append, accounts.commands, List.filterMap_cons_none found,
          List.filterMap_nil, List.append_nil]
      · intro finished
        cases finished
      · intro finished
        cases finished
  | misplaced line detail command found place =>
      refine ⟨turns ++ [⟨command, Session.refusal⟩], accounts.close ongoing.replied found rfl rfl
        (Option.some_ne_none _) refusal_succeeds (Or.inl rfl) ?_, ?_, told.sound⟩
      · by_cases send : command = .send
        · subst send
          have waiting : session.begun = false := by
            cases begun : session.begun with
            | false => rfl
            | true => cases place.2.mp begun
          refine .early accounts.dealt ?_
          rw [ongoing.idle waiting]
          exact fun turn member => absurd member List.not_mem_nil
        · exact .other accounts.dealt _ send
      · intro finished
        cases finished
  | begun line found first =>
      have empty := ongoing.idle first
      have fresh : said (window (turns ++ [⟨.begin, "ok"⟩])) = said (window turns) := by
        rw [empty]
        decide
      refine ⟨turns ++ [⟨.begin, "ok"⟩], accounts.snoc ongoing.replied found rfl ?_ ?_ ?_ ?_,
        ?_, told.sound⟩
      · exact .other accounts.dealt _ (by decide)
      · exact fun _ => (accounts.kept running).trans fresh.symm
      · intro _ _
        exact ⟨fun failure => absurd failure (not_failure (by decide)), nofun⟩
      · exact fun _ => fresh
      · exact fun _ => ongoing.snoc rfl rfl (Or.inl rfl) trivial ongoing.sound
  | ended line found =>
      refine ⟨turns ++ [⟨.quit, "ok bye"⟩], accounts.close ongoing.replied found rfl rfl
        (Option.some_ne_none _) (not_failure (by decide)) (Or.inr rfl)
        (.other accounts.dealt _ (by decide)), ?_, told.sound⟩
      intro finished
      cases finished
  | answered line reply command desk found carried begun responded =>
      have response := Desk.respond_response responded
      have asked := ongoing.begun begun
      obtain ⟨dealt, kept⟩ :=
        response.dealt asked ongoing.formed accounts.dealt (accounts.kept running)
      refine ⟨turns ++ [⟨command, reply⟩], accounts.snoc ongoing.replied found rfl dealt
        (fun _ => kept) (fun _ no_send => response.judged no_send) ?_, ?_,
        response.calls_sound ongoing.sound told.sound⟩
      · intro failure
        rw [← kept, ← accounts.kept running]
        exact response.failed failure
      · exact fun _ => ongoing.snoc rfl begun (Or.inr asked) carried.formed
          (response.sound ongoing.sound carried)

omit [Consumer κ] in
theorem Told.greet (label : LogPrefix) (consumer : κ) :
    Told (Session.observed label consumer) [] := by
  rw [Session.observed, Session.greet_clear]
  refine ⟨⟨rfl, List.prefix_rfl, .start, fun _ => rfl, ?_, ?_⟩,
    fun _ => ⟨rfl, rfl, fun _ => rfl, ?_, ?_, Draft.sound_empty⟩, ?_⟩
  · exact fun turn member => absurd member List.not_mem_nil
  · intro before turn present
    have empty := List.prefix_nil.mp present
    exact absurd empty (List.append_ne_nil_of_right_ne_nil _ (List.cons_ne_nil _ _))
  · intro begun
    cases begun
  · exact fun turn member => absurd member List.not_mem_nil
  · exact fun call member => absurd member List.not_mem_nil

theorem Told.take (told : Told session turns) (running : session.result? = none) {frame : Frame}
    (cut : frame.Cut) : ∃ turns, Told (session.take (some frame)) turns :=
  told.step running (Session.take_step (told.ongoing running).clear running cut)

theorem Told.hang_up (told : Told session turns) (running : session.result? = none) :
    Told (session.take none) turns := by
  rw [Session.take_none running]
  exact told.stop _

theorem told_run (label : LogPrefix) (consumer : κ) (input : Bytes) : ∃ turns,
    Told (Wire.Session.run (Session.observed label consumer) input) turns := by
  refine Wire.Session.run_induction (P := fun session => ∃ turns, Told session turns) ?_ ?_ _ input
    ⟨[], Told.greet label consumer⟩
  · rintro session frame running cut ⟨turns, told⟩
    exact told.take (Wire.Session.isOver_iff.mp running) cut
  · rintro session running ⟨turns, told⟩
    exact ⟨turns, told.hang_up (Wire.Session.isOver_iff.mp running)⟩

end MailExchange.Transfer
