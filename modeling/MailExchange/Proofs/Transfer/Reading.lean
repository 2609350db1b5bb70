import MailExchange.Proofs.Transfer.Confirmed
import MailExchange.Proofs.Wire.Framing

/-!
What a server reads in the lines of a client, whatever stands in the fields. Every line is read as
the command that it was written for, or as none; then the session is over, and nothing behind it is
read.
-/

namespace MailExchange.Transfer

open Text (Bytes)
open Wire (Channel Fits Peer Talk Wrote chomp lineBytes oneLine)

/-- A command as a server reads its line, if it reads it at all. -/
def Command.reading : Command → Command
  | recipients addresses => recipients (Text.splitAtEach ',' (chomp (Text.join "," addresses)))
  | sender address => sender (chomp address)
  | subject text => subject (chomp text)
  | body text => body (chomp text)
  | tag text => tag (chomp text)
  | command => command

/-- No text makes a line another command. -/
theorem Command.parse_reading {command found : Command}
    (parsed : parse? (chomp command.line) = some found) : found = command.reading := by
  cases command with
  | begin =>
      have same : parse? (chomp "begin") = some begin := by decide
      exact Option.some.inj (parsed.symm.trans same)
  | send =>
      have same : parse? (chomp "send") = some send := by decide
      exact Option.some.inj (parsed.symm.trans same)
  | quit =>
      have same : parse? (chomp "quit") = some quit := by decide
      exact Option.some.inj (parsed.symm.trans same)
  | recipients addresses =>
      rw [line, Wire.chomp_append (by decide), parse_recipients] at parsed
      obtain ⟨read, listed, rfl⟩ := Option.map_eq_some_iff.mp parsed
      obtain ⟨word, one_word, split⟩ := Option.bind_eq_some_iff.mp listed
      rw [(recipients_some.mp split).1, (word_some.mp one_word).1, reading]
  | sender address =>
      rw [line, Wire.chomp_append (by decide), parse_sender] at parsed
      obtain ⟨read, one_word, rfl⟩ := Option.map_eq_some_iff.mp parsed
      rw [(word_some.mp one_word).1, reading]
  | subject text =>
      rw [line, Wire.chomp_append (by decide), parse_subject] at parsed
      obtain ⟨read, one_line, rfl⟩ := Option.map_eq_some_iff.mp parsed
      rw [(text_some.mp one_line).1, reading]
  | body text =>
      rw [line, Wire.chomp_append (by decide), parse_body] at parsed
      obtain ⟨read, one_line, rfl⟩ := Option.map_eq_some_iff.mp parsed
      rw [(text_some.mp one_line).1, reading]
  | tag text =>
      rw [line, Wire.chomp_append (by decide), parse_tag] at parsed
      obtain ⟨read, coded, rfl⟩ := Option.map_eq_some_iff.mp parsed
      rw [(tag_some.mp coded).1, reading]

theorem Command.reading_send {command : Command} (same : command.reading = .send) :
    command = .send := by
  cases command <;> first | rfl | cases same

namespace Session

variable {κ : Type} [Consumer κ] {session next : Session κ}

omit [Consumer κ] in
theorem say_heard (session : Session κ) (line : String) :
    (session.say line).endpoint.heard = session.endpoint.heard := by
  by_cases broken : '\n' ∈ line.toList
  · rw [say, Wire.Endpoint.write, session.endpoint.encode_broken broken]
  · rw [say, session.endpoint.write_wrote broken]
    rfl

theorem execute_heard (session : Session κ) (command : Command) :
    (session.execute command).endpoint.heard = session.endpoint.heard := by
  cases command with
  | begin => exact say_heard session refusal
  | quit => exact say_heard { session with desk.draft := {} } "ok bye"
  | recipients addresses => exact say_heard { session with desk := _ } _
  | sender address => exact say_heard { session with desk := _ } _
  | subject text => exact say_heard { session with desk := _ } _
  | body text => exact say_heard { session with desk := _ } _
  | tag text => exact say_heard { session with desk := _ } _
  | send => exact say_heard { session with desk := _ } _

omit [Consumer κ] in
theorem start_heard (session : Session κ) (command : Command) :
    (session.start command).endpoint.heard = session.endpoint.heard := by
  cases command with
  | begin => exact say_heard { session with begun := true } "ok"
  | quit => exact say_heard { session with desk.draft := {} } "ok bye"
  | _ => exact say_heard session refusal

theorem interpret_heard (session : Session κ) (line : String) :
    (session.interpret line).endpoint.heard = session.endpoint.heard := by
  rw [interpret]
  split
  · exact say_heard session refusal
  · split
    · exact session.execute_heard _
    · exact session.start_heard _

structure Taken (session : Session κ) (line : String) (next : Session κ) : Prop where
  heard : next.endpoint.heard = session.endpoint.heard ++ [chomp line]
  clear : next.endpoint.cipher = none
  answered : ∃ reply, '\n' ∉ reply.toList ∧ next.endpoint.sent = session.endpoint.sent ++ [reply]
  unread : Command.parse? (chomp line) = none → next.result?.isSome = true
  consumer : Command.parse? (chomp line) ≠ some .send →
    next.desk.consumer = session.desk.consumer

theorem take_heard (clear : session.endpoint.cipher = none) (line : String) :
    (session.take (some (.line (Text.utf8 line)))).endpoint.heard =
      session.endpoint.heard ++ [chomp line] := by
  have text : Text.ofUtf8? (Wire.withoutCr (Text.utf8 line)) = some (chomp line) := by
    rw [Wire.withoutCr_utf8, Text.ofUtf8_utf8]
  rw [take_text clear text, interpret_heard]
  rfl

theorem take_line (clear : session.endpoint.cipher = none) (running : session.result? = none)
    {line : String} (fits : Fits line) :
    Taken session line (session.take (some (.line (Text.utf8 line)))) := by
  have short : (Text.utf8 line).length < Wire.maxLine := by
    have whole := fits.short
    rwa [Wire.lineBytes_length] at whole
  have heard := take_heard clear line
  have step := take_step clear running
    (show (Wire.Frame.line (Text.utf8 line)).Cut from ⟨Wire.lineFeed_free fits.one_line, short⟩)
  generalize session.take (some (.line (Text.utf8 line))) = next at heard step
  -- what was heard tells which line the step is about
  have this_line {other : String}
      (exchanged : session.endpoint.heard ++ [other] = session.endpoint.heard ++ [chomp line]) :
      other = chomp line := List.singleton_inj.mp (List.append_cancel_left exchanged)
  cases step with
  | unread error =>
      have longer := congrArg List.length heard
      rw [List.length_append, List.length_singleton] at longer
      exact absurd longer (Nat.ne_of_lt (Nat.lt_succ_self _))
  | unknown other detail found =>
      exact ⟨heard, clear, ⟨refusal, by decide, rfl⟩, fun _ => rfl, fun _ => rfl⟩
  | misplaced other detail command found place =>
      exact ⟨heard, clear, ⟨refusal, by decide, rfl⟩, fun _ => rfl, fun _ => rfl⟩
  | begun other found first =>
      rw [this_line heard] at found
      refine ⟨heard, clear, ⟨"ok", by decide, rfl⟩, fun unknown => ?_, fun _ => rfl⟩
      rw [found] at unknown
      cases unknown
  | ended other found =>
      exact ⟨heard, clear, ⟨"ok bye", by decide, rfl⟩, fun _ => rfl, fun _ => rfl⟩
  | answered other reply command desk found carried begun response =>
      rw [this_line heard] at found
      have answer := Desk.respond_response response
      refine ⟨heard, clear, ⟨reply, answer.one_line carried.fits.one_line, rfl⟩, fun unknown => ?_,
        fun no_send => ?_⟩
      · rw [found] at unknown
        cases unknown
      · have other_command : command ≠ .send := by
          rintro rfl
          exact no_send found
        change desk.consumer = session.desk.consumer
        rw [answer.amends other_command]

theorem take_overlong (running : session.result? = none) :
    session.take (some .overlong) = { session with result? := some (.error .lineTooLong) } := by
  rw [take]
  exact finish_running session running _

theorem feed_grows (clear : session.endpoint.cipher = none) (input : Bytes) :
    (Wire.Session.feed session input).1.endpoint.cipher = none ∧
      session.endpoint.heard <+: (Wire.Session.feed session input).1.endpoint.heard :=
  Wire.Session.feed_induction
    (P := fun next : Session κ => next.endpoint.cipher = none ∧
      session.endpoint.heard <+: next.endpoint.heard)
    (fun middle frame running cut kept => by
      obtain ⟨middle_clear, grown⟩ := kept
      have step := take_step middle_clear (Wire.Session.isOver_iff.mp running) cut
      change (middle.take (some frame)).endpoint.cipher = none ∧
        _ <+: (middle.take (some frame)).endpoint.heard
      generalize middle.take (some frame) = next at step
      have longer (line : String) : session.endpoint.heard <+: middle.endpoint.heard ++ [line] :=
        grown.trans (List.prefix_append _ _)
      cases step with
      | unread error => exact ⟨middle_clear, grown⟩
      | unknown line detail found => exact ⟨middle_clear, longer line⟩
      | misplaced line detail command found place => exact ⟨middle_clear, longer line⟩
      | begun line found first => exact ⟨middle_clear, longer line⟩
      | ended line found => exact ⟨middle_clear, longer line⟩
      | answered line reply command desk found carried begun response =>
          exact ⟨middle_clear, longer line⟩)
    session input ⟨clear, List.prefix_rfl⟩

theorem feed_silent {input : Bytes} (finished : session.result?.isSome = true) :
    (Wire.Session.feed session input).1.endpoint.heard = session.endpoint.heard := by
  have is_over : Wire.Session.isOver session = true := finished
  rw [Wire.Session.feed_over is_over]

/-- A session that is fed lines reads some of them, one after the other from the first, each as the
command that it was written for. -/
theorem feed_commands {commands : List Command}
    (one_line : ∀ command ∈ commands, '\n' ∉ command.line.toList)
    (clear : session.endpoint.cipher = none) : ∃ more,
      (Wire.Session.feed session ((commands.map Command.line).flatMap lineBytes)).1.endpoint.heard =
        session.endpoint.heard ++ more ∧
      more.filterMap Command.parse? <+: commands.map Command.reading := by
  induction commands generalizing session with
  | nil =>
      refine ⟨[], ?_, List.nil_prefix⟩
      rw [List.append_nil, List.map_nil, List.flatMap_nil,
        Wire.Session.feed_pending session Wire.takeFrame_nil]
  | cons command commands ih =>
      by_cases finished : session.result?.isSome = true
      · exact ⟨[], by rw [feed_silent finished, List.append_nil], List.nil_prefix⟩
      have running : Wire.Session.isOver session = false := eq_false_of_ne_true finished
      have this_line := one_line command List.mem_cons_self
      rw [List.map_cons, List.flatMap_cons]
      by_cases short : (lineBytes command.line).length ≤ Wire.maxLine
      · have fits : Fits command.line := ⟨this_line, short⟩
        have taken := take_line clear (Wire.Session.isOver_iff.mp running) fits
        rw [Wire.Session.feed_frame running (Wire.takeFrame_fits fits _)]
        change ∃ more, (Wire.Session.feed (session.take _) _).1.endpoint.heard = _ ∧ _
        generalize session.take (some (.line (Text.utf8 command.line))) = next at taken
        cases parsed : Command.parse? (chomp command.line) with
        | none =>
            refine ⟨[chomp command.line], ?_, ?_⟩
            · rw [feed_silent (taken.unread parsed), taken.heard]
            · rw [List.filterMap_cons_none parsed]
              exact List.nil_prefix
        | some found =>
            obtain ⟨more, heard, in_order⟩ := ih
              (fun other member => one_line other (List.mem_cons_of_mem command member)) taken.clear
            refine ⟨chomp command.line :: more, ?_, ?_⟩
            · rw [heard, taken.heard, List.append_assoc, List.singleton_append]
            · rw [List.filterMap_cons_some parsed, Command.parse_reading parsed, List.map_cons]
              exact (List.prefix_cons_inj _).mpr in_order
      · have cut := Wire.takeFrame_long this_line (Nat.lt_of_not_le short)
        rw [Wire.Session.feed_frame running (cut _)]
        change ∃ more, (Wire.Session.feed (session.take _) _).1.endpoint.heard = _ ∧ _
        rw [take_overlong (Wire.Session.isOver_iff.mp running)]
        exact ⟨[], by rw [feed_silent rfl, List.append_nil], List.nil_prefix⟩

theorem feed_commands_prefix {commands : List Command}
    (one_line : ∀ command ∈ commands, '\n' ∉ command.line.toList)
    (clear : session.endpoint.cipher = none) {input : Bytes}
    (cut : input <+: (commands.map Command.line).flatMap lineBytes) :
    ∃ more, (Wire.Session.feed session input).1.endpoint.heard = session.endpoint.heard ++ more ∧
      more.filterMap Command.parse? <+: commands.map Command.reading := by
  obtain ⟨rest, whole⟩ := cut
  obtain ⟨all, heard_all, in_order⟩ := feed_commands one_line clear
  obtain ⟨middle_clear, more, heard⟩ := feed_grows clear input
  rw [← whole, Wire.Session.feed_append] at heard_all
  have later := (feed_grows middle_clear ((Wire.Session.feed session input).2 ++ rest)).2
  rw [heard_all, ← heard] at later
  have first := (List.prefix_append_right_inj _).mp later
  exact ⟨more, heard.symm, (first.filterMap _).trans in_order⟩

end Session

namespace Client

variable {π : Type} [Peer π] {α β : Type}

/-- A computation in clear that speaks these commands in order, all of them if it succeeds. A
command with a line break in it is not said. -/
def Speaks (talk : Talk π α) (commands : List Command) : Prop :=
  ∀ channel, channel.endpoint.cipher = none → ∃ said, said <+: commands ∧
    (∀ command ∈ said, '\n' ∉ command.line.toList) ∧
    (talk.run channel).2.endpoint.cipher = none ∧
    (talk.run channel).2.endpoint.sent = channel.endpoint.sent ++ said.map Command.line ∧
    ∀ value, (talk.run channel).1 = .ok value → said = commands

omit [Peer π] in
theorem speaks_nothing {talk : Talk π α} (silent : ∀ channel, (talk.run channel).2 = channel) :
    Speaks talk [] := by
  intro channel clear
  refine ⟨[], List.prefix_rfl, fun _ member => absurd member List.not_mem_nil, ?_, ?_,
    fun _ _ => rfl⟩
  · rw [silent, clear]
  · rw [silent, List.map_nil, List.append_nil]

omit [Peer π] in
theorem Speaks.bind {talk : Talk π α} {next : α → Talk π β} {first second : List Command}
    (speaks : Speaks talk first) (more : ∀ value, Speaks (next value) second) :
    Speaks (talk >>= next) (first ++ second) := by
  intro channel clear
  obtain ⟨said, in_order, one_line, middle_clear, sent, whole⟩ := speaks channel clear
  rcases ran : talk.run channel with ⟨result, middle⟩
  rw [ran] at middle_clear sent whole
  cases result with
  | error error =>
      rw [Talk.run_error ran]
      exact ⟨said, in_order.trans (List.prefix_append _ _), one_line, middle_clear, sent, nofun⟩
  | ok value =>
      rw [Talk.run_ok ran]
      obtain rfl := whole value rfl
      obtain ⟨others, others_in_order, others_one_line, after_clear, others_sent, all⟩ :=
        more value middle middle_clear
      refine ⟨said ++ others, (List.prefix_append_right_inj said).mpr others_in_order, ?_,
        after_clear, ?_, fun result done => by rw [all result done]⟩
      · intro command member
        exact (List.mem_append.mp member).elim (one_line command) (others_one_line command)
      · rw [others_sent, sent, List.map_append, List.append_assoc]

omit [Peer π] in
theorem Speaks.alone {talk : Talk π α} {next : α → Talk π β} {commands : List Command}
    (speaks : Speaks talk commands) (silent : ∀ value, Speaks (next value) []) :
    Speaks (talk >>= next) commands := by
  have whole := speaks.bind silent
  rwa [List.append_nil] at whole

theorem speaks_request (command : Command) :
    Speaks (request command : Talk π String) [command] := by
  intro channel clear
  have wrote : Wrote channel.endpoint (oneLine command.line) _ :=
    Talk.writes_request command.line channel
  have outbound : channel.endpoint.outbound = none := by
    rw [Wire.Endpoint.outbound, clear, Option.map_none]
  have sent := wrote.sent
  rw [outbound, Wire.Lane.wires_clear] at sent
  by_cases broken : '\n' ∈ command.line.toList
  · have refused : (request command).run channel = (.error .lineBreakInLine, channel) := by
      have written : (Talk.writeLine command.line).run channel = _ := channel.send_broken broken
      exact Talk.run_error written
    refine ⟨[], List.nil_prefix, fun _ member => absurd member List.not_mem_nil, ?_, ?_, ?_⟩
    · rw [refused, clear]
    · rw [refused, List.map_nil, List.append_nil]
    · intro value done
      rw [refused] at done
      cases done
  · rw [oneLine, if_neg broken] at sent
    exact ⟨[command], List.prefix_rfl, List.forall_mem_singleton.mpr broken, wrote.clear clear,
      sent, fun _ _ => rfl⟩

theorem speaks_command (spoken : Command) : Speaks (command spoken : Talk π Unit) [spoken] := by
  apply (speaks_request spoken).alone
  intro reply
  apply (speaks_nothing fun _ => rfl).alone
  intro text
  cases text with
  | none => exact speaks_nothing fun _ => rfl
  | some text => exact speaks_nothing fun _ => rfl

theorem speaks_commands (commands : List Command) :
    Speaks (forM commands command : Talk π Unit) commands := by
  induction commands with
  | nil => exact speaks_nothing fun _ => rfl
  | cons spoken commands ih => exact (speaks_command spoken).bind fun _ => ih

theorem speaks_recipients (mail : Mail) :
    Speaks (sendRecipients mail : Talk π (Option (List String))) [.recipients mail.recipients] :=
  (speaks_request _).alone fun _ => speaks_nothing fun _ => rfl

theorem sendMail_run (mail : Mail) (channel : Channel π) :
    (sendRecipients mail >>= fun _ => sendContent mail).run channel =
      ((sendMail mail channel).1.result, (sendMail mail channel).2) := by
  rcases listed : (sendRecipients mail).run channel with ⟨result, middle⟩
  cases result with
  | error error =>
      rw [Talk.run_error listed]
      simp only [sendMail, listed]
  | ok refused =>
      rw [Talk.run_ok listed]
      simp only [sendMail, listed]
      rfl

theorem sendMail_speaks (mail : Mail) (channel : Channel π)
    (clear : channel.endpoint.cipher = none) :
    ∃ said, said <+: commands mail ∧ (∀ command ∈ said, '\n' ∉ command.line.toList) ∧
      (sendMail mail channel).2.endpoint.sent =
        channel.endpoint.sent ++ said.map Command.line ∧
      ((sendMail mail channel).1.result = .ok () → said = commands mail) := by
  have speaks : Speaks (sendRecipients mail >>= fun _ => (sendContent mail : Talk π Unit))
      (commands mail) := by
    rw [sendContent_forM]
    exact (speaks_recipients mail).bind fun _ => speaks_commands (content mail)
  obtain ⟨said, in_order, one_line, _, sent, whole⟩ := speaks channel clear
  rw [sendMail_run] at sent whole
  exact ⟨said, in_order, one_line, sent, whole ()⟩

end Client

end MailExchange.Transfer
