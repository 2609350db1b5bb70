import MailExchange.Proofs.Transfer.Reading
import MailExchange.Proofs.Transfer.Sequence

/-!
Mails that no line can hold, because a field has a line break in it or makes its line too long. The
client learns that such a mail has failed, and nothing of it is handed over.
-/

namespace MailExchange.Transfer

open Text (Bytes)
open Wire (Channel Fits Live Peer Talk chomp lineBytes)

variable {κ : Type} [Consumer κ]

/-- A session that has said what it had to say, and waits for a line or is over. -/
structure Waiting (live : Live (Session κ)) : Prop where
  passed : live.passed = live.session.endpoint.sent.length
  waiting : live.session.result?.isSome = true ∨
    live.unread = [] ∧ live.session.endpoint.cipher = none

structure Answered (live : Live (Session κ)) (command : Command) (replies : List String)
    (after : Live (Session κ)) : Prop where
  waiting : Waiting after
  one_line : ∀ reply ∈ replies, '\n' ∉ reply.toList
  single : replies.length ≤ 1
  consumer : command ≠ .send ∨ live.session.result?.isSome = true →
    after.session.desk.consumer = live.session.desk.consumer
  finished : ¬ Fits command.line ∨ live.session.result?.isSome = true →
    replies = [] ∧ after.session.result?.isSome = true

namespace Waiting

variable {live : Live (Session κ)} {command : Command} {next : Session κ} {rest : Bytes}

theorem hear_fed (waiting : Waiting live) {bytes : Bytes}
    (fed : Wire.Session.feed live.session (live.unread ++ bytes) = (next, rest))
    (replies : List String) (said : next.endpoint.sent = live.session.endpoint.sent ++ replies) :
    Peer.hear live bytes =
      (.ok (replies.flatMap lineBytes), ⟨next, rest, next.endpoint.sent.length⟩) := by
  have fresh : (Wire.Session.sent next).drop live.passed = replies := by
    change next.endpoint.sent.drop live.passed = replies
    rw [waiting.passed, said, List.drop_left]
  simp only [Peer.hear, Live.feed, Live.answer, Live.collect, fed, fresh]
  rfl

theorem hear_over (waiting : Waiting live) (finished : live.session.result?.isSome = true) :
    ∃ after, Peer.hear live (lineBytes command.line) = (.ok [], after) ∧
      Answered live command [] after := by
  have is_over : Wire.Session.isOver live.session = true := finished
  have fed := Wire.Session.feed_over is_over (live.unread ++ lineBytes command.line)
  have heard := waiting.hear_fed fed [] (List.append_nil _).symm
  exact ⟨_, heard, ⟨⟨rfl, Or.inl finished⟩, fun _ member => absurd member List.not_mem_nil,
    Nat.zero_le 1, fun _ => rfl, fun _ => ⟨rfl, finished⟩⟩⟩

theorem hear_fits (waiting : Waiting live) (running : ¬ live.session.result?.isSome = true)
    (fits : Fits command.line) :
    ∃ reply after, Peer.hear live (lineBytes command.line) = (.ok (lineBytes reply), after) ∧
      Answered live command [reply] after := by
  obtain ⟨unread, clear⟩ := waiting.waiting.resolve_left running
  have also_running : Wire.Session.isOver live.session = false := eq_false_of_ne_true running
  have taken := Session.take_line clear (Wire.Session.isOver_iff.mp also_running) fits
  obtain ⟨reply, one_line, said⟩ := taken.answered
  have fed := Wire.Session.feed_line also_running fits
  have whole : live.unread ++ lineBytes command.line = lineBytes command.line := by
    rw [unread, List.nil_append]
  rw [← whole] at fed
  have heard := waiting.hear_fed fed [reply] said
  rw [List.flatMap_singleton] at heard
  refine ⟨reply, _, heard, ⟨⟨rfl, Or.inr ⟨rfl, taken.clear⟩⟩,
    List.forall_mem_singleton.mpr one_line, Nat.le_refl 1,
    fun other => taken.consumer fun parsed => ?_, fun other => ?_⟩⟩
  · exact other.resolve_right running
      (Command.reading_send (Command.parse_reading parsed).symm)
  · exact absurd fits (other.resolve_right running)

theorem hear_long (waiting : Waiting live) (running : ¬ live.session.result?.isSome = true)
    (one_line : '\n' ∉ command.line.toList)
    (long : Wire.maxLine < (lineBytes command.line).length) :
    ∃ after, Peer.hear live (lineBytes command.line) = (.ok [], after) ∧
      Answered live command [] after := by
  obtain ⟨unread, _⟩ := waiting.waiting.resolve_left running
  have also_running : Wire.Session.isOver live.session = false := eq_false_of_ne_true running
  let ended : Session κ := { live.session with result? := some (.error .lineTooLong) }
  have taken : Wire.Session.take live.session (some .overlong) = ended :=
    Session.take_overlong (Wire.Session.isOver_iff.mp also_running)
  have is_over : Wire.Session.isOver ended = true := rfl
  have cut := Wire.takeFrame_long one_line long []
  rw [List.append_nil] at cut
  have whole : live.unread ++ lineBytes command.line = lineBytes command.line := by
    rw [unread, List.nil_append]
  have fed := Wire.Session.feed_frame also_running cut
  rw [taken, Wire.Session.feed_over is_over, ← whole] at fed
  have heard := waiting.hear_fed fed [] (List.append_nil _).symm
  exact ⟨_, heard, ⟨⟨rfl, Or.inl rfl⟩, fun _ member => absurd member List.not_mem_nil,
    Nat.zero_le 1, fun _ => rfl, fun _ => ⟨rfl, rfl⟩⟩⟩

theorem hear (waiting : Waiting live) (one_line : '\n' ∉ command.line.toList) :
    ∃ replies after,
      Peer.hear live (lineBytes command.line) = (.ok (replies.flatMap lineBytes), after) ∧
      Answered live command replies after := by
  by_cases finished : live.session.result?.isSome = true
  · exact ⟨[], waiting.hear_over finished⟩
  by_cases short : (lineBytes command.line).length ≤ Wire.maxLine
  · obtain ⟨reply, answered⟩ := waiting.hear_fits finished ⟨one_line, short⟩
    refine ⟨[reply], ?_⟩
    rw [List.flatMap_singleton]
    exact answered
  · exact ⟨[], waiting.hear_long finished one_line (Nat.lt_of_not_le short)⟩

end Waiting

/-- A client in clear at a session that waits, whatever the client has left unread. -/
structure Attending (channel : Channel (Live (Session κ))) : Prop where
  clear : channel.endpoint.cipher = none
  waiting : Waiting channel.peer

/-- What comes of commands that a client asks. -/
structure Outcome {α : Type} (channel : Channel (Live (Session κ))) (commands : List Command)
    (result : Except Error α) (after : Channel (Live (Session κ))) : Prop where
  attending : Attending after
  consumer : .send ∉ commands ∨ channel.peer.session.result?.isSome = true →
    after.peer.session.desk.consumer = channel.peer.session.desk.consumer
  finished : channel.peer.session.result?.isSome = true → after.peer.session.result?.isSome = true
  /-- A command that does not fit ends the session. -/
  fits_or_over : ∀ value, result = .ok value → ∀ command ∈ commands,
    Fits command.line ∨ after.peer.session.result?.isSome = true
  /-- Only an answer that is too long leaves something unread. -/
  unread : channel.unread = [] → after.unread = [] ∨ result = .error .lineTooLong
  fits : channel.unread = [] → ∀ value, result = .ok value → ∀ command ∈ commands,
    Fits command.line

section Requests

variable {channel : Channel (Live (Session κ))} {command : Command} {replies : List String}

theorem receive_peer (channel : Channel (Live (Session κ))) :
    channel.receive.2.peer = channel.peer := by
  rw [Channel.receive]
  split <;> rfl

theorem receive_replies (unread : channel.unread = replies.flatMap lineBytes)
    (single : replies.length ≤ 1) (one_line : ∀ reply ∈ replies, '\n' ∉ reply.toList) :
    (channel.receive.2.unread = [] ∨ channel.receive.1 = .error .lineTooLong) ∧
      ∀ reply, channel.receive.1 = .ok reply → replies ≠ [] := by
  rcases replies with - | ⟨reply, - | ⟨other, rest⟩⟩
  · have nothing : Wire.takeFrame? channel.unread = none := by
      rw [unread]
      exact Wire.takeFrame_nil
    rw [Channel.receive, nothing]
    refine ⟨Or.inl rfl, fun reply read => ?_⟩
    cases read
  · refine ⟨?_, fun _ _ => List.cons_ne_nil _ _⟩
    rw [List.flatMap_singleton] at unread
    by_cases short : (lineBytes reply).length ≤ Wire.maxLine
    · have cut := Wire.takeFrame_fits ⟨one_line reply List.mem_cons_self, short⟩ []
      rw [List.append_nil, ← unread] at cut
      rw [Channel.receive, cut]
      exact Or.inl rfl
    · have cut := Wire.takeFrame_long (one_line reply List.mem_cons_self)
        (Nat.lt_of_not_le short) []
      rw [List.append_nil, ← unread] at cut
      rw [Channel.receive, cut]
      exact Or.inr rfl
  · exact absurd single (by simp)

theorem Attending.write (attending : Attending channel) (one_line : '\n' ∉ command.line.toList) :
    ∃ replies after, (Talk.writeLine command.line).run channel =
        (.ok (), ⟨channel.endpoint.say command.line, channel.unread ++ replies.flatMap lineBytes,
          after⟩) ∧
      Answered channel.peer command replies after := by
  obtain ⟨replies, after, heard, answered⟩ := attending.waiting.hear one_line
  refine ⟨replies, after, ?_, answered⟩
  rw [Talk.run_writeLine]
  simp only [Channel.send, Wire.Endpoint.encode_clear attending.clear one_line, heard]

theorem Attending.request (attending : Attending channel) (command : Command) :
    Outcome channel [command] ((Client.request command).run channel).1
      ((Client.request command).run channel).2 := by
  have alone {p : Command → Prop} (this_one : p command) : ∀ other ∈ [command], p other :=
    List.forall_mem_singleton.mpr this_one
  by_cases broken : '\n' ∈ command.line.toList
  · have written : (Talk.writeLine command.line).run channel = _ := channel.send_broken broken
    have refused : (Client.request command).run channel = (.error .lineBreakInLine, channel) :=
      Talk.run_error written
    rw [refused]
    exact ⟨attending, fun _ => rfl, id, nofun, Or.inl, fun _ => nofun⟩
  obtain ⟨replies, after, written, answered⟩ := attending.write broken
  let middle : Channel (Live (Session κ)) :=
    ⟨channel.endpoint.say command.line, channel.unread ++ replies.flatMap lineBytes, after⟩
  have asked : (Client.request command).run channel = middle.receive := Talk.run_ok written
  have peer : middle.receive.2.peer = after := receive_peer middle
  have clear : middle.receive.2.endpoint.cipher = none :=
    middle.receive_wrote.clear attending.clear
  have fits_or_over : Fits command.line ∨ after.session.result?.isSome = true :=
    or_iff_not_imp_left.mpr fun unfit => (answered.finished (Or.inl unfit)).2
  have in_step (unread : channel.unread = []) :
      (middle.receive.2.unread = [] ∨ middle.receive.1 = .error .lineTooLong) ∧
        ∀ reply, middle.receive.1 = .ok reply → replies ≠ [] := by
    have arrived : middle.unread = replies.flatMap lineBytes :=
      congrArg (· ++ replies.flatMap lineBytes) unread
    exact receive_replies arrived answered.single answered.one_line
  rw [asked]
  refine ⟨⟨clear, by rw [peer]; exact answered.waiting⟩, fun other => ?_, fun finished => ?_,
    fun _ _ => alone (by rw [peer]; exact fits_or_over), fun unread => (in_step unread).1,
    fun unread reply read => alone ?_⟩
  · rw [peer]
    exact answered.consumer (other.imp_left fun other => fun same =>
      other (List.mem_singleton.mpr same.symm))
  · rw [peer]
    exact (answered.finished (Or.inr finished)).2
  · by_contra unfit
    exact (in_step unread).2 reply read (answered.finished (Or.inl unfit)).1

end Requests

section Asking

variable {α β : Type}

def Asks (talk : Talk (Live (Session κ)) α) (commands : List Command) : Prop :=
  ∀ channel, Attending channel → Outcome channel commands (talk.run channel).1 (talk.run channel).2

omit [Consumer κ] in
theorem asks_nothing {talk : Talk (Live (Session κ)) α}
    (silent : ∀ channel, (talk.run channel).2 = channel) : Asks talk [] := by
  intro channel attending
  rw [silent]
  exact ⟨attending, fun _ => rfl, id, fun _ _ _ member => absurd member List.not_mem_nil, Or.inl,
    fun _ _ _ _ member => absurd member List.not_mem_nil⟩

omit [Consumer κ] in
theorem Asks.bind {talk : Talk (Live (Session κ)) α} {next : α → Talk (Live (Session κ)) β}
    {first second : List Command} (asks : Asks talk first)
    (more : ∀ value, Asks (next value) second) : Asks (talk >>= next) (first ++ second) := by
  intro channel attending
  have begun := asks channel attending
  rcases ran : talk.run channel with ⟨result, middle⟩
  rw [ran] at begun
  have early : .send ∉ first ++ second ∨ channel.peer.session.result?.isSome = true →
      .send ∉ first ∨ channel.peer.session.result?.isSome = true :=
    Or.imp_left fun no_send member => no_send (List.mem_append_left _ member)
  cases result with
  | error error =>
      rw [Talk.run_error ran]
      refine ⟨begun.attending, fun other => begun.consumer (early other), begun.finished, nofun,
        fun unread => (begun.unread unread).imp_right fun same => ?_, fun _ => nofun⟩
      cases same
      rfl
  | ok value =>
      rw [Talk.run_ok ran]
      have ended := more value middle begun.attending
      have middle_unread (unread : channel.unread = []) : middle.unread = [] :=
        (begun.unread unread).resolve_right nofun
      refine ⟨ended.attending, fun other => ?_,
        fun finished => ended.finished (begun.finished finished),
        fun result done command member => ?_,
        fun unread => ended.unread (middle_unread unread),
        fun unread result done command member => ?_⟩
      · rw [ended.consumer (other.imp (fun no_send member => no_send
          (List.mem_append_right _ member)) begun.finished), begun.consumer (early other)]
      · rcases List.mem_append.mp member with member | member
        · exact (begun.fits_or_over value rfl command member).imp_right ended.finished
        · exact ended.fits_or_over result done command member
      · rcases List.mem_append.mp member with member | member
        · exact begun.fits unread value rfl command member
        · exact ended.fits (middle_unread unread) result done command member

omit [Consumer κ] in
theorem Asks.alone {talk : Talk (Live (Session κ)) α} {next : α → Talk (Live (Session κ)) β}
    {commands : List Command} (asks : Asks talk commands)
    (silent : ∀ value, Asks (next value) []) : Asks (talk >>= next) commands := by
  have whole := asks.bind silent
  rwa [List.append_nil] at whole

theorem asks_request (command : Command) :
    Asks (Client.request command : Talk (Live (Session κ)) String) [command] :=
  fun _ attending => attending.request command

theorem asks_command (asked : Command) :
    Asks (Client.command asked : Talk (Live (Session κ)) Unit) [asked] := by
  apply (asks_request asked).alone
  intro reply
  apply (asks_nothing fun _ => rfl).alone
  intro text
  cases text with
  | none => exact asks_nothing fun _ => rfl
  | some text => exact asks_nothing fun _ => rfl

theorem asks_commands (commands : List Command) :
    Asks (forM commands Client.command : Talk (Live (Session κ)) Unit) commands := by
  induction commands with
  | nil => exact asks_nothing fun _ => rfl
  | cons asked commands ih => exact (asks_command asked).bind fun _ => ih

theorem asks_recipients (mail : Mail) :
    Asks (Client.sendRecipients mail : Talk (Live (Session κ)) (Option (List String)))
      [.recipients mail.recipients] :=
  (asks_request _).alone fun _ => asks_nothing fun _ => rfl

end Asking

namespace Client

def filling (mail : Mail) : List Command :=
  [.sender mail.sender, .subject mail.subject, .body mail.body] ++ mail.tag.toList.map .tag

theorem filling_no_send (mail : Mail) :
    .send ∉ [Command.recipients mail.recipients] ++ filling mail := by
  cases mail with
  | mk sender recipients subject body tag =>
      cases tag <;> simp [filling]

theorem asks_filling (mail : Mail) :
    Asks (do
      let _ ← sendRecipients mail
      forM (filling mail) command : Talk (Live (Session κ)) Unit)
      ([.recipients mail.recipients] ++ filling mail) :=
  (asks_recipients mail).bind fun _ => asks_commands (filling mail)

theorem sendMail_filling (mail : Mail) :
    (sendRecipients mail >>= fun _ => (sendContent mail : Talk (Live (Session κ)) Unit)) =
      (do
        let _ ← sendRecipients mail
        forM (filling mail) command) >>= fun _ => command .send := by
  have last : (forM (content mail) command : Talk (Live (Session κ)) Unit) =
      (do
        forM (filling mail) command
        command .send) := by
    change forM (filling mail ++ [.send]) command = _
    rw [List.forM_append]
    simp only [List.forM_cons, List.forM_nil, bind_pure_unit]
  rw [bind_assoc, sendContent_forM, last]

variable {channel : Channel (Live (Session κ))} {mail : Mail}

theorem sendMail_outcome (mail : Mail) (attending : Attending channel) :
    Outcome channel ([Command.recipients mail.recipients] ++ filling mail ++ [.send])
      (sendMail mail channel).1.result (sendMail mail channel).2 := by
  have asked := ((asks_filling mail).bind fun _ => asks_command .send) channel attending
  rw [← sendMail_filling, sendMail_run] at asked
  exact asked

theorem sendAll_attending (attending : Attending channel) (mails : List Mail) :
    Attending (sendAll mails channel).2 := by
  induction mails generalizing channel with
  | nil => exact attending
  | cons mail mails ih => exact ih (sendMail_outcome mail attending).attending

theorem sendAll_unread (attending : Attending channel) (unread : channel.unread = [])
    (mails : List Mail)
    (read : ∀ submission ∈ (sendAll mails channel).1, submission.result ≠ .error .lineTooLong) :
    (sendAll mails channel).2.unread = [] := by
  induction mails generalizing channel with
  | nil => exact unread
  | cons mail mails ih =>
      have outcome := sendMail_outcome mail attending
      have this_one := read _ List.mem_cons_self
      exact ih outcome.attending ((outcome.unread unread).resolve_right this_one)
        fun submission member => read submission (List.mem_cons_of_mem _ member)

/-- Nothing comes of a mail of which a command does not fit. -/
theorem sendMail_keeps (attending : Attending channel)
    (unfit : ∃ command ∈ commands mail, ¬ Fits command.line) :
    (sendMail mail channel).2.peer.session.desk.consumer =
      channel.peer.session.desk.consumer := by
  obtain ⟨unfit, member, unfit_line⟩ := unfit
  have early : unfit ∈ [Command.recipients mail.recipients] ++ filling mail := by
    have all : unfit ∈ ([Command.recipients mail.recipients] ++ filling mail) ++ [.send] := member
    refine (List.mem_append.mp all).resolve_right fun last => unfit_line ?_
    rw [List.mem_singleton.mp last]
    exact send_carried.fits
  have filled := asks_filling mail channel attending
  have sent := sendMail_run mail channel
  rw [sendMail_filling] at sent
  rcases ran : (do
    let _ ← sendRecipients mail
    forM (filling mail) command : Talk (Live (Session κ)) Unit).run channel with ⟨result, middle⟩
  rw [ran] at filled
  have same := filled.consumer (Or.inl (filling_no_send mail))
  cases result with
  | error error =>
      rw [Talk.run_error ran, Prod.mk.injEq] at sent
      rw [← sent.2, same]
  | ok value =>
      -- The session is over, so that nothing comes of `send`.
      have finished := (filled.fits_or_over value rfl unfit early).resolve_left unfit_line
      have handed := (asks_command .send middle filled.attending).consumer (Or.inr finished)
      rw [Talk.run_ok ran] at sent
      rw [sent] at handed
      rw [handed, same]

/-- Such a mail fails, if the client has read all that it was answered. -/
theorem sendMail_fails (attending : Attending channel) (unread : channel.unread = [])
    (unfit : ∃ command ∈ commands mail, ¬ Fits command.line) :
    ∃ error, (sendMail mail channel).1.result = .error error := by
  obtain ⟨unfit, member, unfit_line⟩ := unfit
  cases result : (sendMail mail channel).1.result with
  | error error => exact ⟨error, rfl⟩
  | ok value =>
      have fits := (sendMail_outcome mail attending).fits unread value result
      exact absurd (fits unfit member) unfit_line

theorem begun_attending (label client_label : LogPrefix) (consumer : κ) :
    ∃ channel, begin.run (Live.connect client_label (Session.greet label consumer)) =
        (.ok (), channel) ∧
      Attending channel ∧ channel.unread = [] ∧ channel.peer.session.desk.consumer = consumer := by
  obtain ⟨channel, session, began, ready, fresh⟩ := begin_ready label client_label consumer
  refine ⟨channel, began, ⟨ready.quiet.clear, ?_⟩, ready.quiet.unread, ?_⟩
  · rw [ready.quiet.peer]
    exact ⟨rfl, Or.inr ⟨rfl, ready.clear⟩⟩
  · rw [ready.quiet.peer, fresh]

theorem opened_attending (label client_label : LogPrefix) (consumer : κ) :
    Attending (opened label client_label consumer) ∧
      (opened label client_label consumer).unread = [] := by
  obtain ⟨channel, began, attending, unread, _⟩ :=
    begun_attending label client_label (⟨consumer, []⟩ : Journal κ)
  have same : opened label client_label consumer = channel := congrArg Prod.snd began
  rw [same]
  exact ⟨attending, unread⟩

theorem hangUp_consumer (live : Live (Session κ)) :
    live.hangUp.desk.consumer = live.session.desk.consumer := by
  rw [Live.hangUp]
  split
  · rfl
  · rename_i running
    have not_over : Wire.Session.isOver live.session = false := eq_false_of_ne_true running
    have taken : Wire.Session.take live.session none = _ :=
      Session.take_none (Wire.Session.isOver_iff.mp not_over)
    rw [taken]

theorem deliver_unfit (label client_label : LogPrefix) (consumer : κ)
    (unfit : ∃ command ∈ commands mail, ¬ Fits command.line) :
    ∃ error refused closed,
      deliver mail (Live.connect client_label (Session.greet label consumer)) =
        (⟨.error error, refused⟩, closed) ∧ closed.peer.hangUp.desk.consumer = consumer := by
  obtain ⟨channel, began, attending, unread, fresh⟩ := begun_attending label client_label consumer
  have same := sendMail_keeps attending unfit
  obtain ⟨error, failed⟩ := sendMail_fails attending unread unfit
  rcases sent : sendMail mail channel with ⟨⟨result, refused⟩, closed⟩
  rw [sent] at same failed
  dsimp only at failed
  subst failed
  refine ⟨error, refused, closed, ?_, ?_⟩
  · simp only [deliver, began, sent]
  · rw [hangUp_consumer, same, fresh]

def texts (mail : Mail) : List String :=
  mail.recipients ++ [mail.sender, mail.subject, mail.body] ++ mail.tag.toList

theorem texts_lines {mail : Mail} {text : String} {c : Char} (member : text ∈ texts mail)
    (inside : c ∈ text.toList) : ∃ command ∈ commands mail, c ∈ command.line.toList := by
  have after {start : String} : c ∈ (start ++ text).toList := by
    rw [String.toList_append]
    exact List.mem_append_right _ inside
  have content_mem {command : Command} (member : command ∈ content mail) :
      command ∈ commands mail := List.mem_cons_of_mem _ member
  simp only [texts, List.mem_append, List.mem_cons, List.not_mem_nil, or_false,
    Option.mem_toList] at member
  rcases member with (address | rfl | rfl | rfl) | tag
  · refine ⟨.recipients mail.recipients, List.mem_cons_self, ?_⟩
    rw [Command.line, String.toList_append]
    exact List.mem_append_right _ (Text.mem_join_of_mem address inside)
  · exact ⟨.sender mail.sender, content_mem (by simp [content]), after⟩
  · exact ⟨.subject mail.subject, content_mem (by simp [content]), after⟩
  · exact ⟨.body mail.body, content_mem (by simp [content]), after⟩
  · exact ⟨.tag text, content_mem (by simp [content, tag]), after⟩

/-- What a server can take a mail for at most. -/
def readings (mail : Mail) : List Command :=
  [.recipients (Text.splitAtEach ',' (chomp (Text.join "," mail.recipients))),
    .sender (chomp mail.sender), .subject (chomp mail.subject), .body (chomp mail.body)] ++
  mail.tag.toList.map (fun tag => .tag (chomp tag)) ++ [.send]

theorem readings_commands (mail : Mail) : (commands mail).map Command.reading = readings mail := by
  cases mail with
  | mk sender recipients subject body tag =>
      cases tag <;> rfl

end Client

/-- Nothing that stands in a mail becomes a command of its own. Whatever its peer answers, a session
reads of what the client writes at most the mail's own commands, each from the text in its place. A
mail with a line break in it fails. At a session, after any other mails, such a mail and one with a
line that is too long fail, and nothing comes of them for the consumer. After an answer that was too
long for the client, which is then out of step, it is only certain that nothing comes of them. -/
theorem mail_stays_mail (mail : Mail) :
    (∀ {π : Type} [Peer π] (channel : Channel π), channel.endpoint.cipher = none →
      (∃ said, said <+: Client.commands mail ∧
        (Client.sendMail mail channel).2.endpoint.sent =
          channel.endpoint.sent ++ said.map Command.line ∧
        ∀ {κ : Type} [Consumer κ] (session : Session κ) (input : Bytes),
          session.endpoint.cipher = none →
          input <+: (said.map Command.line).flatMap lineBytes →
          ∃ heard, (Wire.Session.feed session input).1.endpoint.heard =
              session.endpoint.heard ++ heard ∧
            heard.filterMap Command.parse? <+: Client.readings mail) ∧
      ((∃ text ∈ Client.texts mail, '\n' ∈ text.toList) →
        ∃ error, (Client.sendMail mail channel).1.result = .error error)) ∧
    (∀ {κ : Type} [Consumer κ] (label client_label : LogPrefix) (consumer : κ)
      (earlier : List Mail) submissions channel,
      Client.sendAll earlier (Client.opened label client_label consumer) =
        (submissions, channel) →
      ((∃ text ∈ Client.texts mail, '\n' ∈ text.toList) ∨
        ∃ command ∈ Client.commands mail, Wire.maxLine < (lineBytes command.line).length) →
      (Client.sendMail mail channel).2.peer.session.desk.consumer =
          channel.peer.session.desk.consumer ∧
        ((∀ submission ∈ submissions, submission.result ≠ .error .lineTooLong) →
          ∃ error, (Client.sendMail mail channel).1.result = .error error)) := by
  refine ⟨fun channel clear => ?_, fun label client_label consumer earlier submissions channel sent
    unsendable => ?_⟩
  · obtain ⟨said, in_order, one_line, sent, whole⟩ := Client.sendMail_speaks mail channel clear
    refine ⟨⟨said, in_order, sent, fun session input session_clear cut => ?_⟩, fun broken => ?_⟩
    · obtain ⟨heard, same, parsed⟩ := Session.feed_commands_prefix one_line session_clear cut
      refine ⟨heard, same, parsed.trans ?_⟩
      rw [← Client.readings_commands]
      exact in_order.map _
    · obtain ⟨text, member, line_break⟩ := broken
      obtain ⟨command, present, inside⟩ := Client.texts_lines member line_break
      cases result : (Client.sendMail mail channel).1.result with
      | error error => exact ⟨error, rfl⟩
      | ok value =>
          rw [← whole result] at present
          exact absurd inside (one_line command present)
  · obtain ⟨attending, unread⟩ := Client.opened_attending label client_label consumer
    have still_attending := Client.sendAll_attending attending earlier
    have unfit : ∃ command ∈ Client.commands mail, ¬ Fits command.line := by
      rcases unsendable with ⟨text, member, line_break⟩ | ⟨command, present, long⟩
      · obtain ⟨command, present, inside⟩ := Client.texts_lines member line_break
        exact ⟨command, present, fun fits => fits.one_line inside⟩
      · exact ⟨command, present, fun fits => absurd fits.short (Nat.not_le_of_gt long)⟩
    rw [sent] at still_attending
    refine ⟨Client.sendMail_keeps still_attending unfit, fun read => ?_⟩
    have still_unread := Client.sendAll_unread attending unread earlier
      (by rw [sent]; exact read)
    rw [sent] at still_unread
    exact Client.sendMail_fails still_attending still_unread unfit

def injecting : Mail := ⟨"zim@irk.planet", ["gaz@earth.planet"], "doom\nsend", "again", none⟩

/-- A mail whose body is one byte too long for its line. -/
def endless : Mail := { announcement with body := Text.filler 65531 }

theorem endless_long :
    Wire.maxLine < (lineBytes (Command.body endless.body).line).length := by
  have start : (Text.utf8 "data ").length = 5 := by decide
  have text : (Text.utf8 endless.body).length = 65531 := Text.utf8_filler 65531
  rw [Command.line, Wire.lineBytes_append, start, text]
  decide

theorem endless_stays_mail :
    let opened := Client.opened (.ofProtocol "DMTP") (.ofProtocol "DMTP") planet
    ∃ submissions channel,
      Client.sendAll [announcement, injecting] opened = (submissions, channel) ∧
      submissions.map (·.result) = [.ok (), .error .lineBreakInLine] ∧
      (Client.sendMail endless channel).2.peer.session.desk.consumer =
        channel.peer.session.desk.consumer ∧
      ∃ error, (Client.sendMail endless channel).1.result = .error error := by
  intro opened
  rcases sent : Client.sendAll [announcement, injecting] opened with ⟨submissions, channel⟩
  have results : submissions.map (·.result) = [.ok (), .error .lineBreakInLine] := by
    have evaluated : (Client.sendAll [announcement, injecting] opened).1.map (·.result) =
        [.ok (), .error .lineBreakInLine] := by decide +kernel
    rwa [sent] at evaluated
  have in_step : ∀ submission ∈ submissions, submission.result ≠ .error .lineTooLong := by
    have none_long : ∀ result ∈ submissions.map (·.result), result ≠ .error .lineTooLong := by
      rw [results]
      decide
    exact fun submission member => none_long _ (List.mem_map_of_mem member)
  have present : Command.body endless.body ∈ Client.commands endless := by
    simp [Client.commands, Client.content]
  obtain ⟨same, fails⟩ := (mail_stays_mail endless).2 (.ofProtocol "DMTP") (.ofProtocol "DMTP")
    planet [announcement, injecting] submissions channel sent (Or.inr ⟨_, present, endless_long⟩)
  exact ⟨submissions, channel, rfl, results, same, fails in_step⟩

end MailExchange.Transfer
