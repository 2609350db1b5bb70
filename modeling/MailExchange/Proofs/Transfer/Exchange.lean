import MailExchange.Proofs.Transfer.Draft
import MailExchange.Proofs.Wire.Exchange
import MailExchange.Transfer.Client

namespace MailExchange.Transfer

open Wire (Channel Fits Live Quiet Talk chomp)

namespace Command

/-- A command as it arrives: a text may lose the CR at its end. -/
def arrived : Command → Command
  | subject text => subject (chomp text)
  | body text => body (chomp text)
  | command => command

theorem tag_free {text : String} (formed : IsTag text) {c : Char} (special : isTagChar c = false)
    (other : c ≠ '=') : c ∉ text.toList := by
  obtain ⟨digits, padding, cut, _, coded, padded⟩ := formed
  rw [cut, List.mem_append, not_or]
  refine ⟨fun digit => ?_, fun pad => other (padded c pad)⟩
  rw [coded c digit] at special
  cases special

theorem chomp_line {command : Command} (formed : command.WellFormed)
    (acceptable : command.acceptable = true) : chomp command.line = command.arrived.line := by
  cases command with
  | begin => decide
  | send => decide
  | quit => decide
  | recipients addresses =>
      apply Wire.chomp_free
      rw [line, String.toList_append, List.mem_append, not_or]
      refine ⟨by decide, fun member => ?_⟩
      rcases Text.mem_join member with between | ⟨address, present, inside⟩
      · exact absurd between (by decide)
      · exact Address.valid_free (List.all_eq_true.mp acceptable address present) (by decide)
          (by decide) inside
  | sender address =>
      apply Wire.chomp_free
      rw [line, String.toList_append, List.mem_append, not_or]
      exact ⟨by decide, Address.valid_free acceptable (by decide) (by decide)⟩
  | subject text => exact Wire.chomp_append (by decide) text
  | body text => exact Wire.chomp_append (by decide) text
  | tag text =>
      apply Wire.chomp_free
      rw [line, String.toList_append, List.mem_append, not_or]
      exact ⟨by decide, tag_free formed (by decide) (by decide)⟩

theorem arrived_formed {command : Command} (formed : command.WellFormed) :
    command.arrived.WellFormed := by
  cases command with
  | subject text => exact fun broken => formed (Wire.mem_chomp broken)
  | body text => exact fun broken => formed (Wire.mem_chomp broken)
  | _ => exact formed

theorem parse_chomp {command : Command} (formed : command.WellFormed)
    (acceptable : command.acceptable = true) :
    parse? (chomp command.line) = some command.arrived := by
  rw [chomp_line formed acceptable, parse_line (arrived_formed formed)]

end Command

variable {κ : Type} [Consumer κ] {start session : Session κ} {lines : List String}
  {channel : Channel (Live (Session κ))} {command : Command} {desk : Desk κ} {reply : String}

theorem Session.take_parsed {read : Command} (clear : session.endpoint.cipher = none)
    (begun : session.begun = true) (parsed : Command.parse? (chomp command.line) = some read)
    (response : session.desk.respond? read = some (reply, desk))
    (one_line : '\n' ∉ reply.toList) :
    session.take (some (.line (Text.utf8 command.line))) =
      { session.exchange (chomp command.line) reply with desk } := by
  have text : Text.ofUtf8? (Wire.withoutCr (Text.utf8 command.line)) =
      some (chomp command.line) := by
    rw [Wire.withoutCr_utf8, Text.ofUtf8_utf8]
  rw [Session.take_text clear text]
  exact interpret_answered clear begun parsed response one_line

theorem Session.take_command (clear : session.endpoint.cipher = none) (begun : session.begun = true)
    (carried : command.Carried) (acceptable : command.acceptable = true)
    (response : session.desk.respond? command.arrived = some (reply, desk)) :
    session.take (some (.line (Text.utf8 command.line))) =
      { session.exchange (chomp command.line) reply with desk } := by
  have parsed := Command.parse_chomp carried.formed acceptable
  refine take_parsed clear begun parsed response ((Desk.respond_response response).one_line ?_)
  rw [← Command.chomp_line carried.formed acceptable]
  exact fun broken => carried.fits.one_line (Wire.mem_chomp broken)

/-- The users that a reply to recipients refuses: one for each address that is not accepted. -/
def Refuses (consumer : κ) (addresses : List String) : Option (List String) → Prop
  | none => ∀ address ∈ addresses, Consumer.accepts consumer address = true
  | some users => (∃ address ∈ addresses, Consumer.accepts consumer address = false) ∧
      (addresses.filter (!Consumer.accepts consumer ·)).map Address.user? = users.map some

theorem users_valid {addresses : List String}
    (valid : ∀ address ∈ addresses, Address.isValid address = true) :
    addresses.map Address.user? = (addresses.filterMap Address.user?).map some := by
  induction addresses with
  | nil => rfl
  | cons address others ih =>
      obtain ⟨user, named, _⟩ := Address.valid_user (valid address List.mem_cons_self)
      rw [List.map_cons, List.filterMap_cons_some named, List.map_cons, named,
        ih fun other member => valid other (List.mem_cons_of_mem address member)]

theorem refusal_read (users : String) (count : Nat) :
    Client.readRefusal count ("error unknown recipient " ++ users) =
      .ok (some (Text.splitAtEach ',' users)) := by
  have cut : Wire.splitCommand ("error unknown recipient " ++ users) =
      ("error", some (Client.refusal ++ users)) := by
    rw [show "error unknown recipient " = "error " ++ Client.refusal by decide,
      String.append_assoc]
    exact Wire.splitCommand_error _
  have begins : Client.refusal.toList.isPrefixOf (Client.refusal ++ users).toList = true := by
    rw [String.toList_append, List.isPrefixOf_iff_prefix]
    exact List.prefix_append _ _
  have rest :
      String.ofList ((Client.refusal ++ users).toList.drop Client.refusal.length) = users := by
    rw [String.toList_append, ← String.length_toList, List.drop_left, String.ofList_toList]
  simp only [Client.readRefusal, cut, begins, if_true, rest]

theorem count_read {count : Nat} (small : count < UInt64.size) :
    Client.readRefusal count ("ok " ++ toString count) = .ok none := by
  simp only [Client.readRefusal, Wire.splitCommand_ok, Text.word64_toString small, if_true]

theorem admission_read (consumer : κ) {addresses : List String}
    (valid : ∀ address ∈ addresses, Address.isValid address = true)
    (few : addresses.length < UInt64.size) :
    ∃ refused,
      Client.readRefusal addresses.length (Desk.admission consumer addresses) = .ok refused ∧
      Refuses consumer addresses refused := by
  unfold Desk.admission
  split
  · rename_i accepted
    refine ⟨none, count_read few, fun address present => ?_⟩
    have kept := List.filter_eq_nil_iff.mp accepted address present
    rwa [Bool.not_eq_true', Bool.not_eq_false] at kept
  · rename_i some_rejected
    have rejected_valid : ∀ address ∈ addresses.filter (!Consumer.accepts consumer ·),
        Address.isValid address = true := fun address member =>
      valid address ((List.mem_filter.mp member).1)
    have users := users_valid rejected_valid
    obtain ⟨first, member⟩ := List.exists_mem_of_ne_nil _ some_rejected
    refine ⟨_, refusal_read _ _, ⟨first, (List.mem_filter.mp member).1, ?_⟩, ?_⟩
    · have refused := (List.mem_filter.mp member).2
      rwa [Bool.not_eq_true'] at refused
    · rw [users, Text.splitAtEach_join rfl]
      · intro empty
        rw [empty, List.map_nil, List.map_eq_nil_iff] at users
        exact some_rejected users
      · intro user present
        obtain ⟨address, _, named⟩ := List.mem_filterMap.mp present
        exact fun comma => absurd (Address.user_plain named comma) (by decide)

/-- What a client is told of a mail that was handed over. -/
def reported : Except Error Unit → Except Error Unit
  | .ok () => .ok ()
  | .error _ => .error (.remote "consuming email")

theorem ok_fits : Fits "ok" := ⟨by decide, by decide⟩

theorem chomp_ok : chomp "ok" = "ok" := by decide

theorem verdict_fits : (result : Except Error Unit) → Fits (Desk.verdict result)
  | .ok _ => ok_fits
  | .error _ => (⟨by decide, by decide⟩ : Fits "error consuming email")

theorem verdict_read (result : Except Error Unit) :
    Wire.expectOk (chomp (Desk.verdict result)) = (reported result).map fun _ => none := by
  cases result with
  | ok _ =>
      have cut : Wire.splitCommand (chomp "ok") = ("ok", none) := by decide
      rw [Desk.verdict, Wire.expectOk, cut]
      rfl
  | error _ =>
      have cut : Wire.splitCommand (chomp "error consuming email") =
          ("error", some "consuming email") := by decide
      rw [Desk.verdict, Wire.expectOk, cut]
      rfl

theorem Client.command_ok {π : Type} [Wire.Peer π] {channel after : Channel π} {command : Command}
    (replied : (Client.request command).run channel = (.ok (chomp "ok"), after)) :
    (Client.command command).run channel = (.ok (), after) := by
  rw [Client.command, Talk.run_ok replied, chomp_ok]
  rfl

theorem send_carried : Command.send.Carried := ⟨trivial, ⟨by decide, by decide⟩⟩

theorem recipients_few {addresses : List String}
    (carried : (Command.recipients addresses).Carried) : addresses.length < UInt64.size := by
  have short := carried.fits.short
  rw [Command.line, Wire.lineBytes_append] at short
  have single : ",".toList = [','] := rfl
  calc addresses.length
    _ ≤ (Text.join "," addresses).length + 1 := Text.length_le_join single addresses
    _ ≤ (Text.utf8 (Text.join "," addresses)).length + 1 :=
        Nat.add_le_add_right (Text.length_le_utf8 _) 1
    _ ≤ Wire.maxLine + 1 := by omega
    _ < UInt64.size := by decide

theorem recipients_carried {addresses : List String} (some_address : addresses ≠ [])
    (valid : ∀ address ∈ addresses, Address.isValid address = true)
    (short : (Wire.lineBytes (Command.recipients addresses).line).length ≤ Wire.maxLine) :
    (Command.recipients addresses).Carried := by
  refine ⟨Command.recipients_formed some_address valid, ?_, short⟩
  rw [Command.line, Text.append_free]
  refine ⟨by decide, Text.join_free (by decide) fun address present => ?_⟩
  exact Address.valid_free (valid address present) (by decide) (by decide)

def Desk.after (desk : Desk κ) (mail : Mail) : Desk κ :=
  ⟨(Consumer.consume desk.consumer mail).2,
    leftover (Draft.ofMail mail) (Consumer.consume desk.consumer mail).1⟩

def Client.supplyTag : Option String → Talk (Live (Session κ)) Unit
  | some text => Client.command (.tag text)
  | none => pure ()

theorem Client.sendContent_tag (mail : Mail) : Client.sendContent mail = (do
    Client.command (.sender mail.sender)
    Client.command (.subject mail.subject)
    Client.command (.body mail.body)
    Client.supplyTag mail.tag
    Client.command .send : Talk (Live (Session κ)) Unit) := by
  unfold Client.sendContent
  cases mail.tag <;> rfl

def Client.content (mail : Mail) : List Command :=
  [.sender mail.sender, .subject mail.subject, .body mail.body] ++ mail.tag.toList.map .tag ++
    [.send]

def Client.commands (mail : Mail) : List Command := .recipients mail.recipients :: content mail

/-- A client between two of its commands, after `begin` and before `quit`. -/
structure Ready (start : Session κ) (lines : List String) (channel : Channel (Live (Session κ)))
    (session : Session κ) : Prop where
  quiet : Quiet start lines channel session
  clear : session.endpoint.cipher = none
  begun : session.begun = true
  running : session.result? = none

namespace Ready

theorem request (ready : Ready start lines channel session) (carried : command.Carried)
    (acceptable : command.acceptable = true)
    (response : session.desk.respond? command.arrived = some (reply, desk))
    (reply_fits : Fits reply) :
    ∃ after next, (Client.request command).run channel = (.ok (chomp reply), after) ∧
      Ready start (lines ++ [command.line]) after next ∧ next.desk = desk := by
  have taken := Session.take_command ready.clear ready.begun carried acceptable response
  have running : Wire.Session.isOver session = false := Option.isSome_eq_false_iff.mpr
    (Option.isNone_iff_eq_none.mpr ready.running)
  obtain ⟨after, replied, quiet⟩ :=
    ready.quiet.request running carried.fits reply_fits taken rfl
  exact ⟨after, _, replied, ⟨quiet, ready.clear, ready.begun, ready.running⟩, rfl⟩

theorem supply (ready : Ready start lines channel session) (carried : command.Carried)
    (acceptable : command.acceptable = true)
    (response : session.desk.respond? command.arrived = some ("ok", desk)) :
    ∃ after next, (Client.command command).run channel = (.ok (), after) ∧
      Ready start (lines ++ [command.line]) after next ∧ next.desk = desk := by
  obtain ⟨after, next, replied, ready_after, same⟩ :=
    ready.request carried acceptable response ok_fits
  exact ⟨after, next, Client.command_ok replied, ready_after, same⟩

theorem supply_tag (ready : Ready start lines channel session) {tag : Option String}
    (carried : ∀ text, tag = some text → (Command.tag text).Carried) :
    ∃ after next, (Client.supplyTag tag).run channel = (.ok (), after) ∧
      Ready start (lines ++ (tag.toList.map Command.tag).map Command.line) after next ∧
      next.desk = { session.desk with draft.tag := tag.or session.desk.draft.tag } := by
  cases tag with
  | none =>
      refine ⟨channel, session, rfl, ?_, rfl⟩
      rw [Option.toList_none, List.map_nil, List.map_nil, List.append_nil]
      exact ready
  | some text => exact ready.supply (carried text rfl) rfl rfl

theorem hand_over (ready : Ready start lines channel session) {mail : Mail}
    (complete : session.desk.draft.complete = .ok mail) :
    ∃ after next, (Client.command .send).run channel =
        (reported (Consumer.consume session.desk.consumer mail).1, after) ∧
      Ready start (lines ++ [Command.send.line]) after next ∧
      next.desk = ⟨(Consumer.consume session.desk.consumer mail).2,
        Desk.leftover session.desk.draft (Consumer.consume session.desk.consumer mail).1⟩ := by
  have response : session.desk.respond? (Command.send).arrived = some _ :=
    congrArg some (Desk.send_complete complete)
  obtain ⟨after, next, replied, ready_after, same⟩ :=
    ready.request send_carried rfl response (verdict_fits _)
  refine ⟨after, next, ?_, ready_after, same⟩
  rw [Client.command, Talk.run_ok replied, verdict_read]
  cases (Consumer.consume session.desk.consumer mail).1 <;> rfl

theorem send_recipients (ready : Ready start lines channel session) {mail : Mail}
    (valid : ∀ address ∈ mail.recipients, Address.isValid address = true)
    (carried : (Command.recipients mail.recipients).Carried)
    (reply_fits : Fits (Desk.admission session.desk.consumer mail.recipients)) :
    ∃ after next refused, (Client.sendRecipients mail).run channel = (.ok refused, after) ∧
      Refuses session.desk.consumer mail.recipients refused ∧
      Ready start (lines ++ [(Command.recipients mail.recipients).line]) after next ∧
      next.desk = { session.desk with draft.recipients := some mail.recipients } := by
  have acceptable : (Command.recipients mail.recipients).acceptable = true :=
    List.all_eq_true.mpr valid
  have response : session.desk.respond? (Command.recipients mail.recipients).arrived = some _ :=
    congrArg some (Desk.setRecipients_valid session.desk valid)
  have whole : chomp (Desk.admission session.desk.consumer mail.recipients) =
      Desk.admission session.desk.consumer mail.recipients :=
    Wire.chomp_free (Desk.admission_free _ _ (by decide) (by decide) (by decide))
  obtain ⟨after, next, replied, ready_after, same⟩ :=
    ready.request carried acceptable response reply_fits
  obtain ⟨refused, read, refuses⟩ :=
    admission_read session.desk.consumer valid (recipients_few carried)
  refine ⟨after, next, refused, ?_, refuses, ready_after, same⟩
  rw [Client.sendRecipients, Talk.run_ok replied, whole, read]
  rfl

theorem send_content (ready : Ready start lines channel session) {mail : Mail} (sound : mail.Sound)
    (listed : session.desk.draft.recipients = some mail.recipients) :
    ∃ after next, (Client.sendContent mail).run channel =
        (reported (Consumer.consume session.desk.consumer
          (mail.arrived session.desk.draft.tag)).1, after) ∧
      Ready start (lines ++ (Client.content mail).map Command.line) after next ∧
      next.desk = session.desk.after (mail.arrived session.desk.draft.tag) := by
  obtain ⟨sender_valid, sender_carried⟩ := sound.sender mail.sender rfl
  obtain ⟨_, recipients_carried⟩ := sound.recipients mail.recipients rfl
  have tagged : ∀ text, mail.tag = some text → (Command.tag text).Carried := sound.tag
  have sender_response : session.desk.respond? (Command.sender mail.sender).arrived = some _ :=
    congrArg some (Desk.setSender_valid session.desk sender_valid)
  obtain ⟨channel₁, session₁, sender_sent, ready₁, same₁⟩ :=
    ready.supply sender_carried sender_valid sender_response
  obtain ⟨channel₂, session₂, subject_sent, ready₂, same₂⟩ :=
    ready₁.supply (sound.subject mail.subject rfl) rfl rfl
  obtain ⟨channel₃, session₃, body_sent, ready₃, same₃⟩ :=
    ready₂.supply (sound.body mail.body rfl) rfl rfl
  obtain ⟨channel₄, session₄, tag_sent, ready₄, same₄⟩ := ready₃.supply_tag tagged
  have drafted : session₄.desk =
      ⟨session.desk.consumer, Draft.ofMail (mail.arrived session.desk.draft.tag)⟩ := by
    rw [same₄, same₃, same₂, same₁, Draft.ofMail, Mail.arrived, Mail.retagged, ← listed]
  have complete : session₄.desk.draft.complete = .ok (mail.arrived session.desk.draft.tag) := by
    rw [drafted]
    exact Draft.complete_ofMail recipients_carried.formed.1
  obtain ⟨after, next, handed, ready_after, same⟩ := ready₄.hand_over complete
  rw [drafted] at handed same
  refine ⟨after, next, ?_, ?_, same⟩
  · rw [Client.sendContent_tag, Talk.run_ok sender_sent, Talk.run_ok subject_sent,
      Talk.run_ok body_sent, Talk.run_ok tag_sent]
    exact handed
  · rw [Client.content]
    simpa only [List.map_append, List.map_cons, List.map_nil, List.append_assoc, List.cons_append,
      List.nil_append] using ready_after

/-- A whole mail. A tag that is left on the desk is taken for that of a mail without one. -/
theorem send_mail (ready : Ready start lines channel session) {mail : Mail} (sound : mail.Sound)
    (reply_fits : Fits (Desk.admission session.desk.consumer mail.recipients)) :
    ∃ after next refused, Client.sendMail mail channel =
        (⟨reported (Consumer.consume session.desk.consumer
          (mail.arrived session.desk.draft.tag)).1, refused⟩, after) ∧
      Refuses session.desk.consumer mail.recipients refused ∧
      Ready start (lines ++ (Client.commands mail).map Command.line) after next ∧
      next.desk = session.desk.after (mail.arrived session.desk.draft.tag) := by
  obtain ⟨valid, carried⟩ := sound.recipients mail.recipients rfl
  obtain ⟨middle, between, refused, listed, refuses, ready_between, same⟩ :=
    ready.send_recipients valid carried reply_fits
  obtain ⟨after, next, sent, ready_after, same_after⟩ :=
    ready_between.send_content sound (by rw [same])
  rw [same] at sent same_after
  refine ⟨after, next, refused, ?_, refuses, ?_, same_after⟩
  · simp only [Client.sendMail, listed, sent]
  · rw [Client.commands, List.map_cons]
    rwa [List.append_assoc, List.singleton_append] at ready_after

theorem quit (ready : Ready start lines channel session) :
    ∃ after next, Client.quit.run channel = (.ok (), after) ∧
      Quiet start (lines ++ [Command.quit.line]) after next ∧ next.result? = some (.ok ()) ∧
      next.desk = { session.desk with draft := {} } := by
  have running : Wire.Session.isOver session = false := Option.isSome_eq_false_iff.mpr
    (Option.isNone_iff_eq_none.mpr ready.running)
  have text : Text.ofUtf8? (Wire.withoutCr (Text.utf8 "quit")) = some "quit" := by
    rw [Wire.withoutCr_utf8, Text.ofUtf8_utf8]
    decide
  have taken : session.take (some (.line (Text.utf8 "quit"))) =
      { session.exchange "quit" "ok bye" with
        desk := { session.desk with draft := {} }, result? := some (.ok ()) } := by
    rw [Session.take_text ready.clear text, Session.interpret]
    have asked : (session.hearing "quit").begun = true := ready.begun
    simp only [show Command.parse? "quit" = some .quit by decide, asked, if_true, Session.execute]
    exact Session.quit_clear ready.clear ready.running "quit"
  have bye_fits : Fits "ok bye" := ⟨by decide, by decide⟩
  obtain ⟨after, replied, quiet⟩ :=
    ready.quiet.request running ⟨by decide, by decide⟩ bye_fits taken rfl
  refine ⟨after, _, ?_, quiet, rfl, rfl⟩
  have plain : chomp "ok bye" = "ok bye" := by decide
  have requested : (Client.request .quit).run channel = (.ok (chomp "ok bye"), after) := replied
  rw [Client.quit, Talk.run_ok requested, plain]
  rfl

end Ready

theorem Session.take_begin (clear : session.endpoint.cipher = none)
    (waiting : session.begun = false) :
    session.take (some (.line (Text.utf8 "begin"))) =
      { session.exchange "begin" "ok" with begun := true } := by
  have text : Text.ofUtf8? (Wire.withoutCr (Text.utf8 "begin")) = some "begin" := by
    rw [Wire.withoutCr_utf8, Text.ofUtf8_utf8]
    decide
  have unasked : (session.hearing "begin").begun = false := waiting
  rw [take_text clear text, interpret]
  simp only [show Command.parse? "begin" = some .begin by decide, unasked, Bool.false_eq_true,
    if_false]
  exact say_clear { session.hearing "begin" with begun := true } "ok" clear (by decide)

theorem begin_ready (label client_label : LogPrefix) (consumer : κ) :
    ∃ after session, Client.begin.run (Live.connect client_label (Session.greet label consumer)) =
        (.ok (), after) ∧
      Ready (Session.greet label consumer) [Command.begin.line] after session ∧
      session.desk = ⟨consumer, {}⟩ := by
  rw [Session.greet_clear]
  obtain ⟨middle, read, quiet⟩ := Wire.read_greeting client_label
    ({ endpoint := { label, sent := [greeting] }, desk := { consumer } } : Session κ)
    (⟨by decide, by decide⟩ : Fits greeting) rfl
  obtain ⟨after, replied, quiet_after⟩ := quiet.request rfl ⟨by decide, by decide⟩
    ok_fits (Session.take_begin rfl rfl) rfl
  refine ⟨after, _, ?_, ⟨quiet_after, rfl, rfl, rfl⟩, rfl⟩
  have greeted : chomp greeting = greeting := by decide
  rw [greeted] at read
  rw [Client.begin, Talk.run_ok read]
  simp only [ne_eq, not_true_eq_false, if_false]
  exact Client.command_ok replied

end MailExchange.Transfer
