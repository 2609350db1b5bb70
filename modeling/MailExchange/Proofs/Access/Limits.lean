import MailExchange.Proofs.Access.Serving
import MailExchange.Proofs.Transfer.RoundTrip
import MailExchange.Proofs.Transfer.Stock
import MailExchange.Proofs.Wire.Awaiting

/-!
How long the lines of a list and of a mail can get, and what a client makes of them. A mail has come
on lines that fit, and is shown on the same lines, which need not fit once they are encrypted; in
the list, sender and subject share a line.
-/

namespace MailExchange.Access

open Text (Bytes)
open Wire (Awaiting Carriable Channel Endpoint Fits Linked Live Peer Talk arrival maxLine wireSize)

/-- How many bytes of text a line can hold. -/
def room (secure : Bool) : Nat := if secure then 49149 else 65535

theorem wireSize_room (secure : Bool) (line : String) :
    wireSize secure line ≤ maxLine ↔ (Text.utf8 line).length ≤ room secure := by
  cases secure with
  | false =>
      simp only [wireSize, room, maxLine, Bool.false_eq_true, if_false]
      omega
  | true =>
      simp only [wireSize, room, maxLine, if_true]
      omega

section Lines

variable {mail : Mail} {message : MessageId × Mail} {line : String}

theorem mailLines_fit (sound : mail.Sound) (member : line ∈ mailLines mail) : Fits line := by
  simp only [mailLines, List.mem_cons, List.not_mem_nil, or_false] at member
  rcases member with rfl | rfl | rfl | rfl | rfl
  · exact (sound.sender mail.sender rfl).2.fits
  · exact (sound.recipients mail.recipients rfl).2.fits
  · exact (sound.subject mail.subject rfl).fits
  · exact (sound.body mail.body rfl).fits
  · cases tag : mail.tag with
    | none => exact ⟨by decide, by decide⟩
    | some text => exact (sound.tag text tag).fits

theorem mailLines_clear (sound : mail.Sound) (member : line ∈ mailLines mail) :
    wireSize false line ≤ maxLine := by
  have short := (mailLines_fit sound member).short
  rw [Wire.lineBytes_length] at short
  exact short

theorem decimal_size (value : Nat) :
    (Text.utf8 (Text.decimal value)).length = (Text.decimal value).length := by
  rw [← String.length_toList]
  apply Text.utf8_length_ascii
  intro c digit
  obtain ⟨_, top⟩ := of_decide_eq_true (Text.mem_toString digit)
  exact Nat.lt_of_le_of_lt (UInt32.le_iff_toNat_le.mp (Char.le_def.mp top)) (by decide)

theorem summaryLine_size (message : MessageId × Mail) :
    (Text.utf8 (summaryLine message)).length =
      (Text.decimal message.1.toNat).length + (Text.utf8 message.2.sender).length +
        (Text.utf8 message.2.subject).length + 2 := by
  have space : (Text.utf8 " ").length = 1 := by decide
  simp only [summaryLine, Text.utf8_append, List.length_append, decimal_size, space]
  omega

theorem decimal_plain {value : Nat} {c : Char} (no_digit : Text.isDigit c = false) :
    c ∉ (Text.decimal value).toList := by
  intro digit
  rw [Text.mem_toString digit] at no_digit
  cases no_digit

theorem numbered_carriable {command : Command} {id : MessageId}
    (numbered : command.number? = some id) (secure : Bool) : Carriable secure command.line := by
  obtain ⟨start, written, no_break, no_return, short⟩ : ∃ start : String,
      command.line = start ++ Text.decimal id.toNat ∧ '\n' ∉ start.toList ∧
        '\r' ∉ start.toList ∧ (Text.utf8 start).length ≤ 7 := by
    cases command with
    | view other =>
        cases numbered
        exact ⟨"show ", rfl, by decide, by decide, by decide⟩
    | delete other =>
        cases numbered
        exact ⟨"delete ", rfl, by decide, by decide, by decide⟩
    | _ => cases numbered
  rw [written]
  refine ⟨Text.append_free.mpr ⟨no_break, decimal_plain (by decide)⟩,
    (wireSize_room secure _).mpr ?_, ?_⟩
  · have digits : (Text.decimal id.toNat).length ≤ 20 := Text.toString_length id.toNat_lt
    rw [Text.utf8_append, List.length_append, decimal_size]
    cases secure <;> simp only [room, Bool.false_eq_true, if_true, if_false] <;> omega
  · intro _ last
    exact Text.append_free.mpr ⟨no_return, decimal_plain (by decide)⟩ (List.mem_of_getLast? last)

theorem summaryStart_free (valid : Address.isValid message.2.sender = true) {c : Char}
    (special : Address.isPlain c = false) (no_at : c ≠ '@') (no_space : c ≠ ' ')
    (no_digit : Text.isDigit c = false) :
    c ∉ (Text.decimal message.1.toNat ++ " " ++ message.2.sender ++ " ").toList := by
  have space : c ∉ (" " : String).toList := fun between => no_space (List.mem_singleton.mp between)
  simp only [Text.append_free]
  exact ⟨⟨⟨decimal_plain no_digit, space⟩, Address.valid_free valid no_at special⟩, space⟩

theorem summaryLine_one_line (sound : message.2.Sound) :
    '\n' ∉ (summaryLine message).toList := by
  have start := summaryStart_free (sound.sender message.2.sender rfl).1
    (by decide : Address.isPlain '\n' = false) (by decide) (by decide) (by decide)
  exact Text.append_free.mpr ⟨start, sound.presentable.one_line.2.2.1⟩

theorem answer_listed (message : MessageId × Mail) (messages : List (MessageId × Mail)) :
    Answer.lines (.ok (.listed ((message :: messages).map summary))) =
      summaryLine message :: (messages.map summaryLine ++ ["ok"]) := by
  simp only [List.map_cons, Answer.lines, List.map_map]
  rfl

theorem forall_listed {P : String → Prop} (nothing : P noMail) (last : P "ok")
    (messages : List (MessageId × Mail)) :
    (∀ line ∈ Answer.lines (.ok (.listed (messages.map summary))), P line) ↔
      ∀ message ∈ messages, P (summaryLine message) := by
  cases messages with
  | nil => exact ⟨fun _ _ member => absurd member List.not_mem_nil,
      fun _ line member => List.mem_singleton.mp member ▸ nothing⟩
  | cons message messages =>
      rw [answer_listed, List.forall_mem_cons, List.forall_mem_cons, List.forall_mem_append,
        List.forall_mem_map, List.forall_mem_singleton]
      exact ⟨fun ⟨first, others, _⟩ => ⟨first, others⟩,
        fun ⟨first, others⟩ => ⟨first, others, last⟩⟩

def heardSummary (secure : Bool) (message : MessageId × Mail) : Client.Summary :=
  { summary message with subject := arrival secure message.2.subject }

theorem arrival_summaryLine (valid : Address.isValid message.2.sender = true) (secure : Bool) :
    arrival secure (summaryLine message) = Answer.summaryLine (heardSummary secure message) := by
  have start := summaryStart_free valid (by decide : Address.isPlain '\r' = false) (by decide)
    (by decide) (by decide)
  exact Wire.arrival_start (fun last => start (List.mem_of_getLast? last)) secure message.2.subject

end Lines

namespace Client

variable {π : Type} [Peer π] {secure : Bool} {message : MessageId × Mail} {mail : Mail}

def listFrom (found : List Summary) (line : String) : Talk π (List Summary) :=
  ExceptT.mk fun channel => pure (readList found line channel)

theorem listFrom_ok (found : List Summary) :
    (listFrom found "ok" : Talk π (List Summary)) = pure found.reverse := by
  funext channel
  change readList found "ok" channel = _
  rw [readList, if_pos rfl]
  rfl

theorem listFrom_summary {summary : Summary} (free : ' ' ∉ summary.sender.toList)
    (found : List Summary) :
    (listFrom found (Answer.summaryLine summary) : Talk π (List Summary)) =
      Talk.readLine >>= listFrom (summary :: found) := by
  funext channel
  change readList found (Answer.summaryLine summary) channel =
    (Talk.readLine >>= listFrom (summary :: found)).run channel
  rw [readList, if_neg (summaryLine_ne free ⟨_, rfl⟩)]
  simp only [readSummary_line free]
  split
  · rename_i error after failed
    have read : Talk.readLine.run channel = (.error error, after) := failed
    rw [Talk.run_error read]
  · rename_i next after received
    have read : Talk.readLine.run channel = (.ok next, after) := received
    rw [Talk.run_ok read]
    rfl

theorem reads_list {messages : List (MessageId × Mail)}
    (valid : ∀ message ∈ messages, Address.isValid message.2.sender = true)
    (found : List Summary) :
    Talk.Reads secure (Talk.readLine >>= listFrom found : Talk π (List Summary))
      (messages.map summaryLine ++ ["ok"])
      (found.reverse ++ messages.map (heardSummary secure)) := by
  induction messages generalizing found with
  | nil =>
      rw [List.map_nil, List.map_nil, List.append_nil]
      refine (Talk.reads_readLine "ok" (Wire.arrival_free (by decide))).bind ?_
      rw [listFrom_ok]
      exact Talk.reads_pure found.reverse
  | cons message messages ih =>
      have sender_valid := valid message List.mem_cons_self
      refine (Talk.reads_readLine _ (arrival_summaryLine sender_valid secure)).bind ?_
      rw [listFrom_summary (Address.valid_free sender_valid (by decide) (by decide))]
      have more := ih (fun other member => valid other (List.mem_cons_of_mem _ member))
        (heardSummary secure message :: found)
      rw [List.reverse_cons, List.append_assoc] at more
      exact more

def readListing : Talk π (List Summary) := do
  let line ← Talk.readLine
  if line = noMail then return []
  listFrom [] line

theorem list_asks : (list : Talk π (List Summary)) =
    Talk.writeLine Command.list.line >>= fun _ => readListing := bind_assoc _ _ _

theorem reads_listing {messages : List (MessageId × Mail)}
    (valid : ∀ message ∈ messages, Address.isValid message.2.sender = true) :
    Talk.Reads secure (readListing : Talk π (List Summary))
      (Answer.lines (.ok (.listed (messages.map summary))))
      (messages.map (heardSummary secure)) := by
  cases messages with
  | nil =>
      refine (Talk.reads_readLine noMail (Wire.arrival_free (by decide))).bind ?_
      rw [if_pos rfl]
      exact Talk.reads_pure []
  | cons message messages =>
      have sender_valid := valid message List.mem_cons_self
      have free : ' ' ∉ message.2.sender.toList :=
        Address.valid_free sender_valid (by decide) (by decide)
      have others : Talk.Reads secure
          (Talk.readLine >>= listFrom [heardSummary secure message] : Talk π (List Summary))
          (messages.map summaryLine ++ ["ok"])
          (heardSummary secure message :: messages.map (heardSummary secure)) :=
        reads_list (fun other member => valid other (List.mem_cons_of_mem _ member)) _
      rw [answer_listed]
      refine (Talk.reads_readLine _ (arrival_summaryLine sender_valid secure)).bind ?_
      rw [if_neg (summaryLine_ne free ⟨_, rfl⟩), listFrom_summary free]
      exact others

theorem reads_field {keyword start value heard : String} (starts : start = keyword ++ " ")
    (free : ' ' ∉ keyword.toList) (arrives : arrival secure value = heard) :
    Talk.Reads secure (nextField keyword : Talk π String) [start ++ value] heard := by
  have plain : start.toList.getLast? ≠ some '\r' := by
    rw [starts, String.toList_append, List.getLast?_append]
    exact fun last => absurd (Option.some.inj last) (by decide)
  refine (Talk.reads_readLine _ (Wire.arrival_start plain secure value)).bind ?_
  rw [arrives]
  exact Talk.reads_ofExcept (readField_word starts free heard)

theorem reads_tag {tag : Option String} {line : String}
    (written : line = match tag with
      | some tag => "hash " ++ tag
      | none => "hash")
    (formed : ∀ text, tag = some text → Transfer.Command.IsTag text) :
    Talk.Reads secure (nextField "hash" : Talk π String) [line] (tag.getD "") := by
  rw [written]
  cases tag with
  | none =>
      refine (Talk.reads_readLine "hash" (Wire.arrival_free (by decide))).bind ?_
      exact Talk.reads_ofExcept rfl
  | some text =>
      exact reads_field rfl (by decide)
        (Wire.arrival_free (Transfer.Command.tag_free (formed text rfl) (by decide) (by decide)))

theorem readable_sound (sound : mail.Sound) : Readable mail where
  sender := sound.presentable.sender
  some_recipient := sound.presentable.some_recipient
  recipients := sound.presentable.recipients
  tag := by
    intro empty
    obtain ⟨digits, padding, cut, some_digit, _⟩ := (sound.tag "" empty).formed
    exact some_digit (List.append_eq_nil_iff.mp cut.symm).1

def heardMail (secure : Bool) (mail : Mail) : Mail :=
  { mail with subject := arrival secure mail.subject, body := arrival secure mail.body }

theorem heardMail_plain (secure : Bool) (subject : '\r' ∉ mail.subject.toList)
    (body : '\r' ∉ mail.body.toList) : heardMail secure mail = mail := by
  rw [heardMail, Wire.arrival_free subject, Wire.arrival_free body]

def readMail : Talk π Mail := do
  let sender ← nextField "from"
  let recipients ← nextField "to"
  let subject ← nextField "subject"
  let body ← nextField "data"
  let tag ← nextField "hash"
  let last ← Talk.readLine
  if last ≠ "ok" then throw (.protocol s!"expected end of message, got {last}")
  return ⟨sender, Text.splitAtEach ',' recipients, subject, body,
    if tag = "" then none else some tag⟩

theorem view_asks (id : MessageId) : (view id : Talk π Mail) =
    Talk.writeLine (Command.view id).line >>= fun _ => readMail := by
  simp only [view, readMail, nextField, request, Talk.request, bind_assoc]

theorem reads_mail (sound : mail.Sound) :
    Talk.Reads secure (readMail : Talk π Mail) (mailLines mail ++ ["ok"])
      (heardMail secure mail) := by
  have readable := readable_sound sound
  have free {address : String} (valid : Address.isValid address = true) : '\r' ∉ address.toList :=
    Address.valid_free valid (by decide) (by decide)
  have recipients : '\r' ∉ mail.joinedRecipients.toList := by
    intro member
    rcases Text.mem_join member with between | ⟨address, present, inside⟩
    · exact absurd between (by decide)
    · exact free (readable.recipients address present) inside
  have separate : Text.splitAtEach ',' mail.joinedRecipients = mail.recipients :=
    Text.splitAtEach_join rfl readable.some_recipient fun address present =>
      Address.valid_free (readable.recipients address present) (by decide) (by decide)
  have same_tag : (if mail.tag.getD "" = "" then none else some (mail.tag.getD "")) = mail.tag := by
    cases found : mail.tag with
    | none => rfl
    | some text => exact if_neg fun empty => readable.tag (found.trans (congrArg some empty))
  have finish : Talk.Reads secure (Talk.readLine >>= fun last => do
      if last ≠ "ok" then throw (.protocol s!"expected end of message, got {last}")
      return ⟨mail.sender, Text.splitAtEach ',' mail.joinedRecipients, arrival secure mail.subject,
        arrival secure mail.body,
        if mail.tag.getD "" = "" then none else some (mail.tag.getD "")⟩ : Talk π Mail) ["ok"]
      (heardMail secure mail) := by
    refine (Talk.reads_readLine "ok" (Wire.arrival_free (by decide))).bind ?_
    rw [separate, same_tag]
    exact Talk.reads_pure (heardMail secure mail)
  exact (reads_field rfl (by decide) (Wire.arrival_free (free readable.sender))).bind
    ((reads_field rfl (by decide) (Wire.arrival_free recipients)).bind
      ((reads_field rfl (by decide) rfl).bind
        ((reads_field rfl (by decide) rfl).bind
          ((reads_tag rfl fun text found => (sound.tag text found).formed).bind finish))))

end Client

/-- A session that waits for a command of the user who is signed in. -/
structure Served (session : Session) (user : String) (channel : Channel (Live Session)) : Prop where
  linked : Linked session session.endpoint [] channel
  waiting : session.stage = .commands
  running : session.result? = none
  signed : session.user = some user

namespace Served

variable {session : Session} {user : String} {channel : Channel (Live Session)} {α : Type}

theorem ask (served : Served session user channel) {command : Command} {replies : List String}
    (formed : command.WellFormed) (carriable : Carriable session.endpoint.isEncrypted command.line)
    (executed : (session.hearing command.line).execute command =
      (session.hearing command.line).say replies)
    (one_line : ∀ reply ∈ replies, '\n' ∉ reply.toList) (next : Talk (Live Session) α) :
    ∃ middle, (Talk.writeLine command.line >>= fun _ => next).run channel = next.run middle ∧
      middle.endpoint.isEncrypted = session.endpoint.isEncrypted ∧ Awaiting replies middle := by
  have taken := (Session.take_command served.waiting formed carriable).trans
    (executed.trans ((session.hearing command.line).say_wrote one_line))
  have said : ((session.hearing command.line).saying replies).endpoint.sent =
      session.endpoint.sent ++ session.endpoint.outbound.wires replies := by
    change ((session.endpoint.took command.line).wroteAll replies).sent = _
    rw [Endpoint.wroteAll_sent, Endpoint.took_sent, Endpoint.took_outbound]
  obtain ⟨middle, sent, encrypted, awaiting⟩ := served.linked.ask
    (Wire.Session.isOver_iff.mpr served.running) carriable taken said one_line
  exact ⟨middle, Talk.run_ok sent, encrypted, awaiting⟩

theorem list_outcome (served : Served session user channel)
    (sound : ∀ message ∈ session.site.mailboxes.list user, message.2.Sound) :
    (Client.list.run channel).1 =
      if ∀ message ∈ session.site.mailboxes.list user,
        wireSize session.endpoint.isEncrypted (summaryLine message) ≤ maxLine
      then .ok ((session.site.mailboxes.list user).map
        (heardSummary session.endpoint.isEncrypted))
      else .error .lineTooLong := by
  let messages := session.site.mailboxes.list user
  let heard := session.hearing Command.list.line
  have short (line : String) (word : line = noMail ∨ line = "ok" ∨ line = Command.list.line) :
      Carriable session.endpoint.isEncrypted line := by
    cases session.endpoint.isEncrypted <;> rcases word with rfl | rfl | rfl <;> decide
  have signed : heard.user = some user := served.signed
  have executed : heard.execute .list =
      heard.say (Answer.lines (.ok (.listed (messages.map summary)))) := by
    rw [Session.execute, Session.asUser_some signed, Session.list_settle, Session.settle,
      Session.turn_account]
    rfl
  have one_line := (forall_listed (P := fun line => '\n' ∉ line.toList) (by decide) (by decide)
    messages).mpr fun message member => summaryLine_one_line (sound message member)
  obtain ⟨middle, asked, encrypted, awaiting⟩ := served.ask
    (show Command.list.WellFormed from trivial) (short _ (.inr (.inr rfl))) executed one_line
    Client.readListing
  have known := (Client.reads_listing fun message member =>
    (sound message member).presentable.sender).outcome encrypted awaiting
  rw [Client.list_asks, asked, known]
  have all_short := forall_listed (P := fun line => wireSize _ line ≤ maxLine)
    (short _ (.inl rfl)).short (short _ (.inr (.inl rfl))).short messages
  exact if_congr all_short rfl rfl

theorem view_outcome (served : Served session user channel) {id : MessageId} {mail : Mail}
    (short : id.toNat < 10 ^ 19) (found : session.site.mailboxes.get? user id = some mail)
    (sound : mail.Sound) :
    ((Client.view id).run channel).1 =
      if ∀ line ∈ mailLines mail, wireSize session.endpoint.isEncrypted line ≤ maxLine
      then .ok (Client.heardMail session.endpoint.isEncrypted mail)
      else .error .lineTooLong := by
  let heard := session.hearing (Command.view id).line
  have last : Carriable session.endpoint.isEncrypted "ok" := by
    cases session.endpoint.isEncrypted <;> decide
  have signed : heard.user = some user := served.signed
  have still_found : heard.site.mailboxes.get? user id = some mail := found
  have executed : heard.execute (.view id) = heard.say (mailLines mail ++ ["ok"]) := by
    rw [Session.execute, Session.asUser_some signed, Session.view, still_found]
  have one_line : ∀ line ∈ mailLines mail ++ ["ok"], '\n' ∉ line.toList := by
    rw [List.forall_mem_append, List.forall_mem_singleton]
    exact ⟨fun line member => (mailLines_fit sound member).one_line, last.one_line⟩
  obtain ⟨middle, asked, encrypted, awaiting⟩ := served.ask
    (show (Command.view id).WellFormed from short) (numbered_carriable rfl _) executed one_line
    Client.readMail
  have known := (Client.reads_mail sound).outcome encrypted awaiting
  rw [Client.view_asks, asked, known]
  refine if_congr ?_ rfl rfl
  rw [List.forall_mem_append, List.forall_mem_singleton]
  exact and_iff_left last.short

theorem login (label far_label : LogPrefix) {site : Site} {user password : String}
    (known : site.users.has user = true) (accepted : site.users.accepts user password = true)
    (formed : (Command.login user password).WellFormed)
    (carriable : Carriable false (Command.login user password).line) :
    ∃ greeted opened session,
      Client.readGreeting.run (Live.connect label (Session.greet far_label site)) =
        (.ok (), greeted) ∧
      (Client.login user password).run greeted = (.ok (), opened) ∧
      Served session user opened ∧ session.site = site ∧
      session.endpoint.isEncrypted = false := by
  obtain ⟨greeted, read, linked⟩ := Session.greet_linked label far_label site
  let heard := (Session.greet far_label site).hearing (Command.login user password).line
  let next : Session :=
    { heard with user := some user, endpoint := heard.endpoint.withUser (some user) }
  have executed : heard.execute (.login user password) = next.say ["ok"] := by
    have known_here : heard.site.users.has user = true := known
    have accepted_here : heard.site.users.accepts user password = true := accepted
    have nobody : heard.user = none := rfl
    simp only [Session.execute, Session.login, nobody, known_here, accepted_here,
      Option.isSome_none, Bool.not_true, Bool.false_eq_true, if_false]
    rfl
  have both_carriable : ∀ line ∈ [(Command.login user password).line, "ok"],
      Carriable false line := by
    rw [List.forall_mem_cons, List.forall_mem_singleton]
    exact ⟨carriable, by decide⟩
  obtain ⟨opened, asked, linked_after⟩ := Session.request_linked linked rfl rfl formed
    both_carriable executed ⟨rfl, rfl, rfl⟩
  exact ⟨greeted, opened, _, read, Client.run_command asked, ⟨linked_after, rfl, rfl, rfl⟩,
    rfl, rfl⟩

end Served

/-- What a client makes of a list, and of a mail, when all mail has come over the wire. A line of
the list holds the id, the sender and the subject of a message, and one such line that is too long
makes the list fail. A mail can always be read in clear, and in a secret session as long as none of
its lines holds more than 49149 bytes. -/
theorem replies_read {users : Users} {session : Session} {user : String}
    {channel : Channel (Live Session)} (stocked : Stocked users session.site.mailboxes)
    (served : Served session user channel) :
    let secure := session.endpoint.isEncrypted
    let messages := session.site.mailboxes.list user
    (∀ line, wireSize secure line ≤ maxLine ↔ (Text.utf8 line).length ≤ room secure) ∧
    (∀ message, (Text.utf8 (summaryLine message)).length =
      (Text.decimal message.1.toNat).length + (Text.utf8 message.2.sender).length +
        (Text.utf8 message.2.subject).length + 2) ∧
    (∀ message ∈ messages, ∀ line ∈ mailLines message.2, wireSize false line ≤ maxLine) ∧
    (Client.list.run channel).1 =
      (if ∀ message ∈ messages, wireSize secure (summaryLine message) ≤ maxLine
        then .ok (messages.map (heardSummary secure)) else .error .lineTooLong) ∧
    ∀ id mail, session.site.mailboxes.get? user id = some mail → id.toNat < 10 ^ 19 →
      ((Client.view id).run channel).1 =
        if ∀ line ∈ mailLines mail, wireSize secure line ≤ maxLine
        then .ok (Client.heardMail secure mail) else .error .lineTooLong := by
  intro secure messages
  have sound {message : MessageId × Mail} (member : message ∈ messages) : message.2.Sound :=
    stocked.sound member
  refine ⟨wireSize_room secure, summaryLine_size, fun message member line shown =>
    mailLines_clear (sound member) shown, served.list_outcome fun message => sound, ?_⟩
  intro id mail found short
  obtain ⟨message, here, rfl⟩ := Option.map_eq_some_iff.mp found
  exact served.view_outcome short found (sound (List.mem_of_find?_eq_some here))

def lab (mailboxes : Mailboxes) : Site where
  identity := "lab"
  users := .ofDomain "earth.planet" [("dib", "moose")]
  mailboxes := mailboxes
  keys := { root := [], rootName := "" }
  files := {}

def letterbox : Delivery := ⟨(lab {}).users, {}⟩

def letter (subject : String) : Mail :=
  ⟨"zim@irk.planet", ["dib@earth.planet"], subject, "", none⟩

theorem letter_clean {subject : String} (one_line : '\n' ∉ subject.toList)
    (plain : subject.toList.getLast? ≠ some '\r') (short : (Text.utf8 subject).length ≤ 65527) :
    Transfer.WireClean letterbox (letter subject) where
  sender := (by decide : Address.isValid "zim@irk.planet" = true)
  some_recipient := List.cons_ne_nil _ _
  recipients := (by decide : ∀ address ∈ ["dib@earth.planet"], Address.isValid address = true)
  subject := one_line
  body := (by decide : '\n' ∉ ("" : String).toList)
  tag := fun _ tag => nomatch tag
  short := by
    have start : (Text.utf8 "subject ").length = 8 := by decide
    have subject_short :
        (Wire.lineBytes (Transfer.Command.subject subject).line).length ≤ maxLine := by
      rw [Transfer.Command.line, Wire.lineBytes_append, start, maxLine]
      omega
    have commands : Transfer.Client.commands (letter subject) = [.recipients ["dib@earth.planet"],
      .sender "zim@irk.planet", .subject subject, .body "", .send] := rfl
    rw [commands]
    simp only [List.forall_mem_cons, List.not_mem_nil, false_implies, implies_true, and_true]
    exact ⟨by decide, by decide, subject_short, by decide, by decide⟩
  reply_short := (by decide : (Wire.lineBytes
    (Transfer.Desk.admission letterbox ["dib@earth.planet"])).length ≤ maxLine)
  subject_plain := plain
  body_plain := (by decide : ("" : String).toList.getLast? ≠ some '\r')

theorem letter_list (subject : String) :
    (letterbox.deliver (letter subject)).mailboxes.list "dib" = [(1, letter subject)] := by
  rw [Delivery.deliver_list, if_pos]
  · rfl
  · exact Delivery.mem_addressees.mpr ⟨by decide, "dib@earth.planet", List.mem_singleton_self _,
      "earth.planet", by decide, by decide⟩

/-- A subject that just fits on its line is too long for the list. -/
theorem letter_unlisted :
    let mail := letter (Text.filler 65527)
    ∃ greeted opened session,
      Client.readGreeting.run (Live.connect (.ofProtocol "near") (Session.greet (.ofProtocol "far")
        (lab (letterbox.deliver mail).mailboxes))) = (.ok (), greeted) ∧
      (Client.login "dib" "moose").run greeted = (.ok (), opened) ∧
      Stocked letterbox.users session.site.mailboxes ∧ Served session "dib" opened ∧
      (Client.list.run opened).1 = .error .lineTooLong ∧
      ((Client.view 1).run opened).1 = .ok mail := by
  intro mail
  have free {c : Char} (other : c ≠ 'x') : c ∉ (Text.filler 65527).toList :=
    fun member => other (Text.mem_filler member)
  have clean : Transfer.WireClean letterbox mail := letter_clean (free (by decide))
    (fun last => free (by decide) (List.mem_of_getLast? last))
    (Nat.le_of_eq (Text.utf8_filler 65527))
  have stocked : Stocked letterbox.users (letterbox.deliver mail).mailboxes :=
    Stocked.empty.deliver clean.handed
  let site := lab (letterbox.deliver mail).mailboxes
  have known : site.users.has "dib" = true := rfl
  have accepted : site.users.accepts "dib" "moose" = true := rfl
  obtain ⟨greeted, opened, session, read, signed_in, served, same_site, clear⟩ :=
    Served.login (.ofProtocol "near") (.ofProtocol "far") known accepted
      ⟨⟨by decide, by decide⟩, by decide, by decide⟩ (by decide)
  have stocked_here : Stocked letterbox.users session.site.mailboxes := by
    rw [same_site]
    exact stocked
  have listed : session.site.mailboxes.list "dib" = [(1, mail)] := by
    rw [same_site]
    exact letter_list _
  obtain ⟨_, size, shown_short, list_read, mail_read⟩ := replies_read stocked_here served
  rw [clear, listed] at list_read
  rw [listed] at shown_short
  refine ⟨greeted, opened, session, read, signed_in, stocked_here, served, ?_, ?_⟩
  · rw [list_read, if_neg]
    have id : (Text.decimal (1 : MessageId).toNat).length = 1 := by decide
    have sender : (Text.utf8 mail.sender).length = 14 := by decide
    have subject : (Text.utf8 mail.subject).length = 65527 := Text.utf8_filler 65527
    rw [List.forall_mem_singleton, wireSize_room, size, id, sender, subject]
    decide
  · have found : session.site.mailboxes.get? "dib" 1 = some mail := by
      change ((session.site.mailboxes.list "dib").find? _).map _ = _
      rw [listed]
      rfl
    have body : '\r' ∉ mail.body.toList := List.not_mem_nil
    have same : Client.heardMail false mail = mail :=
      Client.heardMail_plain false (free (by decide)) body
    rw [mail_read 1 mail found (by decide), clear, if_pos, same]
    exact shown_short (1, mail) (List.mem_singleton_self _)

end MailExchange.Access
