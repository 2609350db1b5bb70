import MailExchange.Mail.Delivery
import MailExchange.Proofs.Transfer.Accounts
import MailExchange.Proofs.Transfer.Exchange

namespace MailExchange.Transfer

open Wire (Channel Fits Live Quiet chomp)

variable {κ : Type} [Consumer κ]

/-- A mail whose lines all fit on the wire, together with the answer to its recipients. -/
structure Sendable (consumer : κ) (mail : Mail) : Prop where
  sender : Address.isValid mail.sender = true
  some_recipient : mail.recipients ≠ []
  recipients : ∀ address ∈ mail.recipients, Address.isValid address = true
  subject : '\n' ∉ mail.subject.toList
  body : '\n' ∉ mail.body.toList
  tag : ∀ text, mail.tag = some text → Command.IsTag text
  short : ∀ command ∈ Client.commands mail,
    (Wire.lineBytes command.line).length ≤ Wire.maxLine
  reply_short :
    (Wire.lineBytes (Desk.admission consumer mail.recipients)).length ≤ Wire.maxLine

/-- A mail that the wire carries as it is. -/
structure WireClean (consumer : κ) (mail : Mail) : Prop extends Sendable consumer mail where
  subject_plain : mail.subject.toList.getLast? ≠ some '\r'
  body_plain : mail.body.toList.getLast? ≠ some '\r'

variable {consumer : κ} {mail : Mail}

theorem WireClean.arrives (clean : WireClean consumer mail) (left : Option String) :
    mail.arrived left = mail.retagged left := by
  rw [Mail.arrived, Wire.chomp_plain clean.subject_plain, Wire.chomp_plain clean.body_plain]
  rfl

namespace Sendable

theorem reply_fits (sendable : Sendable consumer mail) :
    Fits (Desk.admission consumer mail.recipients) :=
  ⟨Desk.admission_one_line consumer mail.recipients, sendable.reply_short⟩

theorem fits (sendable : Sendable consumer mail) {command : Command}
    (member : command ∈ Client.commands mail) {word rest : String}
    (cut : command.line = word ++ rest) (word_free : '\n' ∉ word.toList)
    (rest_free : '\n' ∉ rest.toList) : Fits command.line := by
  refine ⟨?_, sendable.short command member⟩
  rw [cut, String.toList_append, List.mem_append, not_or]
  exact ⟨word_free, rest_free⟩

theorem sound (sendable : Sendable consumer mail) : mail.Sound := by
  constructor
  · rintro address ⟨⟩
    refine ⟨sendable.sender, Command.sender_formed sendable.sender, ?_⟩
    exact sendable.fits (by simp [Client.commands, Client.content]) rfl (by decide)
      (Address.valid_free sendable.sender (by decide) (by decide))
  · rintro addresses ⟨⟩
    exact ⟨sendable.recipients, recipients_carried sendable.some_recipient sendable.recipients
      (sendable.short _ List.mem_cons_self)⟩
  · rintro text ⟨⟩
    exact ⟨sendable.subject, sendable.fits (by simp [Client.commands, Client.content]) rfl
      (by decide) sendable.subject⟩
  · rintro text ⟨⟩
    exact ⟨sendable.body, sendable.fits (by simp [Client.commands, Client.content]) rfl
      (by decide) sendable.body⟩
  · intro text found
    have tagged : mail.tag = some text := found
    exact ⟨sendable.tag text tagged, sendable.fits
      (by simp [Client.commands, Client.content, tagged]) rfl (by decide)
      (Command.tag_free (sendable.tag text tagged) (by decide) (by decide))⟩

end Sendable

theorem Client.commands_formed {mail : Mail} (presentable : mail.Presentable)
    (tagged : ∀ text, mail.tag = some text → Command.IsTag text) :
    ∀ command ∈ commands mail, command.WellFormed ∧ '\n' ∉ command.line.toList := by
  obtain ⟨sender_line, recipient_lines, subject_line, body_line, tag_line⟩ := presentable.one_line
  have line {word rest : String} (word_free : '\n' ∉ word.toList) (rest_free : '\n' ∉ rest.toList) :
      '\n' ∉ (word ++ rest).toList := Text.append_free.mpr ⟨word_free, rest_free⟩
  intro command member
  simp only [commands, content, List.mem_cons, List.mem_append, List.mem_map, Option.mem_toList,
    List.not_mem_nil, or_false] at member
  rcases member with rfl | ((rfl | rfl | rfl) | ⟨tag, found, rfl⟩) | rfl
  · exact ⟨Command.recipients_formed presentable.some_recipient presentable.recipients,
      line (by decide) (Text.join_free (by decide) recipient_lines)⟩
  · exact ⟨Command.sender_formed presentable.sender, line (by decide) sender_line⟩
  · exact ⟨subject_line, line (by decide) subject_line⟩
  · exact ⟨body_line, line (by decide) body_line⟩
  · exact ⟨tagged tag found, line (by decide) (tag_line tag found)⟩
  · exact ⟨trivial, by decide⟩

def Client.script (mail : Mail) : List Command := .begin :: commands mail ++ [.quit]

theorem exchange_mail (label client_label : LogPrefix) (consumer : κ) {mail : Mail}
    (sound : mail.Sound) (reply_fits : Fits (Desk.admission consumer mail.recipients)) :
    ∃ opened sent closed refused session,
      Client.begin.run (Live.connect client_label (Session.observed label consumer)) =
        (.ok (), opened) ∧
      Client.sendMail mail opened =
        (⟨reported (Consumer.consume consumer (mail.arrived none)).1, refused⟩, sent) ∧
      Client.quit.run sent = (.ok (), closed) ∧
      Refuses consumer mail.recipients refused ∧
      Quiet (Session.observed label consumer) ((Client.script mail).map Command.line) closed
        session ∧
      session.result? = some (.ok ()) ∧
      session.desk.consumer.calls =
        [(mail.arrived none, (Consumer.consume consumer (mail.arrived none)).1)] := by
  obtain ⟨opened, first, began, ready, fresh⟩ :=
    begin_ready label client_label (⟨consumer, []⟩ : Journal κ)
  have first_fits : Fits (Desk.admission first.desk.consumer mail.recipients) := by
    rw [fresh]
    exact reply_fits
  obtain ⟨sent, second, refused, submitted, refuses, ready_after, handed⟩ :=
    ready.send_mail sound first_fits
  obtain ⟨closed, session, ended, quiet, result, left⟩ := ready_after.quit
  rw [fresh] at submitted refuses handed
  refine ⟨opened, sent, closed, refused, session, began, submitted, ended, refuses, ?_, result, ?_⟩
  · rw [Client.script, List.map_append, List.map_cons, List.map_singleton]
    exact quiet
  · rw [left, handed]
    rfl

theorem run_script (label : LogPrefix) (consumer : κ) {mail : Mail} (sound : mail.Sound)
    (reply_fits : Fits (Desk.admission consumer mail.recipients)) :
    (Wire.Session.run (Session.observed label consumer)
      (((Client.script mail).map Command.line).flatMap Wire.lineBytes)).desk.consumer.calls =
        [(mail.arrived none, (Consumer.consume consumer (mail.arrived none)).1)] := by
  obtain ⟨_, _, _, _, session, _, _, _, _, quiet, result, calls⟩ :=
    exchange_mail label label consumer sound reply_fits
  have finished : Wire.Session.isOver session = true := by
    change session.result?.isSome = true
    rw [result, Option.isSome_some]
  rw [quiet.ran finished, calls]

theorem Client.deliver_taken (label client_label : LogPrefix) (clean : WireClean consumer mail)
    (taken : (Consumer.consume consumer mail).1 = .ok ()) :
    ∃ refused closed,
      deliver mail (Live.connect client_label (Session.greet label consumer)) =
        (⟨.ok (), refused⟩, closed) ∧
      closed.peer.hangUp.desk.consumer = (Consumer.consume consumer mail).2 := by
  have whole : mail.arrived none = mail := by
    rw [clean.arrives none, Mail.retagged_eq]
    exact fun _ => rfl
  obtain ⟨opened, first, began, ready, fresh⟩ := begin_ready label client_label consumer
  obtain ⟨sent, second, refused, submitted, _, ready_sent, handed⟩ :=
    ready.send_mail clean.sound (by rw [fresh]; exact clean.reply_fits)
  obtain ⟨closed, last, ended, quiet, result, left⟩ := ready_sent.quit
  rw [fresh] at submitted handed
  dsimp only at submitted handed
  rw [whole, taken] at submitted
  rw [whole] at handed
  refine ⟨refused, closed, ?_, ?_⟩
  · simp only [deliver, began, submitted, reported, ended]
  · have finished : Wire.Session.isOver last = true := by
      change last.result?.isSome = true
      rw [result, Option.isSome_some]
    rw [quiet.peer, Live.hangUp, if_pos finished, left, handed]
    rfl

/-- A clean mail is consumed as it was sent, and the client learns which recipients are unknown. -/
theorem mail_round_trip (label client_label : LogPrefix) (consumer : κ) (mail : Mail)
    (clean : WireClean consumer mail) (consumes : (Consumer.consume consumer mail).1 = .ok ()) :
    ∃ opened sent closed refused,
      Client.begin.run (Live.connect client_label (Session.observed label consumer)) =
        (.ok (), opened) ∧
      Client.sendMail mail opened = (⟨.ok (), refused⟩, sent) ∧
      Client.quit.run sent = (.ok (), closed) ∧
      Refuses consumer mail.recipients refused ∧
      closed.peer.session.result? = some (.ok ()) ∧
      closed.peer.session.desk.consumer.calls = [(mail, .ok ())] ∧
      Wire.Session.run (Session.observed label consumer)
        (closed.endpoint.sent.flatMap Wire.lineBytes) = closed.peer.session := by
  have whole : mail.arrived none = mail := calc
    mail.arrived none = mail.retagged none := clean.arrives none
    _ = mail := Mail.retagged_eq.mpr fun _ => rfl
  obtain ⟨opened, sent, closed, refused, session, began, submitted, ended, refuses, quiet, result,
    calls⟩ := exchange_mail label client_label consumer clean.toSendable.sound
      clean.toSendable.reply_fits
  rw [whole, consumes] at submitted calls
  have finished : Wire.Session.isOver session = true := by
    change session.result?.isSome = true
    rw [result, Option.isSome_some]
  refine ⟨opened, sent, closed, refused, began, submitted, ended, refuses, ?_, ?_, ?_⟩
  · rw [quiet.peer]
    exact result
  · rw [quiet.peer]
    exact calls
  · rw [quiet.sent, quiet.ran finished, quiet.peer]

def planet : Delivery := ⟨⟨"earth.planet", [("gaz", "piggy")]⟩, {}⟩

def announcement : Mail :=
  ⟨"zim@irk.planet", ["gaz@earth.planet", "gir@earth.planet", "tak@irk.planet"], "",
    " été\rfin", some "AAAA=="⟩

theorem announcement_clean : WireClean planet announcement := by
  refine ⟨⟨by decide, by decide, by decide, by decide, by decide, ?_, by decide, by decide⟩,
    by decide, by decide⟩
  rintro text ⟨⟩
  exact ⟨"AAAA".toList, "==".toList, by decide, by decide, List.all_eq_true.mp (by decide),
    by simp⟩

theorem announcement_round_trip : ∃ opened sent closed refused,
    Client.begin.run (Live.connect (.ofProtocol "DMTP")
      (Session.observed (.ofProtocol "DMTP") planet)) = (.ok (), opened) ∧
    Client.sendMail announcement opened = (⟨.ok (), refused⟩, sent) ∧
    Client.quit.run sent = (.ok (), closed) ∧
    Refuses planet announcement.recipients refused ∧
    closed.peer.session.result? = some (.ok ()) ∧
    closed.peer.session.desk.consumer.calls = [(announcement, .ok ())] ∧
    Wire.Session.run (Session.observed (.ofProtocol "DMTP") planet)
      (closed.endpoint.sent.flatMap Wire.lineBytes) = closed.peer.session :=
  mail_round_trip (.ofProtocol "DMTP") (.ofProtocol "DMTP") planet announcement
    announcement_clean rfl

end MailExchange.Transfer
