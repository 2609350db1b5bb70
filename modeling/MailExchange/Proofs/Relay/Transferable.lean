import MailExchange.Proofs.Relay.Bounce
import MailExchange.Proofs.Transfer.Stock
import MailExchange.Proofs.Transfer.Unsendable
import MailExchange.Proofs.Transfer.Wording
import MailExchange.Relay.Relayer

/-!
Whether a bounce can be transferred. It is always on lines that are read as its commands, but its
body holds all that the report has to say, on one line that may be too long for that.
-/

namespace MailExchange

open Text (TextSet)
open Transfer (Client.commands Client.deliver Command Session)
open Wire (Fits Legible Live Peer Plain Tells lineBytes)

/-- States that a network keeps to, and in which it reports errors on one line. -/
structure Network.Calm {ν : Type} [Network ν] (calm : ν → Prop) : Prop extends Legible calm where
  dial : ∀ network timeout address, calm network → calm (Network.dial network timeout address).2
  dial_error : ∀ network timeout address error, calm network →
    (Network.dial network timeout address).1 = .error error → error.OneLine
  hangUp : ∀ network : ν, calm network → calm (Network.hangUp network)

structure Network.Recorded.OneLine (recorded : Recorded) : Prop where
  recordings : ∀ recording ∈ recorded.recordings, ∀ error,
    recording.failure? = some error ∨ recording.ended? = some error → error.OneLine
  ended : ∀ error, recorded.ended? = some error → error.OneLine

theorem Network.Recorded.calm : Network.Calm Recorded.OneLine where
  hear recorded bytes here := ⟨here.recordings, here.ended⟩
  hear_error recorded bytes error here failed := nomatch failed
  ending recorded here := by
    change (Recorded.ending recorded).2.OneLine
    rw [Recorded.ending]
    cases recorded.ended? with
    | none => exact ⟨here.recordings, here.ended⟩
    | some error => exact here
  ending_error recorded here := by
    change (Recorded.ending recorded).1.OneLine
    rw [Recorded.ending]
    cases ended : recorded.ended? with
    | none => exact (by decide : '\n' ∉ Error.unexpectedEof.message.toList)
    | some error => exact here.ended error ended
  dial recorded timeout address here := by
    change (Recorded.dial recorded timeout address).2.OneLine
    rw [Recorded.dial]
    cases found : recorded.recordings with
    | nil => exact ⟨here.recordings, here.ended⟩
    | cons recording others =>
        have all := here.recordings
        rw [found, List.forall_mem_cons] at all
        dsimp only
        cases recording.failure? <;> exact ⟨all.2, fun error ended => all.1 error (.inr ended)⟩
  dial_error recorded timeout address error here failed := by
    change (Recorded.dial recorded timeout address).1 = _ at failed
    rw [Recorded.dial] at failed
    cases found : recorded.recordings with
    | nil =>
        rw [found] at failed
        cases failed
        exact (by decide : '\n' ∉ Error.unexpectedEof.message.toList)
    | cons recording others =>
        have this_one := here.recordings recording (by rw [found]; exact List.mem_cons_self) error
        cases failure : recording.failure? with
        | none =>
            simp only [found, failure] at failed
            cases failed
        | some other =>
            simp only [found, failure] at failed
            cases failed
            exact this_one (.inl failure)
  hangUp recorded here := ⟨here.recordings, nofun⟩

namespace Relay

section Attempts

variable {ν : Type} [Network ν] {calm : ν → Prop} {settings : Settings} {mail : Mail} {network : ν}

theorem transfer_tells (tells : Network.Calm calm) (target : String) (here : calm network) :
    calm (transfer settings mail target network).2 ∧ ∀ domain recipients error,
      (Attempt.mk domain recipients (transfer settings mail target network).1).failure? =
        some error → error.OneLine := by
  rcases dialled : Network.dial network settings.timeout target with ⟨result, after⟩
  have kept := tells.dial network settings.timeout target here
  rw [dialled] at kept
  cases result with
  | error error =>
      rw [transfer_unreached dialled]
      refine ⟨kept, fun domain recipients other failed => ?_⟩
      rw [← Option.some.inj failed]
      exact tells.dial_error network settings.timeout target error here (by rw [dialled])
  | ok greeting =>
      have plain : Plain calm (opened target greeting after) := ⟨rfl, kept⟩
      obtain ⟨still_plain, told⟩ := Transfer.Client.deliver_tells tells.toLegible mail plain
      rw [transfer_opened dialled]
      refine ⟨tells.hangUp _ still_plain.calm, fun domain recipients error failed => ?_⟩
      rcases delivered : (Transfer.Client.deliver mail (opened target greeting after)).1 with
        ⟨result, refused⟩
      rw [delivered] at told failed
      cases result with
      | error other =>
          rw [← Option.some.inj failed]
          exact told
      | ok value => cases failed

theorem attemptAllBy_tells (tells : Network.Calm calm) (resolve : String → Option String)
    (groups : List (String × List String)) (here : calm network) :
    ∀ attempt ∈ (attemptAllBy resolve settings mail groups network).1, ∀ error,
      attempt.failure? = some error → error.OneLine := by
  induction groups generalizing network with
  | nil => exact fun attempt member => absurd member List.not_mem_nil
  | cons group groups ih =>
      have first : calm (attemptBy resolve settings mail group network).2 ∧ ∀ error,
          (attemptBy resolve settings mail group network).1.failure? = some error →
            error.OneLine := by
        cases known : resolve group.1 with
        | none =>
            simp only [attemptBy, known]
            exact ⟨here, fun error failed => by cases failed⟩
        | some target =>
            simp only [attemptBy, known]
            obtain ⟨kept, told⟩ := transfer_tells tells target here
            exact ⟨kept, told group.1 group.2⟩
      intro attempt member
      simp only [attemptAllBy, List.mem_cons] at member
      rcases member with rfl | later
      · exact first.2
      · exact ih first.1 attempt later

end Attempts

namespace Report

theorem part_one_line {title separator : String} {entries : TextSet}
    (title_one_line : '\n' ∉ title.toList) (separator_one_line : '\n' ∉ separator.toList)
    (entries_one_line : ∀ entry ∈ entries, '\n' ∉ entry.toList) :
    ∀ sentence ∈ part title separator entries, '\n' ∉ sentence.toList := by
  intro sentence member
  rw [part] at member
  split at member
  · cases member
  · rw [List.mem_singleton.mp member]
    exact Text.append_free.mpr ⟨Text.append_free.mpr ⟨title_one_line, by decide⟩,
      Text.join_free separator_one_line entries_one_line⟩

theorem text_one_line {report : Report}
    (one_line : ∀ entry, entry ∈ report.unknown ∨ entry ∈ report.errors ∨ entry ∈ report.failed →
      '\n' ∉ entry.toList) : '\n' ∉ report.text.toList := by
  apply Text.join_free (by decide)
  intro sentence member
  rcases List.mem_append.mp member with member | failed
  · rcases List.mem_append.mp member with unknown | errors
    · exact part_one_line (by decide) (by decide)
        (fun entry named => one_line entry (.inl named)) sentence unknown
    · exact part_one_line (by decide) (by decide)
        (fun entry named => one_line entry (.inr (.inl named))) sentence errors
  · exact part_one_line (by decide) (by decide)
      (fun entry named => one_line entry (.inr (.inr named))) sentence failed

theorem part_ends (title separator : String) {entries : TextSet} (some_entry : entries ≠ []) :
    ∃ entry ∈ entries, ∃ start, part title separator entries = [start ++ entry] := by
  obtain ⟨before, last, split⟩ := (List.eq_nil_or_concat entries).resolve_left some_entry
  obtain ⟨start, joined⟩ : ∃ start, Text.join separator (before ++ [last]) = start ++ last :=
    Text.join_ends before last
  have filled : entries.isEmpty = false := List.isEmpty_eq_false_iff.mpr some_entry
  rw [List.concat_eq_append] at split
  refine ⟨last, ?_, title ++ ": " ++ start, ?_⟩
  · rw [split]
    exact List.mem_append_right before (List.mem_singleton_self last)
  · rw [part, filled, if_neg Bool.false_ne_true, split, joined]
    simp only [String.append_assoc]

/-- A report that has a failed recipient for each error ends with a recipient. -/
theorem text_ends {report : Report} (unclean : report.isClean = false)
    (failed : report.errors ≠ [] → report.failed ≠ []) :
    ∃ recipient, (recipient ∈ report.unknown ∨ recipient ∈ report.failed) ∧
      ∃ start, report.text = start ++ recipient := by
  by_cases nobody : report.failed = []
  · have no_error : report.errors = [] := by
      by_contra some_error
      exact failed some_error nobody
    have some_unknown : report.unknown ≠ [] := by
      intro empty
      rw [isClean, empty, no_error, nobody] at unclean
      cases unclean
    obtain ⟨entry, member, start, ends⟩ := part_ends "unknown recipients" ", " some_unknown
    refine ⟨entry, .inl member, start, ?_⟩
    rw [text, ends, no_error, nobody]
    exact String.intercalate_singleton
  · obtain ⟨entry, member, start, ends⟩ := part_ends "delivery not confirmed for" ", " nobody
    let before := part "unknown recipients" ", " report.unknown ++ part "errors" " - " report.errors
    obtain ⟨first, joined⟩ : ∃ first, Text.join ". " (before ++ [start ++ entry]) =
      first ++ (start ++ entry) := Text.join_ends before (start ++ entry)
    refine ⟨entry, .inr member, first ++ start, ?_⟩
    rw [text, ends, joined, String.append_assoc]

end Report

section Reports

variable {ν : Type} [Network ν] {calm : ν → Prop} {settings : Settings} {mail : Mail} {network : ν}
  {attempt : Attempt} {entry : String}

theorem relay_report (settings : Settings) (mail : Mail) (network : ν) :
    (relay settings mail network).1 = .ofAttempts (Address.withRoute none mail.recipients)
      (attemptsBy settings.resolver.resolve? settings mail network).1 := by
  rw [relay_by, relayBy_report]

theorem attempt_recipients
    (present : attempt ∈ (attemptsBy settings.resolver.resolve? settings mail network).1) :
    attempt.recipients ⊆ mail.recipients := by
  intro recipient member
  rw [(attempt_group _ settings mail network present).2] at member
  exact (Address.mem_withRoute.mp member).1

theorem report_recipients (named : entry ∈ (relay settings mail network).1.unknown ∨
    entry ∈ (relay settings mail network).1.failed) : entry ∈ mail.recipients := by
  rw [relay_report] at named
  rcases named with unknown | failed
  · rcases Report.mem_unknown.mp unknown with invalid | ⟨attempt, present, member⟩
    · exact (Address.mem_withRoute.mp invalid).1
    · exact attempt_recipients present (Attempt.unknown_subset attempt member)
  · obtain ⟨attempt, present, _, member⟩ := Report.mem_failed.mp failed
    exact attempt_recipients present member

theorem report_errors (tells : Network.Calm calm) (here : calm network)
    (named : entry ∈ (relay settings mail network).1.errors) : '\n' ∉ entry.toList := by
  rw [relay_report] at named
  obtain ⟨attempt, present, said⟩ := Report.mem_errors.mp named
  obtain ⟨listed, _⟩ := attempt_group _ settings mail network present
  obtain ⟨recipient, _, routed⟩ := Address.mem_domains.mp listed
  have domain : '\n' ∉ attempt.domain.toList := Address.route_free routed (by decide) (by decide)
  rcases Attempt.error_some.mp said with ⟨_, rfl⟩ | ⟨error, failed, rfl⟩
  · exact Text.append_free.mpr ⟨by decide, domain⟩
  · have told := attemptAllBy_tells tells settings.resolver.resolve? _ here attempt present
    exact Text.append_free.mpr ⟨Text.append_free.mpr ⟨domain, by decide⟩, told error failed⟩

theorem report_failed (some_error : (relay settings mail network).1.errors ≠ []) :
    (relay settings mail network).1.failed ≠ [] := by
  rw [relay_report] at some_error ⊢
  obtain ⟨text, named⟩ := List.exists_mem_of_ne_nil _ some_error
  obtain ⟨attempt, present, said⟩ := Report.mem_errors.mp named
  obtain ⟨listed, recipients⟩ := attempt_group _ settings mail network present
  obtain ⟨recipient, member, routed⟩ := Address.mem_domains.mp listed
  have failed : recipient ∈ attempt.recipients := by
    rw [recipients]
    exact Address.mem_withRoute.mpr ⟨member, routed⟩
  apply List.ne_nil_of_mem (a := recipient)
  have unconfirmed : attempt.error? ≠ none := by
    rw [said]
    exact Option.some_ne_none text
  exact Report.mem_failed.mpr ⟨attempt, present, unconfirmed, failed⟩

theorem report_one_line (tells : Network.Calm calm) (here : calm network) (sound : mail.Sound) :
    '\n' ∉ (relay settings mail network).1.text.toList := by
  have recipients := sound.presentable.one_line.2.1
  apply Report.text_one_line
  rintro entry (unknown | error | failed)
  · exact recipients entry (report_recipients (.inl unknown))
  · exact report_errors tells here error
  · exact recipients entry (report_recipients (.inr failed))

theorem report_plain (sound : mail.Sound)
    (unclean : (relay settings mail network).1.isClean = false) :
    (relay settings mail network).1.text.toList.getLast? ≠ some '\r' := by
  obtain ⟨recipient, named, start, ends⟩ := Report.text_ends unclean report_failed
  have valid := sound.presentable.recipients recipient (report_recipients named)
  have free : '\r' ∉ recipient.toList := Address.valid_free valid (by decide) (by decide)
  rw [ends, String.toList_append, List.getLast?_append_of_ne_nil]
  · exact fun last => free (List.mem_of_getLast? last)
  · exact fun empty => Address.valid_ne_empty valid (String.toList_eq_nil_iff.mp empty)

end Reports

section Bounces

variable {settings : Settings} {mail bounce : Mail} {report : Report}

/-- How many bytes of text fit on the line of a sender, or on that of a body. -/
def lineRoom : Nat := 65530

theorem start_fits {start value : String} (one_line : '\n' ∉ (start ++ value).toList) :
    Fits (start ++ value) ↔
      (Text.utf8 start).length + (Text.utf8 value).length + 1 ≤ Wire.maxLine := by
  rw [← Wire.lineBytes_append]
  exact ⟨Fits.short, fun short => ⟨one_line, short⟩⟩

theorem bounce_presentable (valid : Address.isValid settings.bounceSender = true)
    (sound : mail.Sound) (one_line : '\n' ∉ report.text.toList)
    (due : settings.bounceFor mail report = some bounce) : bounce.Presentable := by
  obtain ⟨_, rfl⟩ := Settings.bounceFor_some.mp due
  have sender := sound.presentable.sender
  have free {address : String} (valid : Address.isValid address = true) : '\n' ∉ address.toList :=
    Address.valid_free valid (by decide) (by decide)
  have subject : '\n' ∉ ("Undeliverable mail" : String).toList := by decide
  exact ⟨valid, List.cons_ne_nil _ _, List.forall_mem_singleton.mpr sender, free valid,
    List.forall_mem_singleton.mpr (free sender), subject, one_line, nofun⟩

theorem bounce_fits (presentable : bounce.Presentable) (sound : mail.Sound)
    (due : settings.bounceFor mail report = some bounce) :
    (∀ command ∈ Client.commands bounce, Fits command.line) ↔
      (Text.utf8 settings.bounceSender).length ≤ lineRoom ∧
        (Text.utf8 report.text).length ≤ lineRoom := by
  obtain ⟨_, rfl⟩ := Settings.bounceFor_some.mp due
  have formed := Transfer.Client.commands_formed presentable nofun
  have commands : Client.commands ⟨settings.bounceSender, [mail.sender], "Undeliverable mail",
      report.text, none⟩ = [.recipients [mail.sender], .sender settings.bounceSender,
        .subject "Undeliverable mail", .body report.text, .send] := rfl
  have to_size : (Text.utf8 "to ").length = 3 := by decide
  have from_size : (Text.utf8 "from ").length = 5 := by decide
  have data_size : (Text.utf8 "data ").length = 5 := by decide
  rw [commands] at formed ⊢
  simp only [List.forall_mem_cons, List.not_mem_nil, false_implies, implies_true, and_true]
    at formed ⊢
  obtain ⟨⟨_, to_line⟩, ⟨_, from_line⟩, _, ⟨_, data_line⟩, _⟩ := formed
  have alone : Text.join "," [mail.sender] = mail.sender := String.intercalate_singleton
  have to_fits : Fits (Command.recipients [mail.sender]).line := by
    have here := (sound.sender mail.sender rfl).2.fits
    rw [Command.line, start_fits here.one_line, from_size] at here
    rw [Command.line, start_fits to_line, to_size, alone]
    omega
  have subject_fits : Fits (Command.subject "Undeliverable mail").line := ⟨by decide, by decide⟩
  have from_fits : Fits (Command.sender settings.bounceSender).line ↔
      (Text.utf8 settings.bounceSender).length ≤ lineRoom := by
    rw [Command.line, start_fits from_line, from_size, Wire.maxLine, lineRoom]
    omega
  have data_fits : Fits (Command.body report.text).line ↔
      (Text.utf8 report.text).length ≤ lineRoom := by
    rw [Command.line, start_fits data_line, data_size, Wire.maxLine, lineRoom]
    omega
  rw [from_fits, data_fits]
  constructor
  · rintro ⟨_, sender, _, text, _⟩
    exact ⟨sender, text⟩
  · rintro ⟨sender, text⟩
    exact ⟨to_fits, sender, subject_fits, text, Transfer.send_carried.fits⟩

theorem bounce_clean {κ : Type} [Consumer κ] {consumer : κ} (presentable : bounce.Presentable)
    (plain : report.text.toList.getLast? ≠ some '\r')
    (due : settings.bounceFor mail report = some bounce)
    (fits : ∀ command ∈ Client.commands bounce, Fits command.line)
    (accepted : Consumer.accepts consumer mail.sender = true) :
    Transfer.WireClean consumer bounce := by
  obtain ⟨_, rfl⟩ := Settings.bounceFor_some.mp due
  have admitted : Transfer.Desk.admission consumer [mail.sender] = "ok 1" := by
    rw [Transfer.Desk.admission, List.filter_cons_of_neg (by simp [accepted]), List.filter_nil,
      if_pos rfl, List.length_singleton]
    decide
  have subject_plain : ("Undeliverable mail" : String).toList.getLast? ≠ some '\r' := by decide
  refine ⟨⟨presentable.sender, presentable.some_recipient, presentable.recipients,
    presentable.one_line.2.2.1, presentable.one_line.2.2.2.1, nofun,
    fun command member => (fits command member).short, ?_⟩, subject_plain, plain⟩
  rw [admitted]
  decide

/-- What becomes of a bounce for a mail that was handed over, when it is transferred to whoever
takes mail for its sender. All its lines are read as the commands that they were written for. If they
fit, it is taken as it is; otherwise the transfer fails, and nothing is taken. -/
theorem bounce_transferred {ν : Type} [Network ν] {calm : ν → Prop} (tells : Network.Calm calm)
    {settings : Settings} (valid : Address.isValid settings.bounceSender = true)
    {mail bounce : Mail} (handed : mail.Handed) {network : ν} (here : calm network)
    (due : settings.bounceFor mail (relay settings mail network).1 = some bounce) :
    (∀ command ∈ Client.commands bounce, '\n' ∉ command.line.toList ∧
      Command.parse? command.line = some command) ∧
    ((∀ command ∈ Client.commands bounce, Fits command.line) ↔
      (Text.utf8 settings.bounceSender).length ≤ lineRoom ∧
        (Text.utf8 bounce.body).length ≤ lineRoom) ∧
    ∀ {κ : Type} [Consumer κ] (label client_label : LogPrefix) (consumer : κ),
      Consumer.accepts consumer mail.sender = true →
      (Consumer.consume consumer bounce).1 = .ok () →
      ∃ result refused closed, Client.deliver bounce
          (Live.connect client_label (Session.greet label consumer)) =
            (⟨result, refused⟩, closed) ∧
        ((∀ command ∈ Client.commands bounce, Fits command.line) → result = .ok () ∧
          closed.peer.hangUp.desk.consumer = (Consumer.consume consumer bounce).2) ∧
        ((¬ ∀ command ∈ Client.commands bounce, Fits command.line) →
          (∃ error, result = .error error) ∧ closed.peer.hangUp.desk.consumer = consumer) := by
  have sound := handed.sound
  have one_line : '\n' ∉ (relay settings mail network).1.text.toList :=
    report_one_line tells here sound
  have presentable := bounce_presentable valid sound one_line due
  obtain ⟨⟨unclean, _⟩, parts⟩ := Settings.bounceFor_some.mp due
  have untagged : bounce.tag = none := by rw [parts]
  have formed := Transfer.Client.commands_formed presentable fun text tag => by
    rw [untagged] at tag
    cases tag
  have body : bounce.body = (relay settings mail network).1.text := by rw [parts]
  refine ⟨fun command member => ?_, ?_, fun label client_label consumer accepted taken => ?_⟩
  · obtain ⟨well_formed, line⟩ := formed command member
    exact ⟨line, Command.parse_line well_formed⟩
  · rw [body]
    exact bounce_fits presentable sound due
  · by_cases fits : ∀ command ∈ Client.commands bounce, Fits command.line
    · have clean : Transfer.WireClean consumer bounce :=
        bounce_clean presentable (report_plain sound unclean) due fits accepted
      obtain ⟨refused, closed, delivered, left⟩ :=
        Transfer.Client.deliver_taken label client_label clean taken
      exact ⟨.ok (), refused, closed, delivered, fun _ => ⟨rfl, left⟩,
        fun unfit => absurd fits unfit⟩
    · have unfit : ∃ command ∈ Client.commands bounce, ¬ Fits command.line := by
        simpa only [not_forall, exists_prop] using fits
      obtain ⟨error, refused, closed, delivered, left⟩ :=
        Transfer.Client.deliver_unfit label client_label consumer unfit
      exact ⟨.error error, refused, closed, delivered, fun fit => absurd fit fits,
        fun _ => ⟨⟨error, rfl⟩, left⟩⟩

end Bounces

def longName : String := Text.filler 65522

def longAddress : String := longName ++ "@" ++ "moon.base"

def complaint : Mail := ⟨"zim@irk.planet", [longAddress], "doom", "soon", none⟩

def irkSettings : Settings := ⟨.ofPairs [("irk.planet", "irk:1")], "postmaster@earth.planet", 30⟩

def irkDelivery : Delivery := ⟨.ofDomain "irk.planet" [("zim", "doom")], {}⟩

theorem longAddress_parse : Address.parse? longAddress = some ⟨longName, "moon.base"⟩ := by
  have plain : ∀ c ∈ longName.toList, Address.isPlain c = true := by
    intro c member
    rw [Text.mem_filler member]
    decide
  have some_char : longName ≠ "" := by
    intro empty
    have size := Text.utf8_filler 65522
    rw [← longName, empty] at size
    cases size
  exact Address.parse_made some_char plain (by decide) (by decide)

theorem longAddress_length : longAddress.toList.length = 65532 := by
  have name : longName.toList.length = 65522 := by
    rw [longName, Text.filler, String.toList_ofList, List.length_replicate]
  have rest : ("@" : String).toList.length = 1 ∧ ("moon.base" : String).toList.length = 9 := by
    decide
  rw [longAddress, String.toList_append, String.toList_append, List.length_append,
    List.length_append, name, rest.1, rest.2]

theorem longAddress_size : (Text.utf8 longAddress).length = 65532 := by
  have name : (Text.utf8 longName).length = 65522 := Text.utf8_filler 65522
  have rest : (Text.utf8 "@").length = 1 ∧ (Text.utf8 "moon.base").length = 9 := by decide
  rw [longAddress, Text.utf8_append, Text.utf8_append, List.length_append, List.length_append,
    name, rest.1, rest.2]

theorem complaint_handed : complaint.Handed := by
  have valid : Address.isValid longAddress = true := by
    rw [Address.isValid, longAddress_parse]
    rfl
  have alone : Text.join "," [longAddress] = longAddress := String.intercalate_singleton
  have to_size : (Text.utf8 "to ").length = 3 := by decide
  have to_short :
      (lineBytes (Command.recipients [longAddress]).line).length ≤ Wire.maxLine := by
    rw [Command.line, Wire.lineBytes_append, alone, longAddress_size, to_size]
    decide
  have clean : Transfer.WireClean ({} : Queue) complaint := by
    refine ⟨⟨?_, List.cons_ne_nil _ _, List.forall_mem_singleton.mpr valid, ?_, ?_, ?_, ?_, ?_⟩,
      ?_, ?_⟩
    · exact (by decide : Address.isValid "zim@irk.planet" = true)
    · exact (by decide : '\n' ∉ ("doom" : String).toList)
    · exact (by decide : '\n' ∉ ("soon" : String).toList)
    · intro text tag
      cases tag
    · have commands : Client.commands complaint = [.recipients [longAddress],
        .sender "zim@irk.planet", .subject "doom", .body "soon", .send] := rfl
      rw [commands]
      simp only [List.forall_mem_cons, List.not_mem_nil, false_implies, implies_true, and_true]
      exact ⟨to_short, by decide, by decide, by decide, by decide⟩
    · have admitted : Transfer.Desk.admission ({} : Queue) complaint.recipients = "ok 1" := rfl
      rw [admitted]
      decide
    · exact (by decide : ("doom" : String).toList.getLast? ≠ some '\r')
    · exact (by decide : ("soon" : String).toList.getLast? ≠ some '\r')
  exact clean.handed

theorem complaint_untransferred : ∃ bounce,
    irkSettings.bounceFor complaint
      (relay irkSettings complaint ({ recordings := [] } : Network.Recorded)).1 = some bounce ∧
    ∃ error refused closed, Client.deliver bounce (Live.connect (.ofProtocol "DMTP")
        (Session.greet (.ofProtocol "DMTP") irkDelivery)) = (⟨.error error, refused⟩, closed) ∧
      closed.peer.hangUp.desk.consumer = irkDelivery := by
  let network : Network.Recorded := { recordings := [] }
  have here : network.OneLine := by
    refine ⟨fun _ member => absurd member List.not_mem_nil, ?_⟩
    intro error ended
    cases ended
  have routed : Address.route? longAddress = some "moon.base" := by
    rw [Address.route?, Address.domain?, longAddress_parse]
    decide +kernel
  have unresolved : irkSettings.resolver.resolve? "moon.base" = none := by decide +kernel
  have only : complaint.recipients = [longAddress] := rfl
  have report := relay_nowhere only routed unresolved network
  have failed : longAddress ∈ (relay irkSettings complaint network).1.failed := by
    rw [report]
    exact Report.mem_failed.mpr
      ⟨_, List.mem_singleton_self _, Option.some_ne_none _, List.mem_singleton_self _⟩
  have unclean : (relay irkSettings complaint network).1.isClean = false := by
    apply Bool.eq_false_of_not_eq_true
    intro clean
    rw [(Report.isClean_empty clean).2.2] at failed
    cases failed
  have other : Text.sameIgnoringAsciiCase "zim@irk.planet" irkSettings.bounceSender = false := by
    decide +kernel
  have reachable : ((Address.domain? "zim@irk.planet").bind
      irkSettings.resolver.resolve?).isSome = true := by
    decide +kernel
  obtain ⟨bounce, due⟩ : ∃ bounce,
      irkSettings.bounceFor complaint (relay irkSettings complaint network).1 = some bounce :=
    Option.isSome_iff_exists.mp (Settings.bounceFor_isSome.mpr ⟨unclean, other, reachable⟩)
  have body : bounce.body = (relay irkSettings complaint network).1.text := by
    rw [(Settings.bounceFor_some.mp due).2]
  obtain ⟨_, fits, transferred⟩ := bounce_transferred Network.Recorded.calm
    (by decide : Address.isValid irkSettings.bounceSender = true) complaint_handed here due
  have long : ¬ ∀ command ∈ Client.commands bounce, Fits command.line := by
    intro all
    have short := (fits.mp all).2
    have within := (Report.infix_text (.inr (.inr failed))).length_le
    have size := Text.length_le_utf8 (relay irkSettings complaint network).1.text
    rw [longAddress_length, String.length_toList] at within
    rw [body, lineRoom] at short
    omega
  have known : Consumer.accepts irkDelivery complaint.sender = true := by decide
  obtain ⟨_, refused, closed, delivered, _, unfit⟩ :=
    transferred (.ofProtocol "DMTP") (.ofProtocol "DMTP") irkDelivery known rfl
  obtain ⟨⟨error, rfl⟩, left⟩ := unfit long
  exact ⟨bounce, due, error, refused, closed, delivered, left⟩

end Relay

end MailExchange
