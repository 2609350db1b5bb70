import MailExchange.Proofs.Address
import MailExchange.Proofs.Relay.Accounting
import MailExchange.Proofs.Text.Lowercase
import MailExchange.Proofs.Text.Split

/-!
What a failed relay leads to: one bounce to the sender or none, and nothing after that. A bounce is made
only where the relay that follows finds a server for it: both look a domain up by its lower case, and to
lower-case it twice comes to the same.
-/

namespace MailExchange

theorem Resolver.resolve_lowercase (resolver : Resolver) (domain : String) :
    resolver.resolve? (Text.lowercase domain) = resolver.resolve? domain := by
  rw [resolve?, resolve?, Text.lowercase_twice]

theorem Address.route_free {address route : String} (routed : route? address = some route) {c : Char}
    (special : isPlain c = false) (small : c.toNat < 0x41) : c ∉ route.toList := by
  obtain ⟨spelled, found, rfl⟩ := Option.map_eq_some_iff.mp routed
  obtain ⟨parsed, parts, rfl⟩ := Option.map_eq_some_iff.mp found
  intro member
  have inside : c ∈ parsed.domain.toList := Text.lowercase_small_mem member small
  rw [(parse_parts parts).2.2.2 c inside] at special
  cases special

theorem Address.group_alone {recipient route : String} (routed : route? recipient = some route) :
    groupByDomain [recipient] = ⟨[(route, [recipient])], []⟩ := by
  rw [groupByDomain, List.foldl_cons, List.foldl_nil, Routing.add, routed]
  rfl

theorem Address.route_unspaced {address route : String} (routed : route? address = some route) :
    ' ' ∉ route.toList := route_free routed (by decide) (by decide)

namespace Relay

/-- A failure is not taken for a domain that is not known: its first blank stands after a colon. -/
theorem Attempt.failure_ne_unknownDomain {domain : String} (unspaced : ' ' ∉ domain.toList)
    (other : String) (error : Error) : failure domain error ≠ unknownDomain other := by
  intro same
  have failed : (failure domain error).toList =
      (domain.toList ++ [':']) ++ ' ' :: error.message.toList := by
    simp only [failure, String.toList_append, List.append_assoc]
    rfl
  have unknown : (unknownDomain other).toList = "unknown".toList ++ ' ' :: "domain ".toList ++
      other.toList := String.toList_append
  have free : ' ' ∉ domain.toList ++ [':'] := by
    rw [List.mem_append, not_or]
    exact ⟨unspaced, by decide⟩
  have first : domain.toList ++ [':'] = "unknown".toList := by
    calc domain.toList ++ [':']
      _ = (failure domain error).toList.takeWhile (· != ' ') := by
          rw [failed, Text.takeWhile_before free]
      _ = ("unknown".toList ++ ' ' :: ("domain ".toList ++ other.toList)).takeWhile (· != ' ') := by
          rw [same, unknown, List.append_assoc, List.cons_append]
      _ = "unknown".toList := Text.takeWhile_before (by decide) _
  have colon : ':' ∈ "unknown".toList := by
    rw [← first]
    exact List.mem_append_right _ (List.mem_singleton_self ':')
  exact absurd colon (by decide)

namespace Report

open Text (TextSet)

theorem infix_part {title separator entry : String} {entries : TextSet}
    (member : entry ∈ entries) :
    ∃ sentence ∈ part title separator entries, entry.toList <:+: sentence.toList := by
  have some_entry : entries.isEmpty = false :=
    List.isEmpty_eq_false_iff.mpr (List.ne_nil_of_mem member)
  refine ⟨title ++ ": " ++ Text.join separator entries, ?_, ?_⟩
  · rw [part, some_entry]
    exact List.mem_singleton_self _
  · rw [String.toList_append]
    exact (Text.infix_join member).trans (List.suffix_append _ _).isInfix

theorem infix_text {report : Report} {entry : String}
    (named : entry ∈ report.unknown ∨ entry ∈ report.errors ∨ entry ∈ report.failed) :
    entry.toList <:+: report.text.toList := by
  have whole {sentence : String}
      (present : sentence ∈ part "unknown recipients" ", " report.unknown ++
        part "errors" " - " report.errors ++
          part "delivery not confirmed for" ", " report.failed)
      (within : entry.toList <:+: sentence.toList) : entry.toList <:+: report.text.toList :=
    within.trans (Text.infix_join present)
  rcases named with unknown | error | failed
  · obtain ⟨sentence, present, within⟩ := infix_part unknown
    exact whole (List.mem_append_left _ (List.mem_append_left _ present)) within
  · obtain ⟨sentence, present, within⟩ := infix_part error
    exact whole (List.mem_append_left _ (List.mem_append_right _ present)) within
  · obtain ⟨sentence, present, within⟩ := infix_part failed
    exact whole (List.mem_append_right _ present) within

end Report

namespace Settings

variable {settings : Settings} {mail : Mail} {report : Report}

def senderTarget? (settings : Settings) (mail : Mail) : Option String :=
  (Address.domain? mail.sender).bind settings.resolver.resolve?

/-- The domain of the sender is looked up as it is spelled, or as mail is routed by it. -/
theorem senderTarget_route (settings : Settings) (mail : Mail) :
    settings.senderTarget? mail = mail.senderDomain.bind settings.resolver.resolve? := by
  rw [senderTarget?, Mail.senderDomain, Address.route?]
  cases Address.domain? mail.sender with
  | none => rfl
  | some domain => exact (settings.resolver.resolve_lowercase domain).symm

theorem isRoutable_iff :
    settings.isRoutable mail = true ↔ (settings.senderTarget? mail).isSome = true := by
  rw [isRoutable, senderTarget_route]
  cases mail.senderDomain <;> rfl

theorem bounceFor_some {bounce : Mail} :
    settings.bounceFor mail report = some bounce ↔
      (report.isClean = false ∧
        Text.sameIgnoringAsciiCase mail.sender settings.bounceSender = false ∧
          (settings.senderTarget? mail).isSome = true) ∧
      bounce = ⟨settings.bounceSender, [mail.sender], "Undeliverable mail", report.text, none⟩ := by
  rw [bounceFor, ← isRoutable_iff]
  cases report.isClean <;>
    cases Text.sameIgnoringAsciiCase mail.sender settings.bounceSender <;>
      cases settings.isRoutable mail <;> simp [eq_comm]

theorem bounceFor_isSome :
    (settings.bounceFor mail report).isSome = true ↔ report.isClean = false ∧
      Text.sameIgnoringAsciiCase mail.sender settings.bounceSender = false ∧
        (settings.senderTarget? mail).isSome = true := by
  rw [Option.isSome_iff_exists]
  constructor
  · rintro ⟨bounce, found⟩
    exact (bounceFor_some.mp found).1
  · intro due
    exact ⟨_, bounceFor_some.mpr ⟨due, rfl⟩⟩

theorem bounceFor_bounce (own : mail.sender = settings.bounceSender) (report : Report) :
    settings.bounceFor mail report = none := by
  have same : Text.sameIgnoringAsciiCase mail.sender settings.bounceSender = true := by
    rw [own, Text.sameIgnoringAsciiCase, beq_self_eq_true]
  rw [bounceFor, same, Bool.or_true, Bool.true_or, if_pos rfl]

end Settings

section Processing

variable {ν : Type} [Network ν] {settings : Settings} {mail : Mail}

theorem relay_alone {recipient route target : String} (only : mail.recipients = [recipient])
    (routed : Address.route? recipient = some route)
    (resolved : settings.resolver.resolve? route = some target) (network : ν) :
    relay settings mail network =
      (.ofAttempts [] [⟨route, [recipient], (transfer settings mail target network).1⟩],
        (transfer settings mail target network).2) := by
  simp only [relay, attempts, only, Address.group_alone routed, attemptAll, attempt, resolved]

theorem relay_nowhere {recipient route : String} (only : mail.recipients = [recipient])
    (routed : Address.route? recipient = some route)
    (unresolved : settings.resolver.resolve? route = none) (network : ν) :
    relay settings mail network =
      (.ofAttempts [] [⟨route, [recipient], .unresolved⟩], network) := by
  simp only [relay, attempts, only, Address.group_alone routed, attemptAll, attempt, unresolved]

theorem relay_logged (settings : Settings) (mail : Mail) (network : ν) (dials : List String) :
    relay settings mail (Logged.mk network dials) =
      ((relay settings mail network).1, ⟨(relay settings mail network).2,
        dials ++ (Address.domains mail.recipients).filterMap settings.resolver.resolve?⟩) := by
  rw [relay_by, relay_by, relayBy_logged]

theorem process_unbounced {network : ν}
    (none_due : settings.bounceFor mail (relay settings mail network).1 = none) :
    process settings mail network =
      (⟨(relay settings mail network).1, none⟩, (relay settings mail network).2) := by
  simp only [process, none_due]

theorem process_bounced {network : ν} {bounce : Mail}
    (due : settings.bounceFor mail (relay settings mail network).1 = some bounce) :
    process settings mail network =
      (⟨(relay settings mail network).1,
        some (bounce, (relay settings bounce (relay settings mail network).2).1)⟩,
        (relay settings bounce (relay settings mail network).2).2) := by
  simp only [process, due]

theorem process_report (settings : Settings) (mail : Mail) (network : ν) :
    (process settings mail network).1.report = (relay settings mail network).1 := by
  cases due : settings.bounceFor mail (relay settings mail network).1 with
  | none => rw [process_unbounced due]
  | some bounce => rw [process_bounced due]

theorem process_bounce (settings : Settings) (mail : Mail) (network : ν) :
    (process settings mail network).1.bounce =
      (settings.bounceFor mail (relay settings mail network).1).map fun bounce =>
        (bounce, (relay settings bounce (relay settings mail network).2).1) := by
  cases due : settings.bounceFor mail (relay settings mail network).1 with
  | none =>
      rw [process_unbounced due]
      rfl
  | some bounce =>
      rw [process_bounced due]
      rfl

theorem process_bounce_some {network : ν} {bounce : Mail} {report : Report}
    (bounced : (process settings mail network).1.bounce = some (bounce, report)) :
    settings.bounceFor mail (relay settings mail network).1 = some bounce ∧
      relay settings bounce (relay settings mail network).2 =
        (report, (process settings mail network).2) := by
  cases due : settings.bounceFor mail (relay settings mail network).1 with
  | none =>
      rw [process_unbounced due] at bounced
      cases bounced
  | some found =>
      rw [process_bounced due] at bounced ⊢
      cases bounced
      exact ⟨rfl, rfl⟩

theorem relay_bounce {report : Report} {bounce : Mail}
    (due : settings.bounceFor mail report = some bounce) (network : ν) :
    ∃ route target, Address.route? mail.sender = some route ∧
      settings.senderTarget? mail = some target ∧ relay settings bounce network =
        (.ofAttempts [] [⟨route, [mail.sender], (transfer settings bounce target network).1⟩],
          (transfer settings bounce target network).2) := by
  obtain ⟨⟨_, _, reachable⟩, rfl⟩ := Settings.bounceFor_some.mp due
  obtain ⟨target, found⟩ := Option.isSome_iff_exists.mp reachable
  rw [Settings.senderTarget_route, Mail.senderDomain] at found
  obtain ⟨route, routed, resolved⟩ := Option.bind_eq_some_iff.mp found
  refine ⟨route, target, routed, ?_, relay_alone rfl routed resolved network⟩
  rw [Settings.senderTarget_route, Mail.senderDomain, found]

/-- The report on a bounce names at most the sender, and no domain that is not known. -/
theorem report_bounce {bounce : Mail} {route target : String}
    (routed : Address.route? mail.sender = some route) (network : ν) :
    let report : Report :=
      .ofAttempts [] [⟨route, [mail.sender], (transfer settings bounce target network).1⟩]
    (∀ recipient ∈ report.unknown, recipient = mail.sender) ∧
      ∀ domain, "unknown domain " ++ domain ∉ report.errors := by
  constructor
  · intro recipient member
    rcases Report.mem_unknown.mp member with invalid | ⟨attempt, present, named⟩
    · cases invalid
    · rw [List.mem_singleton.mp present] at named
      exact List.mem_singleton.mp (Attempt.unknown_subset _ named)
  · intro domain member
    obtain ⟨attempt, present, error⟩ := Report.mem_errors.mp member
    rw [List.mem_singleton.mp present] at error
    rcases Attempt.error_some.mp error with ⟨unresolved, _⟩ | ⟨cause, _, same⟩
    · exact transfer_resolved target network unresolved
    · exact Attempt.failure_ne_unknownDomain (Address.route_unspaced routed) domain cause same.symm

theorem process_logged (settings : Settings) (mail : Mail) (network : ν) (dials : List String) :
    process settings mail (Logged.mk network dials) =
      ((process settings mail network).1, ⟨(process settings mail network).2,
        dials ++ (Address.domains mail.recipients).filterMap settings.resolver.resolve? ++
          ((process settings mail network).1.bounce.bind fun _ =>
            settings.senderTarget? mail).toList⟩) := by
  have first := relay_logged settings mail network dials
  cases due : settings.bounceFor mail (relay settings mail network).1 with
  | none =>
      rw [process_unbounced due, process_unbounced (by rw [first, due]), first]
      simp only [Option.bind_none, Option.toList_none, List.append_nil]
  | some bounce =>
      obtain ⟨route, target, routed, found, alone⟩ :=
        relay_bounce due (relay settings mail network).2
      have resolved : settings.resolver.resolve? route = some target := by
        rwa [Settings.senderTarget_route, Mail.senderDomain, routed, Option.bind_some] at found
      have domains : Address.domains bounce.recipients = [route] := by
        rw [(Settings.bounceFor_some.mp due).2, Address.domains,
          List.filterMap_cons_some routed]
        rfl
      rw [process_bounced due, process_bounced (by rw [first, due]), first, relay_logged, domains,
        List.filterMap_cons_some resolved, Option.bind_some, found]
      rfl

end Processing

/-- A mail is relayed once, and then at most a bounce is. It is made if the report is not clean, the
sender is not the one that bounces come from, and the sender has a domain whose server is known. It goes
to the sender alone and says all that the report says; one server is dialled for it, and its own report
names no domain that is not known and no recipient that is no address. Nothing follows it: not in this
run, and not if it were to be processed in turn. -/
theorem process_bounces {ν : Type} [Network ν] (settings : Settings) (mail : Mail) (network : ν) :
    let record := (process settings mail network).1
    let after := (process settings mail network).2
    let relayed := relay settings mail network
    record.report = relayed.1 ∧
    (record.bounce.isSome = true ↔ record.report.isClean = false ∧
      Text.sameIgnoringAsciiCase mail.sender settings.bounceSender = false ∧
        ∃ domain, Address.domain? mail.sender = some domain ∧
          (settings.resolver.resolve? domain).isSome = true) ∧
    (record.bounce = none → after = relayed.2) ∧
    (∀ bounce report, record.bounce = some (bounce, report) →
      relay settings bounce relayed.2 = (report, after) ∧
      bounce.sender = settings.bounceSender ∧ bounce.recipients = [mail.sender] ∧
      bounce.tag = none ∧
      (∀ entry, entry ∈ record.report.unknown ∨ entry ∈ record.report.errors ∨
        entry ∈ record.report.failed → entry.toList <:+: bounce.body.toList) ∧
      (∃ route target, Address.route? mail.sender = some route ∧
        settings.senderTarget? mail = some target ∧ report = .ofAttempts []
          [⟨route, [mail.sender], (transfer settings bounce target relayed.2).1⟩]) ∧
      (∀ recipient ∈ report.unknown, Address.isValid recipient = true) ∧
      (∀ domain, "unknown domain " ++ domain ∉ report.errors) ∧
      ∀ again : ν, (process settings bounce again).1.bounce = none) ∧
    ∀ dials, process settings mail (Logged.mk network dials) = (record, ⟨after,
      dials ++ (Address.domains mail.recipients).filterMap settings.resolver.resolve? ++
        (record.bounce.bind fun _ => settings.senderTarget? mail).toList⟩) := by
  intro record after relayed
  have same_report : record.report = relayed.1 := process_report settings mail network
  refine ⟨same_report, ?_, ?_, ?_, process_logged settings mail network⟩
  · have reachable : (settings.senderTarget? mail).isSome = true ↔
        ∃ domain, Address.domain? mail.sender = some domain ∧
          (settings.resolver.resolve? domain).isSome = true := by
      rw [Settings.senderTarget?, Option.isSome_bind, Option.any_eq_true]
    have due : record.bounce.isSome = (settings.bounceFor mail relayed.1).isSome :=
      (congrArg Option.isSome (process_bounce settings mail network)).trans Option.isSome_map
    rw [same_report, ← reachable, ← Settings.bounceFor_isSome, due]
  · intro unbounced
    rw [process_bounce, Option.map_eq_none_iff] at unbounced
    exact congrArg Prod.snd (process_unbounced unbounced)
  · intro bounce report bounced
    obtain ⟨due, relayed_bounce⟩ := process_bounce_some bounced
    obtain ⟨route, target, routed, found, alone⟩ := relay_bounce due relayed.2
    obtain ⟨rfl, _⟩ := Prod.mk.inj (relayed_bounce.symm.trans alone)
    obtain ⟨named, known⟩ := report_bounce routed relayed.2
    obtain ⟨_, parts⟩ := Settings.bounceFor_some.mp due
    refine ⟨relayed_bounce, by rw [parts], by rw [parts], by rw [parts], ?_,
      ⟨route, target, routed, found, rfl⟩, ?_, known, ?_⟩
    · intro entry present
      rw [same_report] at present
      rw [parts]
      exact Report.infix_text present
    · intro recipient member
      rw [named recipient member, ← Bool.not_eq_false, ← Address.route_none, routed]
      exact Option.some_ne_none route
    · intro again
      rw [process_bounce, Settings.bounceFor_bounce (by rw [parts]) _, Option.map_none]

theorem process_bounces_planets :
    let settings : Settings :=
      ⟨.ofPairs [("Irk.Planet", "irk:1")], "postmaster@earth.planet", 30⟩
    let mail : Mail := ⟨"zim@IRK.planet", ["gaz@earth.planet"], "doom", "soon", none⟩
    let network : Network.Recorded := { recordings := [{ failure? := some .unexpectedEof }] }
    (∃ bounce report, (process settings mail network).1.bounce = some (bounce, report) ∧
      bounce.recipients = ["zim@IRK.planet"] ∧
      "unknown domain earth.planet".toList <:+: bounce.body.toList ∧
      "unknown domain irk.planet" ∉ report.errors) ∧
    (process settings mail (Logged.mk network [])).2.dials = ["irk:1"] := by
  intro settings mail network
  obtain ⟨same_report, bounced, _, followed, logged⟩ := process_bounces settings mail network
  have report : (process settings mail network).1.report =
      ⟨[], ["unknown domain earth.planet"], ["gaz@earth.planet"]⟩ := by
    decide +kernel
  have due := bounced.mpr ⟨by rw [report]; decide, by decide +kernel, "IRK.planet",
    by decide +kernel, by decide +kernel⟩
  obtain ⟨⟨bounce, bounce_report⟩, found⟩ := Option.isSome_iff_exists.mp due
  obtain ⟨_, _, recipients, _, within, _, _, known, _⟩ := followed bounce bounce_report found
  refine ⟨⟨bounce, bounce_report, found, recipients, within _ (Or.inr (Or.inl ?_)),
    known "irk.planet"⟩, ?_⟩
  · rw [report]
    exact List.mem_singleton_self _
  · have dialled : [] ++ (Address.domains mail.recipients).filterMap settings.resolver.resolve? ++
        (settings.senderTarget? mail).toList = ["irk:1"] := by
      decide +kernel
    rw [logged, found]
    exact dialled

end Relay

end MailExchange
