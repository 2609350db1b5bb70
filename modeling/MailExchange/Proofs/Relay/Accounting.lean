import MailExchange.Network.Dial
import MailExchange.Proofs.Relay.Report
import MailExchange.Proofs.Routing
import MailExchange.Proofs.Transfer.Confirmed

/-!
What a relay owes an account of. Each domain of a mail is attempted once, whatever the servers of the
others do, and a recipient of whom the report says nothing has a server that has taken the mail.
-/

namespace MailExchange.Relay

open Text (Bytes)
open Transfer (TakenOver)
open Wire (Channel Embeds)

section Resolving

variable {ν : Type} [Network ν]

def attemptBy (resolve : String → Option String) (settings : Settings) (mail : Mail)
    (group : String × List String) (network : ν) : Attempt × ν :=
  match resolve group.1 with
  | none => (⟨group.1, group.2, .unresolved⟩, network)
  | some target =>
    (⟨group.1, group.2, (transfer settings mail target network).1⟩,
      (transfer settings mail target network).2)

def attemptAllBy (resolve : String → Option String) (settings : Settings) (mail : Mail) :
    List (String × List String) → ν → List Attempt × ν
  | [], network => ([], network)
  | group :: groups, network =>
    let (first, network) := attemptBy resolve settings mail group network
    let (others, network) := attemptAllBy resolve settings mail groups network
    (first :: others, network)

def attemptsBy (resolve : String → Option String) (settings : Settings) (mail : Mail)
    (network : ν) : List Attempt × ν :=
  attemptAllBy resolve settings mail (Address.groupByDomain mail.recipients).groups network

def relayBy (resolve : String → Option String) (settings : Settings) (mail : Mail) (network : ν) :
    Report × ν :=
  let (attempts, network) := attemptsBy resolve settings mail network
  (.ofAttempts (Address.groupByDomain mail.recipients).invalid attempts, network)

theorem attempt_by (settings : Settings) (mail : Mail) (group : String × List String)
    (network : ν) : attempt settings mail group network =
      attemptBy settings.resolver.resolve? settings mail group network := by
  rcases group with ⟨domain, recipients⟩
  cases resolved : settings.resolver.resolve? domain with
  | none => simp only [attempt, attemptBy, resolved]
  | some target => simp only [attempt, attemptBy, resolved]

/-- A relay is one whose servers are looked up in the table of the settings. -/
theorem relay_by (settings : Settings) (mail : Mail) (network : ν) :
    relay settings mail network =
      relayBy settings.resolver.resolve? settings mail network := by
  have all (groups : List (String × List String)) (network : ν) :
      attemptAll settings mail groups network =
        attemptAllBy settings.resolver.resolve? settings mail groups network := by
    induction groups generalizing network with
    | nil => rfl
    | cons group groups ih => simp only [attemptAll, attemptAllBy, attempt_by, ih]
  simp only [relay, attempts, relayBy, attemptsBy, all]

end Resolving

structure Logged (ν : Type) where
  network : ν
  dials : List String := []

namespace Logged

variable {ν : Type} [Network ν]

instance : Network (Logged ν) where
  hear logged bytes :=
    let (result, network) := Wire.Peer.hear logged.network bytes
    (result, { logged with network })
  ending logged :=
    let (error, network) := Wire.Peer.ending logged.network
    (error, { logged with network })
  dial logged timeout address :=
    let (result, network) := Network.dial logged.network timeout address
    (result, ⟨network, logged.dials ++ [address]⟩)
  hangUp logged := { logged with network := Network.hangUp logged.network }

theorem dial_mk (network : ν) (dials : List String) (timeout : Nat) (address : String) :
    Network.dial (Logged.mk network dials) timeout address =
      ((Network.dial network timeout address).1,
        ⟨(Network.dial network timeout address).2, dials ++ [address]⟩) := rfl

theorem embeds (dials : List String) : Embeds fun network : ν => Logged.mk network dials :=
  ⟨fun _ _ => rfl, fun _ => rfl⟩

end Logged

section Attempting

variable {ν : Type} [Network ν] {resolve : String → Option String} {settings : Settings}
  {mail : Mail}

def opened (target : String) (greeting : Bytes) (network : ν) : Channel ν :=
  ⟨{ label := .forPeer "dmtp" target }, greeting, network⟩

theorem transfer_unreached {target : String} {network after : ν} {error : Error}
    (dialled : Network.dial network settings.timeout target = (.error error, after)) :
    transfer settings mail target network = (.unreached error, after) := by
  simp only [transfer, Network.connect, dialled]

theorem transfer_opened {target : String} {network after : ν} {greeting : Bytes}
    (dialled : Network.dial network settings.timeout target = (.ok greeting, after)) :
    transfer settings mail target network =
      (.transferred (Transfer.Client.deliver mail (opened target greeting after)).1
        (Transfer.Client.deliver mail (opened target greeting after)).2.endpoint,
        Network.release (Transfer.Client.deliver mail (opened target greeting after)).2) := by
  simp only [transfer, Network.connect, dialled]
  rfl

theorem transfer_logged (settings : Settings) (mail : Mail) (target : String) (network : ν)
    (dials : List String) :
    transfer settings mail target (Logged.mk network dials) =
      ((transfer settings mail target network).1,
        ⟨(transfer settings mail target network).2, dials ++ [target]⟩) := by
  have logged := Logged.dial_mk network dials settings.timeout target
  rcases dialled : Network.dial network settings.timeout target with ⟨result, after⟩
  rw [dialled] at logged
  dsimp only at logged
  cases result with
  | error error => rw [transfer_unreached logged, transfer_unreached dialled]
  | ok greeting =>
      have delivered := Transfer.Client.deliver_map (Logged.embeds (dials ++ [target])) mail
        (opened target greeting after)
      change Transfer.Client.deliver mail
        (opened target greeting (Logged.mk after (dials ++ [target]))) = _ at delivered
      rw [transfer_opened logged, transfer_opened dialled, delivered]
      rfl

theorem attemptBy_logged (group : String × List String) (network : ν) (dials : List String) :
    attemptBy resolve settings mail group (Logged.mk network dials) =
      ((attemptBy resolve settings mail group network).1,
        ⟨(attemptBy resolve settings mail group network).2,
          dials ++ (resolve group.1).toList⟩) := by
  cases known : resolve group.1 with
  | none => simp only [attemptBy, known, Option.toList_none, List.append_nil]
  | some target => simp only [attemptBy, known, transfer_logged, Option.toList_some]

theorem attemptAllBy_logged (groups : List (String × List String)) (network : ν)
    (dials : List String) :
    attemptAllBy resolve settings mail groups (Logged.mk network dials) =
      ((attemptAllBy resolve settings mail groups network).1,
        ⟨(attemptAllBy resolve settings mail groups network).2,
          dials ++ groups.filterMap fun group => resolve group.1⟩) := by
  induction groups generalizing network dials with
  | nil => simp only [attemptAllBy, List.filterMap_nil, List.append_nil]
  | cons group groups ih =>
      have more : (group :: groups).filterMap (fun group => resolve group.1) =
          (resolve group.1).toList ++ groups.filterMap fun group => resolve group.1 := by
        rw [List.filterMap_cons]
        cases resolve group.1 <;> rfl
      simp only [attemptAllBy, attemptBy_logged, ih, more, List.append_assoc]

theorem attemptAllBy_groups (groups : List (String × List String)) (network : ν) :
    (attemptAllBy resolve settings mail groups network).1.map
      (fun attempt => (attempt.domain, attempt.recipients)) = groups := by
  have same (group : String × List String) (network : ν) :
      ((attemptBy resolve settings mail group network).1.domain,
        (attemptBy resolve settings mail group network).1.recipients) = group := by
    rw [attemptBy]
    cases resolve group.1 <;> rfl
  induction groups generalizing network with
  | nil => rfl
  | cons group groups ih => simp only [attemptAllBy, List.map_cons, same, ih]

/-- What is known of an attempt from its outcome. -/
structure Attempted (resolve : String → Option String) (mail : Mail) (attempt : Attempt) :
    Prop where
  unresolved : attempt.outcome = .unresolved ↔ resolve attempt.domain = none
  taken : ∀ refused endpoint, attempt.outcome = .transferred ⟨.ok (), refused⟩ endpoint →
    TakenOver mail refused endpoint

theorem transfer_taken {target : String} {network : ν} {refused : Option (List String)}
    {endpoint : Wire.Endpoint}
    (taken : (transfer settings mail target network).1 =
      .transferred ⟨.ok (), refused⟩ endpoint) : TakenOver mail refused endpoint := by
  rcases dialled : Network.dial network settings.timeout target with ⟨result, after⟩
  cases result with
  | error error =>
      rw [transfer_unreached dialled] at taken
      cases taken
  | ok greeting =>
      rw [transfer_opened dialled] at taken
      rcases delivered : Transfer.Client.deliver mail (opened target greeting after) with
        ⟨submission, last⟩
      rw [delivered] at taken
      cases taken
      exact Transfer.Client.deliver_takenOver rfl rfl rfl delivered

theorem transfer_resolved (target : String) (network : ν) :
    (transfer settings mail target network).1 ≠ .unresolved := by
  rw [transfer]
  split <;> exact fun unresolved => by cases unresolved

theorem attemptBy_attempted (group : String × List String) (network : ν) :
    Attempted resolve mail (attemptBy resolve settings mail group network).1 := by
  cases known : resolve group.1 with
  | none =>
      simp only [attemptBy, known]
      exact ⟨iff_of_true rfl known, fun _ _ taken => by cases taken⟩
  | some target =>
      simp only [attemptBy, known]
      refine ⟨iff_of_false (transfer_resolved target network) ?_, fun _ _ => transfer_taken⟩
      rw [known]
      exact Option.some_ne_none target

theorem attemptAllBy_attempted (groups : List (String × List String)) (network : ν) :
    ∀ attempt ∈ (attemptAllBy resolve settings mail groups network).1,
      Attempted resolve mail attempt := by
  induction groups generalizing network with
  | nil => exact fun attempt member => absurd member List.not_mem_nil
  | cons group groups ih =>
      intro attempt member
      simp only [attemptAllBy, List.mem_cons] at member
      rcases member with rfl | later
      · exact attemptBy_attempted group network
      · exact ih _ attempt later

namespace Attempted

variable {attempt : Attempt}

theorem error_some (attempted : Attempted resolve mail attempt) {text : String} :
    attempt.error? = some text ↔
      resolve attempt.domain = none ∧ text = "unknown domain " ++ attempt.domain ∨
        ∃ error, attempt.failure? = some error ∧
          text = attempt.domain ++ ": " ++ error.message := by
  rw [Attempt.error_some, attempted.unresolved]
  rfl

theorem error_ne_none (attempted : Attempted resolve mail attempt) :
    attempt.error? ≠ none ↔
      resolve attempt.domain = none ∨ ∃ error, attempt.failure? = some error := by
  rw [Option.ne_none_iff_exists']
  constructor
  · rintro ⟨text, found⟩
    rcases attempted.error_some.mp found with ⟨unknown, _⟩ | ⟨error, failed, _⟩
    · exact Or.inl unknown
    · exact Or.inr ⟨error, failed⟩
  · rintro (unknown | ⟨error, failed⟩)
    · exact ⟨_, attempted.error_some.mpr (Or.inl ⟨unknown, rfl⟩)⟩
    · exact ⟨_, attempted.error_some.mpr (Or.inr ⟨error, failed, rfl⟩)⟩

theorem confirmed (attempted : Attempted resolve mail attempt) (unfailed : attempt.error? = none) :
    ∃ refused endpoint, attempt.outcome = .transferred ⟨.ok (), refused⟩ endpoint ∧
      TakenOver mail refused endpoint := by
  obtain ⟨refused, endpoint, outcome⟩ := Attempt.error_none unfailed
  exact ⟨refused, endpoint, outcome, attempted.taken refused endpoint outcome⟩

end Attempted

section Whole

variable (resolve : String → Option String) (settings : Settings) (mail : Mail) (network : ν)

theorem relayBy_report : (relayBy resolve settings mail network).1 =
    .ofAttempts (Address.withRoute none mail.recipients)
      (attemptsBy resolve settings mail network).1 := by
  rw [relayBy, Address.groupByDomain_eq]

theorem attemptsBy_domains :
    (attemptsBy resolve settings mail network).1.map
        (fun attempt => (attempt.domain, attempt.recipients)) =
      (Address.domains mail.recipients).map fun domain =>
        (domain, Address.withRoute (some domain) mail.recipients) := by
  rw [attemptsBy, attemptAllBy_groups, Address.groupByDomain_eq]

theorem attempted_domain {domain : String} (member : domain ∈ Address.domains mail.recipients) :
    ∃ attempt ∈ (attemptsBy resolve settings mail network).1, attempt.domain = domain ∧
      attempt.recipients = Address.withRoute (some domain) mail.recipients := by
  have listed := List.mem_map_of_mem (f := fun domain =>
    (domain, Address.withRoute (some domain) mail.recipients)) member
  rw [← attemptsBy_domains resolve settings mail network] at listed
  obtain ⟨attempt, present, same⟩ := List.mem_map.mp listed
  exact ⟨attempt, present, congrArg Prod.fst same, congrArg Prod.snd same⟩

theorem attempt_group {attempt : Attempt}
    (present : attempt ∈ (attemptsBy resolve settings mail network).1) :
    attempt.domain ∈ Address.domains mail.recipients ∧
      attempt.recipients = Address.withRoute (some attempt.domain) mail.recipients := by
  have listed := List.mem_map_of_mem (f := fun attempt : Attempt =>
    (attempt.domain, attempt.recipients)) present
  rw [attemptsBy_domains] at listed
  obtain ⟨domain, member, same⟩ := List.mem_map.mp listed
  obtain ⟨rfl, recipients⟩ := Prod.mk.inj same
  exact ⟨member, recipients.symm⟩

theorem relayBy_logged (dials : List String) :
    relayBy resolve settings mail (Logged.mk network dials) =
      ((relayBy resolve settings mail network).1, ⟨(relayBy resolve settings mail network).2,
        dials ++ (Address.domains mail.recipients).filterMap resolve⟩) := by
  have targets : (Address.groupByDomain mail.recipients).groups.filterMap
      (fun group => resolve group.1) = (Address.domains mail.recipients).filterMap resolve := by
    rw [Address.groupByDomain_eq, List.filterMap_map]
    rfl
  simp only [relayBy, attemptsBy, attemptAllBy_logged, targets]

/-- Whoever is not named in the report has a server that has taken the mail. -/
theorem unnamed_confirmed {recipient : String} (member : recipient ∈ mail.recipients)
    (known : recipient ∉ (relayBy resolve settings mail network).1.unknown)
    (unfailed : recipient ∉ (relayBy resolve settings mail network).1.failed) :
    ∃ attempt ∈ (attemptsBy resolve settings mail network).1, recipient ∈ attempt.recipients ∧
      attempt.error? = none := by
  rw [relayBy_report, Report.mem_unknown, not_or] at known
  rw [relayBy_report, Report.mem_failed] at unfailed
  cases routed : Address.route? recipient with
  | none => exact absurd (Address.mem_withRoute.mpr ⟨member, routed⟩) known.1
  | some domain =>
      obtain ⟨attempt, present, _, recipients⟩ := attempted_domain resolve settings mail network
        (Address.mem_domains.mpr ⟨recipient, member, routed⟩)
      have inside : recipient ∈ attempt.recipients := by
        rw [recipients]
        exact Address.mem_withRoute.mpr ⟨member, routed⟩
      refine ⟨attempt, present, inside, ?_⟩
      by_contra failed
      exact unfailed ⟨attempt, present, failed, inside⟩

theorem clean_confirmed (clean : (relayBy resolve settings mail network).1.isClean = true) :
    ∀ attempt ∈ (attemptsBy resolve settings mail network).1, attempt.error? = none := by
  intro attempt present
  cases failed : attempt.error? with
  | none => rfl
  | some text =>
      have listed : text ∈ (relayBy resolve settings mail network).1.errors := by
        rw [relayBy_report, Report.mem_errors]
        exact ⟨attempt, present, failed⟩
      rw [(Report.isClean_empty clean).2.1] at listed
      exact absurd listed List.not_mem_nil

section Unfailed

variable (unfailed : ∀ attempt ∈ (attemptsBy resolve settings mail network).1,
  attempt.failure? = none)

include unfailed

theorem unfailed_error {attempt : Attempt}
    (present : attempt ∈ (attemptsBy resolve settings mail network).1) {text : String} :
    attempt.error? = some text ↔
      resolve attempt.domain = none ∧ text = "unknown domain " ++ attempt.domain := by
  have attempted : Attempted resolve mail attempt :=
    attemptAllBy_attempted _ network attempt present
  rw [attempted.error_some, unfailed attempt present]
  simp only [reduceCtorEq, false_and, exists_false, or_false]

theorem unfailed_errors (text : String) :
    text ∈ (relayBy resolve settings mail network).1.errors ↔
      ∃ domain ∈ Address.domains mail.recipients,
        resolve domain = none ∧ text = "unknown domain " ++ domain := by
  rw [relayBy_report, Report.mem_errors]
  constructor
  · rintro ⟨attempt, present, error⟩
    exact ⟨attempt.domain, (attempt_group resolve settings mail network present).1,
      (unfailed_error resolve settings mail network unfailed present).mp error⟩
  · rintro ⟨domain, member, unknown⟩
    obtain ⟨attempt, present, rfl, _⟩ := attempted_domain resolve settings mail network member
    exact ⟨attempt, present,
      (unfailed_error resolve settings mail network unfailed present).mpr unknown⟩

theorem unfailed_failed (recipient : String) :
    recipient ∈ (relayBy resolve settings mail network).1.failed ↔ recipient ∈ mail.recipients ∧
      ∃ domain, Address.route? recipient = some domain ∧ resolve domain = none := by
  have unknown {attempt : Attempt}
      (present : attempt ∈ (attemptsBy resolve settings mail network).1) :
      attempt.error? ≠ none ↔ resolve attempt.domain = none := by
    rw [(attemptAllBy_attempted _ network attempt present).error_ne_none,
      unfailed attempt present]
    simp only [reduceCtorEq, exists_false, or_false]
  rw [relayBy_report, Report.mem_failed]
  constructor
  · rintro ⟨attempt, present, error, inside⟩
    rw [(attempt_group resolve settings mail network present).2, Address.mem_withRoute] at inside
    exact ⟨inside.1, attempt.domain, inside.2, (unknown present).mp error⟩
  · rintro ⟨member, domain, routed, unresolved⟩
    obtain ⟨attempt, present, rfl, recipients⟩ :=
      attempted_domain resolve settings mail network
        (Address.mem_domains.mpr ⟨recipient, member, routed⟩)
    refine ⟨attempt, present, (unknown present).mpr unresolved, ?_⟩
    rw [recipients]
    exact Address.mem_withRoute.mpr ⟨member, routed⟩

end Unfailed

end Whole

end Attempting

/-- A relay keeps account of every recipient, whatever becomes of the connections and however servers
are looked up. Each domain is attempted once, in order, and each of its servers is dialled once; the
report names those who have no domain, and those whose server is not known or did not take the mail,
with the reason. Whoever is not named has a server that has taken the whole mail. -/
theorem relay_accounts {ν : Type} [Network ν] (resolve : String → Option String)
    (settings : Settings) (mail : Mail) (network : ν) :
    let attempts := (attemptsBy resolve settings mail network).1
    let report := (relayBy resolve settings mail network).1
    (resolve = settings.resolver.resolve? →
      relay settings mail network = relayBy resolve settings mail network) ∧
    (attempts.map (fun attempt => (attempt.domain, attempt.recipients)) =
      (Address.domains mail.recipients).map fun domain =>
        (domain, Address.withRoute (some domain) mail.recipients)) ∧
    (∀ dials, relayBy resolve settings mail (Logged.mk network dials) =
      (report, ⟨(relayBy resolve settings mail network).2,
        dials ++ (Address.domains mail.recipients).filterMap resolve⟩)) ∧
    (∀ recipient ∈ mail.recipients, Address.isValid recipient = false →
      recipient ∈ report.unknown) ∧
    (∀ recipient, recipient ∈ report.failed ↔ ∃ attempt ∈ attempts,
      recipient ∈ attempt.recipients ∧
        (resolve attempt.domain = none ∨ ∃ error, attempt.failure? = some error)) ∧
    (∀ text, text ∈ report.errors ↔ ∃ attempt ∈ attempts,
      resolve attempt.domain = none ∧ text = "unknown domain " ++ attempt.domain ∨
        ∃ error, attempt.failure? = some error ∧
          text = attempt.domain ++ ": " ++ error.message) ∧
    (∀ recipient ∈ mail.recipients, recipient ∉ report.unknown → recipient ∉ report.failed →
      ∃ attempt ∈ attempts, recipient ∈ attempt.recipients ∧ ∃ refused endpoint,
        attempt.outcome = .transferred ⟨.ok (), refused⟩ endpoint ∧
          TakenOver mail refused endpoint) ∧
    (report.isClean = true → ∀ domain ∈ Address.domains mail.recipients,
      ∃ attempt ∈ attempts, attempt.domain = domain ∧ ∃ refused endpoint,
        attempt.outcome = .transferred ⟨.ok (), refused⟩ endpoint ∧
          TakenOver mail refused endpoint) := by
  intro attempts report
  have attempted (attempt : Attempt) (member : attempt ∈ attempts) :
      Attempted resolve mail attempt := attemptAllBy_attempted _ network attempt member
  have from_attempts : report = .ofAttempts (Address.withRoute none mail.recipients) attempts :=
    relayBy_report resolve settings mail network
  refine ⟨?_, attemptsBy_domains resolve settings mail network,
    relayBy_logged resolve settings mail network, ?_, ?_, ?_, ?_, ?_⟩
  · rintro rfl
    exact relay_by settings mail network
  · intro recipient member invalid
    rw [from_attempts, Report.mem_unknown]
    exact Or.inl (Address.mem_withRoute.mpr ⟨member, Address.route_none.mpr invalid⟩)
  · intro recipient
    rw [from_attempts, Report.mem_failed]
    apply exists_congr
    intro attempt
    apply and_congr_right
    intro member
    rw [(attempted attempt member).error_ne_none, and_comm]
  · intro text
    rw [from_attempts, Report.mem_errors]
    apply exists_congr
    intro attempt
    apply and_congr_right
    intro member
    exact (attempted attempt member).error_some
  · intro recipient member known unfailed
    obtain ⟨attempt, present, inside, confirmed⟩ :=
      unnamed_confirmed resolve settings mail network member known unfailed
    exact ⟨attempt, present, inside, (attempted attempt present).confirmed confirmed⟩
  · intro clean domain member
    obtain ⟨attempt, present, named, _⟩ := attempted_domain resolve settings mail network member
    have confirmed := clean_confirmed resolve settings mail network clean attempt present
    exact ⟨attempt, present, named, (attempted attempt present).confirmed confirmed⟩

theorem relay_accounts_planets :
    let mail : Mail := ⟨"zim@irk.planet", ["gaz@earth.planet", "dib@Irk.Planet", "gir"], "", "", none⟩
    let resolve (domain : String) := if domain = "earth.planet" then some "earth:1" else none
    let said := [Transfer.greeting, "ok", "ok 3", "ok", "ok", "ok", "ok", "ok bye"]
    let network : Network.Recorded := { recordings := [{ received := said.flatMap Wire.lineBytes }] }
    let settings : Settings := ⟨⟨[]⟩, "postmaster@irk.planet", 30⟩
    (relayBy resolve settings mail network).1 =
        ⟨["gir"], ["unknown domain irk.planet"], ["dib@Irk.Planet"]⟩ ∧
      ∃ attempt ∈ (attemptsBy resolve settings mail network).1,
        "gaz@earth.planet" ∈ attempt.recipients ∧ ∃ refused endpoint,
          attempt.outcome = .transferred ⟨.ok (), refused⟩ endpoint ∧
            TakenOver mail refused endpoint := by
  intro mail resolve said network settings
  have report : (relayBy resolve settings mail network).1 =
      ⟨["gir"], ["unknown domain irk.planet"], ["dib@Irk.Planet"]⟩ := by
    decide +kernel
  obtain ⟨_, _, _, _, _, _, unnamed, _⟩ := relay_accounts resolve settings mail network
  refine ⟨report, unnamed "gaz@earth.planet" (by decide) ?_ ?_⟩
  · rw [report]
    decide
  · rw [report]
    decide

end MailExchange.Relay
