import MailExchange.Proofs.Mail.Local
import MailExchange.Proofs.Relay.Refusals
import MailExchange.Proofs.Service.Delivery

/-!
Recipients who do not exist, from the server that refuses them to the report. A mailbox server refuses
the users of its domain whom it does not have, and the report names one recipient for each of them.
-/

namespace MailExchange.Service

open Relay (Attempt IsAmong Leads attemptBy attemptsBy networkAt opened relayBy transfer)
open Text (AsciiCapitals lowercase)
open Transfer (Refuses)
open Wire (Embeds Live)

/-- A network on which an address leads to a new session of a mailbox server, to which the wire carries
the recipients of a mail, and the answer back. -/
structure Meets {ν : Type} [Network ν] (settings : Relay.Settings) (mail : Mail) (target : String)
    (delivery : Delivery) (network : ν) : Prop where
  dialled : ∃ (label : LogPrefix) (embed : Live (Transfer.Session Delivery) → ν), Embeds embed ∧
    let channel := Live.connect (.forPeer "dmtp" target) (Transfer.Session.greet label delivery)
    Network.dial network settings.timeout target = (.ok channel.unread, embed channel.peer)
  valid : ∀ recipient ∈ mail.recipients, Address.isValid recipient = true
  short : (Wire.lineBytes (Transfer.Command.recipients mail.recipients).line).length ≤ Wire.maxLine
  reply_short :
    (Wire.lineBytes (Transfer.Desk.admission delivery mail.recipients)).length ≤ Wire.maxLine

section Meeting

variable {ν : Type} [Network ν] {settings : Relay.Settings} {mail : Mail} {target : String}
  {delivery : Delivery} {network : ν}

omit [Network ν] in
theorem opened_map (session : Transfer.Session Delivery)
    (embed : Live (Transfer.Session Delivery) → ν) :
    opened target (Live.connect (.forPeer "dmtp" target) session).unread
      (embed (Live.connect (.forPeer "dmtp" target) session).peer) =
        (Live.connect (.forPeer "dmtp" target) session).map embed := rfl

theorem Meets.transfer_refuses (meets : Meets settings mail target delivery network)
    (some_recipient : mail.recipients ≠ []) :
    ∃ submission endpoint,
      (transfer settings mail target network).1 = .transferred submission endpoint ∧
        Refuses delivery mail.recipients submission.refused := by
  obtain ⟨label, embed, embeds, dialled⟩ := meets.dialled
  have carried := Transfer.recipients_carried some_recipient meets.valid meets.short
  have refuses := Transfer.Client.deliver_refuses label (.forPeer "dmtp" target) delivery carried
    meets.valid meets.reply_short
  rw [Relay.transfer_opened dialled, opened_map, Transfer.Client.deliver_map embeds]
  exact ⟨_, _, rfl, refuses⟩

theorem refused_users {domain recipient : String} (own : delivery.users.domain = domain)
    (lower : lowercase domain = domain) {refused : Option (List String)}
    (refuses : Refuses delivery mail.recipients refused) :
    IsAmong (refused.getD []) recipient ↔ ∃ user, Address.user? recipient = some user ∧
      delivery.users.has user = false ∧
        ∃ other ∈ Address.withRoute (some domain) mail.recipients,
          delivery.users.localUser? other = some user := by
  subst own
  constructor
  · rintro ⟨user, listed, named⟩
    obtain ⟨address, member, unaccepted, other_named⟩ :=
      (Transfer.refuses_mem refuses user).mp listed
    obtain ⟨other, found, lacking⟩ := Delivery.accepts_eq_false.mp unaccepted
    cases other_named.symm.trans (Users.localUser_user found)
    have routed := ((Users.localUser_lower lower).mp found).1
    exact ⟨user, named, lacking, address, Address.mem_withRoute.mpr ⟨member, routed⟩, found⟩
  · rintro ⟨user, named, lacking, other, member, found⟩
    refine ⟨user, (Transfer.refuses_mem refuses user).mpr ⟨other,
      (Address.mem_withRoute.mp member).1, ?_, Users.localUser_user found⟩, named⟩
    exact Delivery.accepts_eq_false.mpr ⟨user, found, lacking⟩

theorem Meets.mem_unknown {resolve : String → Option String} {domain : String}
    (listed : domain ∈ Address.domains mail.recipients) (resolved : resolve domain = some target)
    (own : delivery.users.domain = domain)
    (meets : Meets settings mail target delivery (networkAt resolve settings mail network domain))
    {recipient : String} (member : recipient ∈ Address.withRoute (some domain) mail.recipients) :
    recipient ∈ (relayBy resolve settings mail network).1.unknown ↔
      Leads (Address.withRoute (some domain) mail.recipients) recipient ∧
        ∃ user, Address.user? recipient = some user ∧ delivery.users.has user = false ∧
          ∃ other ∈ Address.withRoute (some domain) mail.recipients,
            delivery.users.localUser? other = some user := by
  obtain ⟨present, routed⟩ := Address.mem_withRoute.mp member
  obtain ⟨submission, endpoint, transferred, refuses⟩ :=
    meets.transfer_refuses (List.ne_nil_of_mem present)
  have made : (attemptBy resolve settings mail
      (domain, Address.withRoute (some domain) mail.recipients)
      (networkAt resolve settings mail network domain)).1 =
        ⟨domain, Address.withRoute (some domain) mail.recipients,
          .transferred submission endpoint⟩ := by
    simp only [attemptBy, resolved, transferred]
  have attempted : ⟨domain, Address.withRoute (some domain) mail.recipients,
      .transferred submission endpoint⟩ ∈ (attemptsBy resolve settings mail network).1 := by
    rw [Relay.attemptsBy_eq, ← made]
    exact List.mem_map_of_mem listed
  rw [Relay.mem_unknown_group attempted member, Attempt.mem_unknown]
  exact and_congr_right fun _ => refused_users own (Address.route_lower routed) refuses

/-- If the domain is spelled in ASCII, those who do not exist are all named unless two of them share a
user part. -/
theorem Meets.exactly_unknown {resolve : String → Option String} {domain : String}
    (listed : domain ∈ Address.domains mail.recipients) (resolved : resolve domain = some target)
    (own : delivery.users.domain = domain)
    (meets : Meets settings mail target delivery (networkAt resolve settings mail network domain))
    (capitals : ∀ recipient ∈ Address.withRoute (some domain) mail.recipients,
      ∀ spelled, Address.domain? recipient = some spelled → AsciiCapitals spelled) :
    (∀ recipient ∈ Address.withRoute (some domain) mail.recipients,
      recipient ∈ (relayBy resolve settings mail network).1.unknown ↔
        ∃ user, Address.user? recipient = some user ∧ delivery.users.has user = false) ↔
    ∀ one ∈ Address.withRoute (some domain) mail.recipients,
      ∀ other ∈ Address.withRoute (some domain) mail.recipients,
        (∃ user, Address.user? one = some user ∧ delivery.users.has user = false) →
          Address.user? other = Address.user? one → other = one := by
  have named {recipient : String}
      (member : recipient ∈ Address.withRoute (some domain) mail.recipients) :
      recipient ∈ (relayBy resolve settings mail network).1.unknown ↔
        Leads (Address.withRoute (some domain) mail.recipients) recipient ∧
          ∃ user, Address.user? recipient = some user ∧ delivery.users.has user = false := by
    have routed := (Address.mem_withRoute.mp member).2
    subst own
    rw [meets.mem_unknown listed resolved rfl member]
    apply and_congr_right
    intro _
    constructor
    · rintro ⟨user, found, lacking, _⟩
      exact ⟨user, found, lacking⟩
    · rintro ⟨user, found, lacking⟩
      obtain ⟨⟨name, spelled⟩, parsed, rfl⟩ := Option.map_eq_some_iff.mp found
      have spelled_so : Address.domain? recipient = some spelled := by
        rw [Address.domain?, parsed, Option.map_some]
      exact ⟨name, found, lacking, recipient, member,
        (Users.localUser_lower (Address.route_lower routed)).mpr
          ⟨routed, spelled, parsed, capitals recipient member spelled spelled_so⟩⟩
  have alike (one other : String) (same : Address.user? other = Address.user? one) :
      (∃ user, Address.user? one = some user ∧ delivery.users.has user = false) →
        ∃ user, Address.user? other = some user ∧ delivery.users.has user = false := by
    rw [same]
    exact id
  rw [← Relay.all_lead alike]
  constructor
  · intro exactly recipient member lacking
    exact ((named member).mp ((exactly recipient member).mpr lacking)).1
  · intro all recipient member
    rw [named member]
    exact ⟨And.right, fun lacking => ⟨all recipient member lacking, lacking⟩⟩

end Meeting

theorem Machine.meets {machine : Machine} {settings : Relay.Settings} {mail : Mail} {target : String}
    {server : MailboxServer} (timed : settings.timeout ≠ 0)
    (found : machine.serverAt? target = some server) (patient : server.idle ≠ 0)
    (clean : Transfer.Sendable server.delivery mail) :
    Meets settings mail target server.delivery machine := by
  obtain ⟨index, reached, here⟩ := Option.bind_eq_some_iff.mp found
  exact ⟨⟨.forPeer "dmtp" "127.0.0.1", _, machine.embeds index,
    dial_reached timed reached here patient⟩, clean.recipients,
    clean.short _ List.mem_cons_self, clean.reply_short⟩

/-- A server that refuses recipients refuses users, and the report names for each of them the first
recipient of the group who has this user part. So all who are refused are named if no two of them share
a user part, and only then; whenever any of them is refused, one is named, and without a refusal nobody
is. A mailbox server refuses the users of its domain who do not exist, and the report names them in the
same way. -/
theorem refusals_reported {ν : Type} [Network ν] (resolve : String → Option String)
    (settings : Relay.Settings) (mail : Mail) (network : ν) :
    let attempts := (attemptsBy resolve settings mail network).1
    let report := (relayBy resolve settings mail network).1
    (resolve = settings.resolver.resolve? →
      Relay.relay settings mail network = relayBy resolve settings mail network) ∧
    (∀ attempt ∈ attempts, ∀ text,
      attempt.admission? = some ("error unknown recipient " ++ text) →
      let users := Text.splitAtEach ',' text
      (∀ recipient ∈ attempt.recipients, recipient ∈ report.unknown ↔
        Leads attempt.recipients recipient ∧ IsAmong users recipient) ∧
      ((∀ recipient ∈ attempt.recipients, IsAmong users recipient → recipient ∈ report.unknown) ↔
        ∀ one ∈ attempt.recipients, ∀ other ∈ attempt.recipients, IsAmong users one →
          Address.user? other = Address.user? one → other = one) ∧
      ((∃ recipient ∈ attempt.recipients, recipient ∈ report.unknown) ↔
        ∃ recipient ∈ attempt.recipients, IsAmong users recipient) ∧
      ((∃ recipient ∈ attempt.recipients, IsAmong users recipient) → report.isClean = false)) ∧
    (∀ attempt ∈ attempts, ∀ recipient ∈ attempt.recipients, recipient ∈ report.unknown →
      ∃ text, attempt.admission? = some ("error unknown recipient " ++ text)) ∧
    ∀ domain ∈ Address.domains mail.recipients, ∀ target delivery, resolve domain = some target →
      delivery.users.domain = domain →
      Meets settings mail target delivery (networkAt resolve settings mail network domain) →
      let group := Address.withRoute (some domain) mail.recipients
      (∀ recipient ∈ group, recipient ∈ report.unknown ↔ Leads group recipient ∧
        ∃ user, Address.user? recipient = some user ∧ delivery.users.has user = false ∧
          ∃ other ∈ group, delivery.users.localUser? other = some user) ∧
      ((∀ recipient ∈ group, ∀ spelled, Address.domain? recipient = some spelled →
          AsciiCapitals spelled) →
        ((∀ recipient ∈ group, recipient ∈ report.unknown ↔
          ∃ user, Address.user? recipient = some user ∧ delivery.users.has user = false) ↔
        ∀ one ∈ group, ∀ other ∈ group,
          (∃ user, Address.user? one = some user ∧ delivery.users.has user = false) →
            Address.user? other = Address.user? one → other = one)) := by
  intro attempts report
  have own {attempt : Attempt} (present : attempt ∈ attempts) {recipient : String}
      (member : recipient ∈ attempt.recipients) :
      recipient ∈ report.unknown ↔ recipient ∈ attempt.unknown :=
    Relay.mem_unknown_group present member
  refine ⟨?_, ?_, ?_, ?_⟩
  · rintro rfl
    exact Relay.relay_by settings mail network
  · intro attempt present text said users
    have refused : attempt.refused = users := (Relay.attempt_understood present).refused text said
    rw [← refused]
    refine ⟨?_, ?_, ?_, ?_⟩
    · intro recipient member
      rw [own present member, Attempt.mem_unknown]
    · rw [← Attempt.all_unknown]
      exact forall₂_congr fun recipient member => imp_congr_right fun _ => own present member
    · rw [← Attempt.some_unknown]
      exact exists_congr fun recipient => and_congr_right fun member => own present member
    · intro among
      obtain ⟨recipient, member, named⟩ := Attempt.some_unknown.mpr among
      exact Relay.Report.unclean ((own present member).mpr named)
  · intro attempt present recipient member named
    rw [own present member, Attempt.mem_unknown] at named
    obtain ⟨_, user, listed, _⟩ := named
    exact (Relay.attempt_understood present).said (List.ne_nil_of_mem listed)
  · intro domain listed target delivery resolved same meets group
    refine ⟨fun recipient member => meets.mem_unknown listed resolved same member, ?_⟩
    exact meets.exactly_unknown listed resolved same

def summons : Mail :=
  ⟨"zim@irk.planet", ["dib@irk.planet", "dib@IRK.planet", "tak@Irk.planet"], "come", "at once", none⟩

theorem summons_met : Meets planetSettings summons "localhost:2" irk.delivery planets := by
  apply planets.meets (by decide) irk_served (by decide)
  refine ⟨by decide, by decide, by decide, by decide, by decide, ?_, by decide, by decide⟩
  rintro text ⟨⟩

theorem summons_refused :
    let report := (Relay.relay planetSettings summons planets).1
    "dib@irk.planet" ∈ report.unknown ∧ "dib@IRK.planet" ∉ report.unknown ∧
      "tak@Irk.planet" ∉ report.unknown ∧ report.isClean = false := by
  intro report
  have heard : (attemptsBy planetSettings.resolver.resolve? planetSettings summons planets).1.map
      Attempt.admission? = [some "error unknown recipient dib,dib"] := by
    decide +kernel
  have grouped : Address.withRoute (some "irk.planet") summons.recipients = summons.recipients := by
    decide +kernel
  have at_first : networkAt planetSettings.resolver.resolve? planetSettings summons planets
      "irk.planet" = planets := by
    have nobody_before : (Address.groupByDomain summons.recipients).groups.takeWhile
        (·.1 != "irk.planet") = [] := by
      decide +kernel
    rw [networkAt, nobody_before]
    rfl
  obtain ⟨same, told, _, met⟩ :=
    refusals_reported planetSettings.resolver.resolve? planetSettings summons planets
  obtain ⟨named, _⟩ := met "irk.planet" (by decide +kernel) "localhost:2" irk.delivery
    (by decide +kernel) rfl (at_first ▸ summons_met)
  rw [← same rfl, grouped] at named
  refine ⟨?_, ?_, ?_, ?_⟩
  · refine (named "dib@irk.planet" (by decide)).mpr ⟨⟨[], _, rfl, List.forall_mem_nil _⟩, "dib",
      by decide +kernel, by decide, "dib@irk.planet", by decide, by decide +kernel⟩
  · rw [named "dib@IRK.planet" (by decide), Relay.leads_iff]
    rintro ⟨leads, _⟩
    exact absurd leads (by decide +kernel)
  · rw [named "tak@Irk.planet" (by decide)]
    rintro ⟨_, user, found, lacking, _⟩
    have user_part : Address.user? "tak@Irk.planet" = some "tak" := by decide +kernel
    cases user_part.symm.trans found
    exact absurd lacking (by decide)
  · obtain ⟨attempt, present, said⟩ := List.mem_map.mp (heard ▸ List.mem_singleton_self _)
    obtain ⟨listed, recipients⟩ := Relay.attempt_group _ _ _ _ present
    have only : attempt.domain = "irk.planet" := by
      rwa [show Address.domains summons.recipients = ["irk.planet"] by decide +kernel,
        List.mem_singleton] at listed
    rw [only, grouped] at recipients
    obtain ⟨_, _, _, unclean⟩ := told attempt present "dib,dib" said
    rw [← same rfl] at unclean
    exact unclean ⟨"dib@irk.planet", recipients ▸ List.mem_cons_self, "dib", by decide,
      by decide +kernel⟩

end MailExchange.Service
