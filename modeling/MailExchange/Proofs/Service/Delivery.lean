import MailExchange.Proofs.Service.Hosting
import MailExchange.Proofs.Text.Lowercase

namespace MailExchange.Service

open Relay (Attempt Report attemptAllBy attemptBy attemptsBy relayBy)
open Text (IsAscii IsLower lowercase)
open Transfer (WireClean)

/-- A table whose domains are in lower case and have servers of their own on a machine, to which a
connection succeeds. -/
structure Hosting (settings : Relay.Settings) (machine : Machine) : Prop where
  timed : settings.timeout ≠ 0
  lower : ∀ entry ∈ settings.resolver.targets, IsLower entry.1
  distinct : (settings.resolver.targets.map Prod.fst).Nodup
  served : ∀ entry ∈ settings.resolver.targets, ∃ server,
    machine.serverAt? entry.2 = some server ∧ server.idle ≠ 0 ∧
      server.delivery.users.domain = entry.1

/-- The servers of the table after those of some domains have taken a mail. -/
def Delivered (settings : Relay.Settings) (mail : Mail) (domains : List String)
    (before after : Machine) : Prop :=
  ∀ entry ∈ settings.resolver.targets, after.serverAt? entry.2 =
    if entry.1 ∈ domains then (before.serverAt? entry.2).map (·.taking mail)
    else before.serverAt? entry.2

/-- The wire carries a mail to the servers of some domains. -/
def Carried (settings : Relay.Settings) (mail : Mail) (domains : List String)
    (machine : Machine) : Prop :=
  ∀ entry ∈ settings.resolver.targets, entry.1 ∈ domains → ∀ server,
    machine.serverAt? entry.2 = some server → WireClean server.delivery mail

variable {settings : Relay.Settings} {mail : Mail} {domain : String} {domains : List String}
  {before machine after : Machine}

namespace Delivered

theorem hosting (delivered : Delivered settings mail domains before after)
    (hosting : Hosting settings before) : Hosting settings after := by
  refine { hosting with served := ?_ }
  intro entry listed
  obtain ⟨server, here, patient, own⟩ := hosting.served entry listed
  have left := delivered entry listed
  rw [here] at left
  by_cases named : entry.1 ∈ domains
  · rw [if_pos named] at left
    exact ⟨server.taking mail, left, patient, own⟩
  · rw [if_neg named] at left
    exact ⟨server, left, patient, own⟩

theorem carried (first : Delivered settings mail [domain] before machine)
    (fresh : domain ∉ domains) (carried : Carried settings mail (domain :: domains) before) :
    Carried settings mail domains machine := by
  intro entry listed named server here
  have other : entry.1 ∉ [domain] := by
    rw [List.mem_singleton]
    rintro rfl
    exact fresh named
  rw [first entry listed, if_neg other] at here
  exact carried entry listed (List.mem_cons_of_mem domain named) server here

theorem trans (fresh : domain ∉ domains) (first : Delivered settings mail [domain] before machine)
    (others : Delivered settings mail domains machine after) :
    Delivered settings mail (domain :: domains) before after := by
  intro entry listed
  rw [others entry listed, first entry listed]
  by_cases same : entry.1 = domain
  · rw [same, if_neg fresh, if_pos List.mem_cons_self, if_pos List.mem_cons_self]
  · simp only [List.mem_cons, same, List.not_mem_nil, or_false, false_or, if_false]

end Delivered

namespace Hosting

theorem transfer_delivered (hosting : Hosting settings machine) {target : String}
    (listed : (domain, target) ∈ settings.resolver.targets)
    (carried : Carried settings mail [domain] machine) :
    ∃ refused endpoint after, Relay.transfer settings mail target machine =
        (.transferred ⟨.ok (), refused⟩ endpoint, after) ∧
      Delivered settings mail [domain] machine after := by
  obtain ⟨server, here, patient, own⟩ := hosting.served _ listed
  obtain ⟨refused, endpoint, after, transferred, left⟩ := Machine.transfer_taken hosting.timed here
    patient (carried _ listed List.mem_cons_self server here)
  refine ⟨refused, endpoint, after, transferred, ?_⟩
  intro entry entry_listed
  obtain ⟨other, there, _, other_own⟩ := hosting.served entry entry_listed
  rw [left]
  by_cases same : entry.1 = domain
  · have target_same : entry.2 = target := by
      have whole := List.inj_on_of_nodup_map hosting.distinct entry_listed listed same
      exact congrArg Prod.snd whole
    rw [target_same, if_pos rfl, if_pos (List.mem_singleton.mpr same), here]
    rfl
  · have apart : machine.reached? entry.2 ≠ machine.reached? target := by
      intro reached
      have one_server : machine.serverAt? entry.2 = machine.serverAt? target := by
        rw [Machine.serverAt?, reached, ← Machine.serverAt?]
      rw [there, here, Option.some.injEq] at one_server
      rw [one_server] at other_own
      exact same (other_own.symm.trans own)
    rw [if_neg apart, if_neg fun member => same (List.mem_singleton.mp member)]

theorem attempt_delivered (hosting : Hosting settings machine) (lower : lowercase domain = domain)
    (carried : Carried settings mail [domain] machine) (recipients : List String) :
    ∃ attempt after, attemptBy settings.resolver.resolve? settings mail (domain, recipients) machine =
        (attempt, after) ∧
      attempt.failure? = none ∧ Delivered settings mail [domain] machine after := by
  have known {target : String} := settings.resolver.resolve_some hosting.distinct domain target
  rw [lower] at known
  cases resolved : settings.resolver.resolve? domain with
  | none =>
      refine ⟨⟨domain, recipients, .unresolved⟩, machine, ?_, rfl, ?_⟩
      · simp only [attemptBy, resolved]
      · rintro ⟨other, target⟩ listed
        have different : other ≠ domain := by
          rintro rfl
          rw [known.mpr listed] at resolved
          cases resolved
        rw [if_neg fun member => different (List.mem_singleton.mp member)]
  | some target =>
      obtain ⟨refused, endpoint, after, transferred, delivered⟩ :=
        hosting.transfer_delivered (known.mp resolved) carried
      refine ⟨⟨domain, recipients, .transferred ⟨.ok (), refused⟩ endpoint⟩, after, ?_, rfl,
        delivered⟩
      simp only [attemptBy, resolved, transferred]

theorem attempts_delivered (hosting : Hosting settings machine) (nodup : domains.Nodup)
    (lower : ∀ domain ∈ domains, lowercase domain = domain)
    (carried : Carried settings mail domains machine) (members : String → List String) :
    ∃ attempts after, attemptAllBy settings.resolver.resolve? settings mail
        (domains.map fun domain => (domain, members domain)) machine = (attempts, after) ∧
      (∀ attempt ∈ attempts, attempt.failure? = none) ∧
      Delivered settings mail domains machine after := by
  induction domains generalizing machine with
  | nil =>
      refine ⟨[], machine, rfl, fun attempt member => absurd member List.not_mem_nil, ?_⟩
      exact fun entry _ => (if_neg List.not_mem_nil).symm
  | cons domain domains ih =>
      rw [List.nodup_cons] at nodup
      rw [List.forall_mem_cons] at lower
      have carried_here : Carried settings mail [domain] machine := by
        intro entry listed named
        rw [List.mem_singleton] at named
        exact carried entry listed (named ▸ List.mem_cons_self)
      obtain ⟨attempt, between, attempted, unfailed, first⟩ :=
        hosting.attempt_delivered lower.1 carried_here (members domain)
      obtain ⟨attempts, after, others_attempted, others_unfailed, others⟩ :=
        ih (first.hosting hosting) nodup.2 lower.2 (first.carried nodup.1 carried)
      refine ⟨attempt :: attempts, after, ?_, List.forall_mem_cons.mpr ⟨unfailed, others_unfailed⟩,
        Delivered.trans nodup.1 first others⟩
      simp only [List.map_cons, attemptAllBy, attempted, others_attempted]

end Hosting

def AsciiDomains (mail : Mail) : Prop :=
  ∀ domain ∈ mail.recipients.filterMap Address.domain?, IsAscii domain

instance (mail : Mail) : Decidable (AsciiDomains mail) :=
  inferInstanceAs (Decidable (∀ domain ∈ mail.recipients.filterMap Address.domain?, IsAscii domain))

theorem AsciiDomains.of_recipient (ascii : AsciiDomains mail) {recipient : String}
    (present : recipient ∈ mail.recipients) (found : Address.domain? recipient = some domain) :
    IsAscii domain :=
  ascii domain (List.mem_filterMap.mpr ⟨recipient, present, found⟩)

theorem AsciiDomains.lowercase (ascii : AsciiDomains mail) :
    ∀ domain ∈ Address.domains mail.recipients, lowercase domain = domain := by
  intro domain member
  obtain ⟨recipient, present, routed⟩ := Address.mem_domains.mp member
  obtain ⟨spelled, found, rfl⟩ := Option.map_eq_some_iff.mp routed
  exact Text.lowercase_small (Text.lowercase_lower (ascii.of_recipient present found))

theorem AsciiDomains.attempted (ascii : AsciiDomains mail) (lower : IsLower domain) {user : String}
    (names : mail.Names user domain) : domain ∈ Address.domains mail.recipients := by
  obtain ⟨recipient, present, spelled, parsed, same⟩ := names
  have found : Address.domain? recipient = some spelled := by
    rw [Address.domain?, parsed, Option.map_some]
  rw [Text.sameIgnoringAsciiCase_lower (ascii.of_recipient present found) lower] at same
  have routed : Address.route? recipient = some domain := by
    rw [Address.route?, found, Option.map_some, same]
  exact Address.mem_domains.mpr ⟨recipient, present, routed⟩

/-- A server has one copy more of a mail for each existing user whom the mail names, and is otherwise as
before. -/
structure Gained (mail : Mail) (server taken : MailboxServer) : Prop where
  users : taken.delivery.users = server.delivery.users
  one : ∀ user, server.delivery.users.has user = true →
    mail.Names user server.delivery.users.domain →
      taken.delivery.mailboxes.list user = server.delivery.mailboxes.list user ++
        [server.delivery.mailboxes.coming user mail]
  none : ∀ user, ¬(server.delivery.users.has user = true ∧
    mail.Names user server.delivery.users.domain) →
      taken.delivery.mailboxes.list user = server.delivery.mailboxes.list user

namespace Gained

theorem of_taking (server : MailboxServer) (mail : Mail) :
    Gained mail server (server.taking mail) where
  users := rfl
  one user known names := by
    have stored := server.delivery.deliver_list mail user
    rwa [if_pos (Delivery.mem_addressees.mpr ⟨known, names⟩)] at stored
  none user unnamed := by
    have stored := server.delivery.deliver_list mail user
    rwa [if_neg fun addressed => unnamed (Delivery.mem_addressees.mp addressed),
      List.append_nil] at stored

theorem of_unnamed {server : MailboxServer}
    (unnamed : ∀ user, ¬mail.Names user server.delivery.users.domain) :
    Gained mail server server where
  users := rfl
  one user _ names := absurd names (unnamed user)
  none _ _ := rfl

end Gained

theorem Delivered.gained
    (delivered : Delivered settings mail (Address.domains mail.recipients) machine after)
    (hosting : Hosting settings machine) (ascii : AsciiDomains mail) {target : String}
    (listed : (domain, target) ∈ settings.resolver.targets) :
    ∃ server taken, machine.serverAt? target = some server ∧
      server.delivery.users.domain = domain ∧ after.serverAt? target = some taken ∧
      Gained mail server taken := by
  obtain ⟨server, here, _, own⟩ := hosting.served _ listed
  have left := delivered _ listed
  rw [here] at left
  by_cases attempted : domain ∈ Address.domains mail.recipients
  · rw [if_pos attempted] at left
    exact ⟨server, server.taking mail, here, own, left, Gained.of_taking server mail⟩
  · rw [if_neg attempted] at left
    refine ⟨server, server, here, own, left, Gained.of_unnamed ?_⟩
    rw [own]
    exact fun user names => attempted (ascii.attempted (hosting.lower _ listed) names)

/-- Delivery is exactly once. A relay to servers of the machine adds one copy of the mail to the mailbox
of every existing user whom it names, and none to the others; the report has no other complaint than of
the domains that are not in the table. -/
theorem relay_delivers_once (hosting : Hosting settings machine) (ascii : AsciiDomains mail)
    (carried : Carried settings mail (Address.domains mail.recipients) machine) :
    let report := (Relay.relay settings mail machine).1
    let after := (Relay.relay settings mail machine).2
    (∀ domain target, (domain, target) ∈ settings.resolver.targets → ∃ server taken,
      machine.serverAt? target = some server ∧ server.delivery.users.domain = domain ∧
      after.serverAt? target = some taken ∧ Gained mail server taken) ∧
    (∀ recipient, recipient ∈ report.failed ↔ recipient ∈ mail.recipients ∧ ∃ domain,
      Address.route? recipient = some domain ∧ settings.resolver.resolve? domain = none) ∧
    report.errors.Nodup ∧
    ∀ text, text ∈ report.errors ↔ ∃ domain ∈ Address.domains mail.recipients,
      settings.resolver.resolve? domain = none ∧ text = "unknown domain " ++ domain := by
  intro report after
  obtain ⟨attempts, last, attempted, unfailed, delivered⟩ := hosting.attempts_delivered
    (Address.domains_nodup mail.recipients) ascii.lowercase carried
    fun domain => Address.withRoute (some domain) mail.recipients
  have all_attempts : attemptsBy settings.resolver.resolve? settings mail machine =
      (attempts, last) := by
    rw [attemptsBy, Address.groupByDomain_eq]
    exact attempted
  have whole : Relay.relay settings mail machine =
      relayBy settings.resolver.resolve? settings mail machine := Relay.relay_by settings mail machine
  have after_last : after = last := by
    change (Relay.relay settings mail machine).2 = last
    rw [whole, relayBy, all_attempts]
  have no_failure : ∀ attempt ∈
      (attemptsBy settings.resolver.resolve? settings mail machine).1, attempt.failure? = none := by
    rw [all_attempts]
    exact unfailed
  refine ⟨?_, ?_, ?_, ?_⟩
  · intro domain target listed
    rw [after_last]
    exact delivered.gained hosting ascii listed
  · change ∀ recipient, recipient ∈ (Relay.relay settings mail machine).1.failed ↔ _
    rw [whole]
    exact Relay.unfailed_failed _ settings mail machine no_failure
  · change (Relay.relay settings mail machine).1.errors.Nodup
    rw [whole, Relay.relayBy_report]
    exact (Report.errors_sorted _ _).nodup
  · change ∀ text, text ∈ (Relay.relay settings mail machine).1.errors ↔ _
    rw [whole]
    exact Relay.unfailed_errors _ settings mail machine no_failure

def earth : MailboxServer := ⟨"earth", ⟨⟨"earth.planet", [("gaz", "piggy")]⟩, {}⟩, 30⟩

def irk : MailboxServer := ⟨"irk", ⟨⟨"irk.planet", [("tak", "mimi")]⟩, {}⟩, 30⟩

def planets : Machine where
  listening := [(⟨.loopback, 1⟩, .mailbox 0), (⟨.any, 2⟩, .mailbox 1)]
  mailboxServers := [earth, irk]
  keys := ⟨[], "", [], []⟩
  files := {}

def planetSettings : Relay.Settings :=
  ⟨⟨[("earth.planet", "127.0.0.1:1"), ("irk.planet", "localhost:2")]⟩, "postmaster@irk.planet", 30⟩

def invitation : Mail :=
  ⟨"zim@irk.planet",
    ["gaz@earth.planet", "tak@Irk.planet", "gaz@EARTH.planet", "dib@irk.planet", "gir@moon.base"],
    "come", "and see", none⟩

theorem earth_served : planets.serverAt? "127.0.0.1:1" = some earth := by
  have reached : planets.reached? "127.0.0.1:1" = some 0 := by decide +kernel
  rw [Machine.serverAt?, reached]
  rfl

theorem irk_served : planets.serverAt? "localhost:2" = some irk := by
  have reached : planets.reached? "localhost:2" = some 1 := by decide +kernel
  rw [Machine.serverAt?, reached]
  rfl

theorem planets_hosting : Hosting planetSettings planets :=
  ⟨by decide, by decide +kernel, by decide, List.forall_mem_cons.mpr
    ⟨⟨earth, earth_served, by decide, rfl⟩,
      List.forall_mem_singleton.mpr ⟨irk, irk_served, by decide, rfl⟩⟩⟩

theorem invitation_clean {delivery : Delivery}
    (reply_short : (Wire.lineBytes
      (Transfer.Desk.admission delivery invitation.recipients)).length ≤ Wire.maxLine) :
    WireClean delivery invitation := by
  refine ⟨⟨by decide, by decide, by decide, by decide, by decide, ?_, by decide, reply_short⟩,
    by decide, by decide⟩
  rintro text ⟨⟩

theorem invitation_carried :
    Carried planetSettings invitation (Address.domains invitation.recipients) planets := by
  rw [Carried, planetSettings, List.forall_mem_cons, List.forall_mem_singleton]
  refine ⟨fun _ server here => ?_, fun _ server here => ?_⟩
  · cases earth_served.symm.trans here
    exact invitation_clean (by decide)
  · cases irk_served.symm.trans here
    exact invitation_clean (by decide)

theorem invitation_delivers_once :
    Hosting planetSettings planets ∧ AsciiDomains invitation ∧
      Carried planetSettings invitation (Address.domains invitation.recipients) planets ∧
    let report := (Relay.relay planetSettings invitation planets).1
    let after := (Relay.relay planetSettings invitation planets).2
    (∃ taken, after.serverAt? "127.0.0.1:1" = some taken ∧
      taken.delivery.mailboxes.list "gaz" = [(1, invitation)]) ∧
    (∃ taken, after.serverAt? "localhost:2" = some taken ∧
      taken.delivery.mailboxes.list "tak" = [(1, invitation)] ∧
      taken.delivery.mailboxes.list "dib" = []) ∧
    "gir@moon.base" ∈ report.failed ∧ "dib@irk.planet" ∉ report.failed ∧
    "unknown domain moon.base" ∈ report.errors := by
  have ascii : AsciiDomains invitation := by decide +kernel
  obtain ⟨gained, failed, _, errors⟩ :=
    relay_delivers_once planets_hosting ascii invitation_carried
  refine ⟨planets_hosting, ascii, invitation_carried, ?_, ?_, ?_, ?_, ?_⟩
  · obtain ⟨server, taken, here, _, there, boxes⟩ :=
      gained "earth.planet" "127.0.0.1:1" List.mem_cons_self
    cases earth_served.symm.trans here
    exact ⟨taken, there, boxes.one "gaz" (by decide) ⟨"gaz@earth.planet", by decide,
      "earth.planet", by decide +kernel, by decide +kernel⟩⟩
  · obtain ⟨server, taken, here, _, there, boxes⟩ :=
      gained "irk.planet" "localhost:2" (List.mem_cons_of_mem _ List.mem_cons_self)
    cases irk_served.symm.trans here
    refine ⟨taken, there, boxes.one "tak" (by decide) ⟨"tak@Irk.planet", by decide, "Irk.planet",
      by decide +kernel, by decide +kernel⟩, boxes.none "dib" ?_⟩
    rintro ⟨known, _⟩
    exact absurd known (by decide)
  · exact (failed _).mpr ⟨by decide, "moon.base", by decide +kernel, by decide +kernel⟩
  · rw [failed]
    rintro ⟨_, domain, routed, unknown⟩
    have at_irk : Address.route? "dib@irk.planet" = some "irk.planet" := by decide +kernel
    cases at_irk.symm.trans routed
    exact absurd unknown (by decide +kernel)
  · exact (errors _).mpr ⟨"moon.base", by decide +kernel, by decide +kernel, by decide +kernel⟩

end MailExchange.Service
