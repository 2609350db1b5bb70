import MailExchange.Proofs.Relay.Accounting
import MailExchange.Proofs.Transfer.Refused

/-!
What a report makes of the users whom a server refuses. The server names users alone, and each name is
taken for the first recipient of the group who has it: one who has a name that came before is left out,
and a name that nobody has is dropped.
-/

namespace MailExchange.Relay

open Transfer (Refuses)

/-- Nobody before a recipient has the same user part. -/
def Leads (recipients : List String) (recipient : String) : Prop :=
  ∃ earlier later, recipients = earlier ++ recipient :: later ∧
    ∀ other ∈ earlier, Address.user? other ≠ Address.user? recipient

def IsAmong (users : List String) (recipient : String) : Prop :=
  ∃ user ∈ users, Address.user? recipient = some user

section Leading

variable {recipients : List String} {recipient other : String}

theorem leads_iff : Leads recipients recipient ↔
    recipients.find? (Address.user? · == Address.user? recipient) = some recipient := by
  rw [List.find?_eq_some_iff_append, beq_self_eq_true]
  simp only [Leads, true_and, Bool.not_eq_true', beq_eq_false_iff_ne, exists_and_right]

theorem Leads.mem (leads : Leads recipients recipient) : recipient ∈ recipients :=
  List.mem_of_find?_eq_some (leads_iff.mp leads)

theorem Leads.unique (leads : Leads recipients recipient) (other_leads : Leads recipients other)
    (same : Address.user? other = Address.user? recipient) : other = recipient := by
  have first := leads_iff.mp leads
  rw [← same, leads_iff.mp other_leads] at first
  exact Option.some.inj first

theorem leader (member : recipient ∈ recipients) :
    ∃ first, Leads recipients first ∧ Address.user? first = Address.user? recipient := by
  have there : (recipients.find? (Address.user? · == Address.user? recipient)).isSome = true :=
    List.find?_isSome.mpr ⟨recipient, member, beq_self_eq_true _⟩
  obtain ⟨first, found⟩ := Option.isSome_iff_exists.mp there
  have same := List.find?_some found
  rw [beq_iff_eq] at same
  exact ⟨first, leads_iff.mpr (by rw [same, found]), same⟩

/-- All who are named in some way lead if no two of them share a user part, and only then. -/
theorem all_lead {Named : String → Prop}
    (alike : ∀ one other, Address.user? other = Address.user? one → Named one → Named other) :
    (∀ recipient ∈ recipients, Named recipient → Leads recipients recipient) ↔
      ∀ one ∈ recipients, ∀ other ∈ recipients, Named one →
        Address.user? other = Address.user? one → other = one := by
  constructor
  · intro all one member other other_member named same
    exact (all one member named).unique (all other other_member (alike one other same named)) same
  · intro apart recipient member named
    obtain ⟨first, leads, same⟩ := leader member
    rwa [apart recipient member first leads.mem named same] at leads

theorem IsAmong.alike {users : List String} {one other : String}
    (same : Address.user? other = Address.user? one) (among : IsAmong users one) :
    IsAmong users other := by
  rwa [IsAmong, same]

end Leading

namespace Attempt

/-- What the server said to the recipients: the third line that was heard from it. -/
def admission? (attempt : Attempt) : Option String :=
  match attempt.outcome with
  | .transferred _ endpoint => endpoint.heard[2]?
  | _ => none

def refused (attempt : Attempt) : List String :=
  match attempt.outcome with
  | .transferred submission _ => submission.refused.getD []
  | _ => []

/-- Users are refused by what a server says to the recipients, and by nothing else. -/
structure Understood (attempt : Attempt) : Prop where
  refused : ∀ text, attempt.admission? = some ("error unknown recipient " ++ text) →
    attempt.refused = Text.splitAtEach ',' text
  said : attempt.refused ≠ [] →
    ∃ text, attempt.admission? = some ("error unknown recipient " ++ text)

variable {attempt : Attempt} {recipient : String}

theorem Understood.silent (unsaid : attempt.admission? = none) (nobody : attempt.refused = []) :
    attempt.Understood :=
  ⟨fun _ said => absurd (said.symm.trans unsaid) (Option.some_ne_none _), (absurd nobody ·)⟩

theorem recipientNamed_some {user : String} : attempt.recipientNamed? user = some recipient ↔
    Leads attempt.recipients recipient ∧ Address.user? recipient = some user := by
  rw [recipientNamed?, leads_iff]
  constructor
  · intro found
    have same := List.find?_some found
    rw [beq_iff_eq] at same
    exact ⟨by rw [same, found], same⟩
  · rintro ⟨leads, same⟩
    rwa [same] at leads

theorem mem_unknown : recipient ∈ attempt.unknown ↔
    Leads attempt.recipients recipient ∧ IsAmong attempt.refused recipient := by
  have named : attempt.unknown = attempt.refused.filterMap attempt.recipientNamed? := by
    rw [unknown, refused]
    cases attempt.outcome <;> rfl
  simp only [named, List.mem_filterMap, recipientNamed_some, IsAmong]
  constructor
  · rintro ⟨user, listed, leads, same⟩
    exact ⟨leads, user, listed, same⟩
  · rintro ⟨leads, user, listed, same⟩
    exact ⟨user, listed, leads, same⟩

theorem all_unknown :
    (∀ recipient ∈ attempt.recipients, IsAmong attempt.refused recipient →
      recipient ∈ attempt.unknown) ↔
    ∀ one ∈ attempt.recipients, ∀ other ∈ attempt.recipients, IsAmong attempt.refused one →
      Address.user? other = Address.user? one → other = one := by
  rw [← all_lead fun _ _ => IsAmong.alike]
  simp only [mem_unknown]
  constructor
  · exact fun all recipient member among => (all recipient member among).1
  · exact fun all recipient member among => ⟨all recipient member among, among⟩

theorem some_unknown : (∃ recipient ∈ attempt.recipients, recipient ∈ attempt.unknown) ↔
    ∃ recipient ∈ attempt.recipients, IsAmong attempt.refused recipient := by
  simp only [mem_unknown]
  constructor
  · rintro ⟨recipient, member, _, among⟩
    exact ⟨recipient, member, among⟩
  · rintro ⟨recipient, member, among⟩
    obtain ⟨first, leads, same⟩ := leader member
    exact ⟨first, leads.mem, leads, among.alike same⟩

end Attempt

theorem Report.unclean {report : Report} {recipient : String} (named : recipient ∈ report.unknown) :
    report.isClean = false := by
  rw [← Bool.not_eq_true]
  intro clean
  rw [(isClean_empty clean).1] at named
  cases named

section Relaying

variable {ν : Type} [Network ν] (resolve : String → Option String) (settings : Settings) (mail : Mail)
  (network : ν)

/-- The network when a relay comes to a domain. -/
def networkAt (domain : String) : ν :=
  (attemptAllBy resolve settings mail
    ((Address.groupByDomain mail.recipients).groups.takeWhile (·.1 != domain)) network).2

theorem attemptAllBy_cons (group : String × List String) (groups : List (String × List String)) :
    attemptAllBy resolve settings mail (group :: groups) network =
      ((attemptBy resolve settings mail group network).1 :: (attemptAllBy resolve settings mail
          groups (attemptBy resolve settings mail group network).2).1,
        (attemptAllBy resolve settings mail
          groups (attemptBy resolve settings mail group network).2).2) := rfl

theorem attemptAllBy_eq {groups : List (String × List String)}
    (distinct : (groups.map Prod.fst).Nodup) :
    (attemptAllBy resolve settings mail groups network).1 = groups.map fun group =>
      (attemptBy resolve settings mail group (attemptAllBy resolve settings mail
        (groups.takeWhile (·.1 != group.1)) network).2).1 := by
  induction groups generalizing network with
  | nil => rfl
  | cons group groups ih =>
      rw [List.map_cons, List.nodup_cons] at distinct
      have first : (group :: groups).takeWhile (·.1 != group.1) = [] :=
        List.takeWhile_cons_of_neg (by rw [bne_self_eq_false]; exact Bool.false_ne_true)
      rw [List.map_cons, first, attemptAllBy_cons, ih _ distinct.2]
      refine congrArg (List.cons _) (List.map_congr_left ?_)
      intro other member
      have different : group.1 ≠ other.1 := by
        intro same
        rw [same] at distinct
        exact distinct.1 (List.mem_map_of_mem member)
      have past : (group :: groups).takeWhile (·.1 != other.1) =
          group :: groups.takeWhile (·.1 != other.1) :=
        List.takeWhile_cons_of_pos (bne_iff_ne.mpr different)
      rw [past, attemptAllBy_cons]

theorem attemptsBy_eq : (attemptsBy resolve settings mail network).1 =
    (Address.domains mail.recipients).map fun domain =>
      (attemptBy resolve settings mail (domain, Address.withRoute (some domain) mail.recipients)
        (networkAt resolve settings mail network domain)).1 := by
  have groups : (Address.groupByDomain mail.recipients).groups =
      (Address.domains mail.recipients).map fun domain =>
        (domain, Address.withRoute (some domain) mail.recipients) := by
    rw [Address.groupByDomain_eq]
  have distinct : ((Address.groupByDomain mail.recipients).groups.map Prod.fst).Nodup := by
    rw [groups, List.map_map]
    simpa only [Function.comp_def, List.map_id'] using Address.domains_nodup mail.recipients
  rw [attemptsBy, attemptAllBy_eq resolve settings mail network distinct]
  simp only [networkAt, groups, List.map_map, Function.comp_def]

variable {resolve settings mail network}

theorem mem_unknown_group {attempt : Attempt}
    (present : attempt ∈ (attemptsBy resolve settings mail network).1) {recipient : String}
    (member : recipient ∈ attempt.recipients) :
    recipient ∈ (relayBy resolve settings mail network).1.unknown ↔ recipient ∈ attempt.unknown := by
  have routed {other : Attempt} (listed : other ∈ (attemptsBy resolve settings mail network).1)
      (inside : recipient ∈ other.recipients) : Address.route? recipient = some other.domain := by
    rw [(attempt_group resolve settings mail network listed).2] at inside
    exact (Address.mem_withRoute.mp inside).2
  have distinct : ((attemptsBy resolve settings mail network).1.map Attempt.domain).Nodup := by
    have names := congrArg (List.map Prod.fst) (attemptsBy_domains resolve settings mail network)
    simp only [List.map_map, Function.comp_def, List.map_id'] at names
    rw [names]
    exact Address.domains_nodup mail.recipients
  rw [relayBy_report, Report.mem_unknown]
  constructor
  · rintro (invalid | ⟨other, listed, named⟩)
    · rw [Address.mem_withRoute, routed present member] at invalid
      cases invalid.2
    · have same := (routed listed (other.unknown_subset named)).symm.trans (routed present member)
      rwa [List.inj_on_of_nodup_map distinct listed present (Option.some.inj same)] at named
  · exact fun named => Or.inr ⟨attempt, present, named⟩

theorem transfer_refused {target : String} {before : ν}
    {submission : Transfer.Client.Submission} {endpoint : Wire.Endpoint}
    (transferred : (transfer settings mail target before).1 = .transferred submission endpoint)
    {users : List String} : submission.refused = some users ↔
      ∃ text, endpoint.heard[2]? = some ("error unknown recipient " ++ text) ∧
        users = Text.splitAtEach ',' text := by
  rcases dialled : Network.dial before settings.timeout target with ⟨result, after⟩
  cases result with
  | error error =>
      rw [transfer_unreached dialled] at transferred
      cases transferred
  | ok greeting =>
      rw [transfer_opened dialled] at transferred
      cases transferred
      exact Transfer.Client.deliver_refused_some rfl

theorem attempt_understood {attempt : Attempt}
    (present : attempt ∈ (attemptsBy resolve settings mail network).1) : attempt.Understood := by
  rw [attemptsBy_eq] at present
  obtain ⟨domain, _, rfl⟩ := List.mem_map.mp present
  cases known : resolve domain with
  | none =>
      simp only [attemptBy, known]
      exact .silent rfl rfl
  | some target =>
      simp only [attemptBy, known]
      cases transferred : (transfer settings mail target
          (networkAt resolve settings mail network domain)).1 with
      | unresolved => exact .silent rfl rfl
      | unreached error => exact .silent rfl rfl
      | transferred submission endpoint =>
          constructor
          · intro text said
            exact congrArg (Option.getD · []) ((transfer_refused transferred).mpr ⟨text, said, rfl⟩)
          · intro some_user
            cases refused : submission.refused with
            | none => exact absurd (congrArg (Option.getD · []) refused) some_user
            | some users =>
                obtain ⟨text, said, _⟩ := (transfer_refused transferred).mp refused
                exact ⟨text, said⟩

end Relaying

end MailExchange.Relay
