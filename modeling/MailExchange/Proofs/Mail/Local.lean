import MailExchange.Proofs.Mail.Delivery
import MailExchange.Proofs.Routing
import MailExchange.Proofs.Text.Lowercase

/-!
Which addresses a server takes for its own. Mail is routed by the full lower case of a domain, and the
server of the domain compares by ASCII case. The two agree unless a capital letter past ASCII stands in
the domain of a recipient: such a recipient is routed to the server, which accepts it and lets it go.
-/

namespace MailExchange

open Text (AsciiCapitals lowercase)

theorem Address.route_parse {address user spelled : String}
    (parsed : parse? address = some ⟨user, spelled⟩) :
    route? address = some (lowercase spelled) := by
  rw [route?, domain?, parsed, Option.map_some, Option.map_some]

theorem Address.route_some {address route : String} (routed : route? address = some route) :
    ∃ user spelled, parse? address = some ⟨user, spelled⟩ ∧ lowercase spelled = route := by
  obtain ⟨spelled, found, rfl⟩ := Option.map_eq_some_iff.mp routed
  obtain ⟨⟨user, spelled⟩, parsed, rfl⟩ := Option.map_eq_some_iff.mp found
  exact ⟨user, spelled, parsed, rfl⟩

theorem Address.route_lower {address route : String} (routed : route? address = some route) :
    lowercase route = route := by
  obtain ⟨user, spelled, _, rfl⟩ := route_some routed
  exact Text.lowercase_twice spelled

theorem Resolver.resolve_lower (pairs : List (String × String)) {route : String}
    (lower : lowercase route = route) :
    (ofPairs pairs).resolve? route =
      (pairs.reverse.find? fun pair => lowercase pair.1 == route).map Prod.snd := by
  rw [resolve?, ofPairs, lower, ← List.map_reverse, List.find?_map, Option.map_map]
  rfl

theorem Users.localUser_user {users : Users} {address user : String}
    (found : users.localUser? address = some user) : Address.user? address = some user := by
  obtain ⟨spelled, parsed, _⟩ := localUser_some.mp found
  rw [Address.user?, parsed, Option.map_some]

theorem Users.localUser_lower {users : Users} (lower : lowercase users.domain = users.domain)
    {address user : String} : users.localUser? address = some user ↔
      Address.route? address = some users.domain ∧
        ∃ spelled, Address.parse? address = some ⟨user, spelled⟩ ∧ AsciiCapitals spelled := by
  rw [localUser_some, ← lower]
  simp only [Text.sameIgnoringAsciiCase_lowercase]
  constructor
  · rintro ⟨spelled, parsed, same, capitals⟩
    exact ⟨by rw [Address.route_parse parsed, same], spelled, parsed, capitals⟩
  · rintro ⟨routed, spelled, parsed, capitals⟩
    rw [Address.route_parse parsed, Option.some.injEq] at routed
    exact ⟨spelled, parsed, routed, capitals⟩

theorem Users.localUser_isSome {users : Users} (lower : lowercase users.domain = users.domain)
    {address user spelled : String} (parsed : Address.parse? address = some ⟨user, spelled⟩) :
    (users.localUser? address).isSome = true ↔
      Address.route? address = some users.domain ∧ AsciiCapitals spelled := by
  rw [Option.isSome_iff_exists]
  simp only [localUser_lower lower, parsed, Option.some.injEq, Address.mk.injEq]
  constructor
  · rintro ⟨_, routed, _, ⟨_, rfl⟩, capitals⟩
    exact ⟨routed, capitals⟩
  · rintro ⟨routed, capitals⟩
    exact ⟨user, routed, spelled, ⟨rfl, rfl⟩, capitals⟩

namespace Delivery

theorem accepts_local {delivery : Delivery} {address user : String}
    (found : delivery.users.localUser? address = some user) :
    delivery.accepts address = delivery.users.has user := by
  rw [accepts, found]

theorem accepts_foreign {delivery : Delivery} {address : String}
    (foreign : delivery.users.localUser? address = none) : delivery.accepts address = true := by
  rw [accepts, foreign]

theorem accepts_eq_false {delivery : Delivery} {address : String} :
    delivery.accepts address = false ↔
      ∃ user, delivery.users.localUser? address = some user ∧ delivery.users.has user = false := by
  rw [accepts]
  cases delivery.users.localUser? address with
  | none => simp only [reduceCtorEq, false_and, exists_false]
  | some user => simp only [Option.some.injEq, exists_eq_left']

theorem addressees_without {delivery : Delivery} {recipient : String}
    (foreign : delivery.users.localUser? recipient = none) (mail : Mail) :
    delivery.addressees { mail with recipients := mail.recipients.filter (· ≠ recipient) } =
      delivery.addressees mail := by
  have same : (mail.recipients.filter (· ≠ recipient)).filterMap delivery.users.localUser? =
      mail.recipients.filterMap delivery.users.localUser? := by
    rw [List.filterMap_filter]
    apply List.filterMap_congr
    intro other _
    by_cases this_one : other = recipient
    · rw [this_one, foreign, ite_self]
    · rw [if_pos (decide_eq_true this_one)]
  simp only [addressees, same]

theorem deals {delivery : Delivery} {mail : Mail} {recipient user : String}
    (member : recipient ∈ mail.recipients)
    (own : delivery.users.localUser? recipient = some user) :
    delivery.accepts recipient = false ∧ delivery.users.has user = false ∨
      delivery.accepts recipient = true ∧ delivery.users.has user = true ∧
        (delivery.deliver mail).mailboxes.list user =
          delivery.mailboxes.list user ++ [delivery.mailboxes.coming user mail] := by
  have accepts := accepts_local own
  cases known : delivery.users.has user with
  | false => exact Or.inl ⟨accepts.trans known, rfl⟩
  | true =>
      obtain ⟨_, parsed, same⟩ := Users.localUser_some.mp own
      have addressed : user ∈ delivery.addressees mail :=
        mem_addressees.mpr ⟨known, recipient, member, _, parsed, same⟩
      have stored := delivery.deliver_list mail user
      rw [if_pos addressed] at stored
      exact Or.inr ⟨accepts.trans known, rfl, stored⟩

end Delivery

/-- Routing and delivery agree on what a domain is, up to capital letters past ASCII. The table is
looked up for the very domain that mail is grouped by. An address belongs to the users of a domain if it
is routed there and its domain has no such letter; then it is refused, or its user gets the mail. If it
has one, it is accepted and makes no difference to who gets the mail. -/
theorem local_routed (domain : String) (passwords : List (String × String)) (mailboxes : Mailboxes) :
    let delivery : Delivery := ⟨.ofDomain domain passwords, mailboxes⟩
    (∀ pairs address route, Address.route? address = some route →
      (Resolver.ofPairs pairs).resolve? route =
        (pairs.reverse.find? fun pair => lowercase pair.1 == route).map Prod.snd) ∧
    (∀ address user spelled, Address.parse? address = some ⟨user, spelled⟩ →
      ((delivery.users.localUser? address).isSome = true ↔
        Address.route? address = some (lowercase domain) ∧ AsciiCapitals spelled)) ∧
    ∀ (mail : Mail) (recipient user spelled : String),
      recipient ∈ Address.withRoute (some (lowercase domain)) mail.recipients →
      Address.parse? recipient = some ⟨user, spelled⟩ →
      (AsciiCapitals spelled →
        delivery.accepts recipient = false ∧ delivery.users.has user = false ∨
        delivery.accepts recipient = true ∧ delivery.users.has user = true ∧
          (delivery.deliver mail).mailboxes.list user =
            mailboxes.list user ++ [mailboxes.coming user mail]) ∧
      (¬AsciiCapitals spelled →
        delivery.accepts recipient = true ∧
          delivery.addressees { mail with recipients := mail.recipients.filter (· ≠ recipient) } =
            delivery.addressees mail) := by
  intro delivery
  have lower : lowercase delivery.users.domain = delivery.users.domain := Text.lowercase_twice domain
  refine ⟨?_, ?_, ?_⟩
  · intro pairs address route routed
    exact Resolver.resolve_lower pairs (Address.route_lower routed)
  · intro address user spelled parsed
    exact Users.localUser_isSome lower parsed
  · intro mail recipient user spelled grouped parsed
    obtain ⟨member, routed⟩ := Address.mem_withRoute.mp grouped
    constructor
    · intro capitals
      exact Delivery.deals member
        ((Users.localUser_lower lower).mpr ⟨routed, spelled, parsed, capitals⟩)
    · intro capitals
      have foreign : delivery.users.localUser? recipient = none := by
        rw [← Option.not_isSome_iff_eq_none, Users.localUser_isSome lower parsed]
        exact fun both => capitals both.2
      exact ⟨Delivery.accepts_foreign foreign, Delivery.addressees_without foreign mail⟩

/-- A mail to a user of a domain with a capital letter past ASCII, spelled as the domain itself: it is
routed there, accepted, and lost. -/
theorem accented_lost :
    let delivery : Delivery := ⟨.ofDomain "École.fr" [("zoé", "secret")], {}⟩
    let mail : Mail := ⟨"zim@irk.planet", ["zoé@École.fr"], "doom", "soon", none⟩
    Address.groupByDomain mail.recipients = ⟨[("école.fr", ["zoé@École.fr"])], []⟩ ∧
    (Resolver.ofPairs [("École.fr", "127.0.0.1:1")]).resolve? "école.fr" = some "127.0.0.1:1" ∧
    (delivery.users.localUser? "zoé@École.fr").isSome = false ∧
    delivery.users.has "zoé" = true ∧ delivery.accepts "zoé@École.fr" = true ∧
    delivery.addressees mail = [] := by
  intro delivery mail
  have parsed : Address.parse? "zoé@École.fr" = some ⟨"zoé", "École.fr"⟩ := by decide +kernel
  have grouped : "zoé@École.fr" ∈ Address.withRoute (some (lowercase "École.fr")) mail.recipients :=
    by decide +kernel
  have capital : ¬AsciiCapitals "École.fr" := by decide +kernel
  obtain ⟨table, own, dealt⟩ := local_routed "École.fr" [("zoé", "secret")] {}
  obtain ⟨accepted, without⟩ := (dealt mail _ _ _ grouped parsed).2 capital
  refine ⟨by decide +kernel, ?_, ?_, by decide, accepted, ?_⟩
  · have routed : Address.route? "zoé@École.fr" = some "école.fr" := by decide +kernel
    rw [table [("École.fr", "127.0.0.1:1")] _ _ routed]
    decide +kernel
  · rw [Bool.eq_false_iff]
    exact fun found => capital ((own _ _ _ parsed).mp found).2
  · rw [← without]
    decide +kernel

end MailExchange
