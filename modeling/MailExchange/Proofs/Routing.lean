import MailExchange.Address
import MailExchange.Relay.Report
import Mathlib.Data.List.Induction
import Mathlib.Data.List.Nodup

namespace MailExchange

namespace Address

/-- The domains among some recipients, each where it first appears. -/
def domains (recipients : List String) : List String := (recipients.filterMap route?).eraseDups

def withRoute (route : Option String) (recipients : List String) : List String :=
  recipients.filter fun recipient => decide (route? recipient = route)

theorem eraseDups_snoc (names : List String) (name : String) :
    (names ++ [name]).eraseDups =
      if name ∈ names then names.eraseDups else names.eraseDups ++ [name] := by
  rw [List.eraseDups_append]
  by_cases known : name ∈ names
  · rw [if_pos known, List.removeAll, List.filter_cons_of_neg (by simpa using known)]
    exact List.append_nil _
  · rw [if_neg known, List.removeAll, List.filter_cons_of_pos (by simpa using known)]
    rfl

theorem eraseDups_nodup (names : List String) : names.eraseDups.Nodup := by
  induction names using List.reverseRecOn with
  | nil => exact List.nodup_nil
  | append_singleton names name ih =>
      rw [eraseDups_snoc]
      split
      · exact ih
      · rename_i unknown
        rw [← List.concat_eq_append]
        exact ih.concat fun member => unknown (List.mem_eraseDups.mp member)

theorem domains_nodup (recipients : List String) : (domains recipients).Nodup :=
  eraseDups_nodup _

theorem mem_domains {domain : String} {recipients : List String} :
    domain ∈ domains recipients ↔ ∃ recipient ∈ recipients, route? recipient = some domain := by
  rw [domains, List.mem_eraseDups, List.mem_filterMap]

theorem mem_withRoute {route : Option String} {recipient : String} {recipients : List String} :
    recipient ∈ withRoute route recipients ↔ recipient ∈ recipients ∧ route? recipient = route := by
  rw [withRoute, List.mem_filter, decide_eq_true_eq]

theorem route_none {recipient : String} :
    route? recipient = none ↔ isValid recipient = false := by
  rw [route?, domain?, Option.map_eq_none_iff, Option.map_eq_none_iff, isValid,
    Option.isSome_eq_false_iff, Option.isNone_iff_eq_none]

theorem withRoute_snoc (route : Option String) (recipients : List String) (recipient : String) :
    withRoute route (recipients ++ [recipient]) =
      withRoute route recipients ++ if route? recipient = route then [recipient] else [] := by
  simp only [withRoute, List.filter_append, List.filter_cons, List.filter_nil, decide_eq_true_eq]

theorem addToGroup_map {names : List String} (nodup : names.Nodup)
    (members : String → List String) (domain recipient : String) :
    addToGroup domain recipient (names.map fun name => (name, members name)) =
      names.map (fun name =>
        (name, members name ++ if domain = name then [recipient] else [])) ++
        if domain ∈ names then [] else [(domain, [recipient])] := by
  induction names with
  | nil => rfl
  | cons name names ih =>
      rw [List.nodup_cons] at nodup
      rw [List.map_cons, addToGroup]
      by_cases here : name = domain
      · subst here
        have unchanged : names.map (fun other =>
            (other, members other ++ if name = other then [recipient] else [])) =
              names.map fun other => (other, members other) := by
          apply List.map_congr_left
          intro other member
          have different : name ≠ other := fun same => nodup.1 (same ▸ member)
          rw [if_neg different, List.append_nil]
        rw [if_pos rfl, List.map_cons, if_pos rfl, if_pos List.mem_cons_self, unchanged,
          List.append_nil]
      · have member : domain ∈ name :: names ↔ domain ∈ names := by
          rw [List.mem_cons, or_iff_right (Ne.symm here)]
        rw [if_neg here, ih nodup.2, List.map_cons, if_neg (Ne.symm here), List.append_nil]
        simp only [member]
        rfl

theorem groupByDomain_snoc (recipients : List String) (recipient : String) :
    groupByDomain (recipients ++ [recipient]) = (groupByDomain recipients).add recipient :=
  List.foldl_append

theorem domains_snoc (recipients : List String) (recipient : String) :
    domains (recipients ++ [recipient]) =
      match route? recipient with
      | none => domains recipients
      | some domain =>
        domains recipients ++ if domain ∈ domains recipients then [] else [domain] := by
  rw [domains, List.filterMap_append]
  cases routed : route? recipient with
  | none => rw [List.filterMap_cons_none routed, List.filterMap_nil, List.append_nil, domains]
  | some domain =>
      rw [List.filterMap_cons_some routed, List.filterMap_nil, eraseDups_snoc]
      simp only [domains, List.mem_eraseDups]
      split
      · rw [List.append_nil]
      · rfl

theorem groupByDomain_eq (recipients : List String) :
    groupByDomain recipients =
      ⟨(domains recipients).map fun domain => (domain, withRoute (some domain) recipients),
        withRoute none recipients⟩ := by
  induction recipients using List.reverseRecOn with
  | nil => rfl
  | append_singleton recipients recipient ih =>
      rw [groupByDomain_snoc, ih, Routing.add, domains_snoc, withRoute_snoc]
      cases routed : route? recipient with
      | none =>
          have unmoved (domain : String) : withRoute (some domain) (recipients ++ [recipient]) =
              withRoute (some domain) recipients := by
            rw [withRoute_snoc, routed, if_neg (Option.some_ne_none domain).symm, List.append_nil]
          simp only [unmoved, if_true]
      | some domain =>
          have joined (name : String) : withRoute (some name) (recipients ++ [recipient]) =
              withRoute (some name) recipients ++ if domain = name then [recipient] else [] := by
            rw [withRoute_snoc, routed]
            simp only [Option.some.injEq]
          simp only [reduceCtorEq, if_false, List.append_nil,
            addToGroup_map (domains_nodup recipients), List.map_append, joined]
          by_cases known : domain ∈ domains recipients
          · simp only [if_pos known, List.map_nil]
          · have nobody : withRoute (some domain) recipients = [] := by
              apply List.eq_nil_iff_forall_not_mem.mpr
              intro other member
              exact known (mem_domains.mpr ⟨other, mem_withRoute.mp member⟩)
            simp only [if_neg known, List.map_cons, List.map_nil, nobody, if_true, List.nil_append]

end Address

theorem Resolver.resolve_some (resolver : Resolver) (distinct : (resolver.targets.map Prod.fst).Nodup)
    (domain target : String) : resolver.resolve? domain = some target ↔
      (Text.lowercase domain, target) ∈ resolver.targets := by
  rw [resolve?, Option.map_eq_some_iff]
  constructor
  · rintro ⟨⟨name, found⟩, first, rfl⟩
    have same := List.find?_some first
    rw [← beq_iff_eq.mp same]
    exact List.mem_reverse.mp (List.mem_of_find?_eq_some first)
  · intro listed
    have there : (resolver.targets.reverse.find? (·.1 == Text.lowercase domain)).isSome = true :=
      List.find?_isSome.mpr ⟨_, List.mem_reverse.mpr listed, beq_self_eq_true _⟩
    obtain ⟨entry, first⟩ := Option.isSome_iff_exists.mp there
    have present := List.mem_reverse.mp (List.mem_of_find?_eq_some first)
    have same := List.find?_some first
    have whole := List.inj_on_of_nodup_map distinct present listed (beq_iff_eq.mp same)
    exact ⟨entry, first, congrArg Prod.snd whole⟩

end MailExchange
