import MailExchange.Proofs.Routing
import MailExchange.Proofs.Text.Lowercase

/-!
The routing of recipients as a partition. Every recipient is in one place, a group holds its recipients
as they came, and the groups stand in the order in which their domains first appear. No other routing
is like that.
-/

namespace MailExchange.Address

def belongsTo (domain recipient : String) : Bool :=
  isValid recipient && decide ((domain? recipient).map Text.lowercase = some domain)

/-- A stable partition of recipients by the domains of the valid ones. -/
structure IsPartition (recipients : List String) (routing : Routing) : Prop where
  invalid : routing.invalid = recipients.filter fun recipient => !isValid recipient
  distinct : (routing.groups.map Prod.fst).Nodup
  lower : ∀ group ∈ routing.groups, Text.lowercase group.1 = group.1
  /-- The domain of an earlier group appears first among the recipients. -/
  ordered : routing.groups.Pairwise fun earlier later =>
    recipients.findIdx (belongsTo earlier.1) < recipients.findIdx (belongsTo later.1)
  inhabited : ∀ group ∈ routing.groups, group.2 ≠ []
  members : ∀ group ∈ routing.groups, group.2 = recipients.filter (belongsTo group.1)
  /-- Every occurrence of a recipient is in one place. -/
  once : recipients.Perm (routing.invalid ++ routing.groups.flatMap Prod.snd)

theorem belongsTo_iff {domain recipient : String} :
    belongsTo domain recipient = true ↔ route? recipient = some domain := by
  rw [belongsTo, Bool.and_eq_true, decide_eq_true_eq]
  refine ⟨And.right, fun routed => ⟨?_, routed⟩⟩
  apply eq_true_of_ne_false
  intro invalid
  rw [route_none.mpr invalid] at routed
  cases routed

theorem withRoute_some (domain : String) (recipients : List String) :
    withRoute (some domain) recipients = recipients.filter (belongsTo domain) := by
  apply List.filter_congr
  intro recipient _
  rw [Bool.eq_iff_iff, decide_eq_true_eq, belongsTo_iff]

theorem withRoute_none (recipients : List String) :
    withRoute none recipients = recipients.filter fun recipient => !isValid recipient := by
  apply List.filter_congr
  intro recipient _
  rw [Bool.eq_iff_iff, decide_eq_true_eq, route_none, Bool.not_eq_true']

section Order

variable {recipients : List String} {domain : String}

theorem findIdx_lt (known : domain ∈ domains recipients) :
    recipients.findIdx (belongsTo domain) < recipients.length := by
  obtain ⟨recipient, member, routed⟩ := mem_domains.mp known
  exact List.findIdx_lt_length.mpr ⟨recipient, member, belongsTo_iff.mpr routed⟩

theorem findIdx_known (known : domain ∈ domains recipients) (recipient : String) :
    (recipients ++ [recipient]).findIdx (belongsTo domain) =
      recipients.findIdx (belongsTo domain) := by
  rw [List.findIdx_append, if_pos (findIdx_lt known)]

theorem le_findIdx_unknown (unknown : domain ∉ domains recipients) (recipient : String) :
    recipients.length ≤ (recipients ++ [recipient]).findIdx (belongsTo domain) := by
  rw [List.findIdx_append, if_neg]
  · exact Nat.le_add_left _ _
  · intro found
    obtain ⟨other, member, belongs⟩ := List.findIdx_lt_length.mp found
    exact unknown (mem_domains.mpr ⟨other, member, belongsTo_iff.mp belongs⟩)

theorem domains_ordered (recipients : List String) :
    (domains recipients).Pairwise fun earlier later =>
      recipients.findIdx (belongsTo earlier) < recipients.findIdx (belongsTo later) := by
  induction recipients using List.reverseRecOn with
  | nil => exact List.Pairwise.nil
  | append_singleton recipients recipient ih =>
      have still : (domains recipients).Pairwise fun earlier later =>
          (recipients ++ [recipient]).findIdx (belongsTo earlier) <
            (recipients ++ [recipient]).findIdx (belongsTo later) := by
        apply ih.imp_of_mem
        intro earlier later known also_known less
        rwa [findIdx_known known, findIdx_known also_known]
      rw [domains_snoc]
      cases route? recipient with
      | none => exact still
      | some domain =>
          by_cases known : domain ∈ domains recipients
          · simp only [if_pos known, List.append_nil]
            exact still
          · simp only [if_neg known]
            apply List.pairwise_append.mpr
            refine ⟨still, List.pairwise_singleton _ _, ?_⟩
            intro earlier also_known later last
            rw [List.mem_singleton.mp last, findIdx_known also_known]
            exact Nat.lt_of_lt_of_le (findIdx_lt also_known) (le_findIdx_unknown known recipient)

end Order

theorem withRoute_perm {routes : List (Option String)} (distinct : routes.Nodup)
    (recipients : List String) :
    (recipients.filter fun recipient => decide (route? recipient ∈ routes)).Perm
      (routes.flatMap fun route => withRoute route recipients) := by
  induction routes with
  | nil =>
      simp only [List.not_mem_nil, decide_false, List.filter_false, List.flatMap_nil]
      exact List.Perm.nil
  | cons route routes ih =>
      obtain ⟨absent, distinct_later⟩ := List.nodup_cons.mp distinct
      let chosen := recipients.filter fun recipient => decide (route? recipient ∈ route :: routes)
      have here : chosen.filter (fun recipient => decide (route? recipient = route)) =
          withRoute route recipients := by
        rw [withRoute, List.filter_filter]
        apply List.filter_congr
        intro recipient _
        by_cases same : route? recipient = route <;> simp [same]
      have later : chosen.filter (fun recipient => !decide (route? recipient = route)) =
          recipients.filter fun recipient => decide (route? recipient ∈ routes) := by
        rw [List.filter_filter]
        apply List.filter_congr
        intro recipient _
        by_cases same : route? recipient = route <;> simp [same, absent]
      have cut := List.filter_append_perm (fun recipient => decide (route? recipient = route)) chosen
      rw [here, later] at cut
      rw [List.flatMap_cons]
      exact cut.symm.trans ((ih distinct_later).append_left _)

theorem withRoute_once (recipients : List String) :
    recipients.Perm (withRoute none recipients ++
      (domains recipients).flatMap fun domain => withRoute (some domain) recipients) := by
  have distinct : (none :: (domains recipients).map some).Nodup := by
    rw [List.nodup_cons]
    refine ⟨?_, (domains_nodup recipients).map fun _ _ => Option.some.inj⟩
    intro member
    obtain ⟨domain, _, same⟩ := List.mem_map.mp member
    cases same
  have placed : recipients.filter (fun recipient =>
      decide (route? recipient ∈ none :: (domains recipients).map some)) = recipients := by
    apply List.filter_eq_self.mpr
    intro recipient member
    rw [decide_eq_true_eq]
    cases routed : route? recipient with
    | none => exact List.mem_cons_self
    | some domain =>
        apply List.mem_cons_of_mem
        exact List.mem_map_of_mem (mem_domains.mpr ⟨recipient, member, routed⟩)
  have parts := withRoute_perm distinct recipients
  rw [placed, List.flatMap_cons, List.flatMap_map] at parts
  exact parts

namespace IsPartition

variable {recipients : List String} {routing : Routing}

theorem mem_groups (partition : IsPartition recipients routing) (domain : String) :
    domain ∈ routing.groups.map Prod.fst ↔ domain ∈ domains recipients := by
  rw [mem_domains]
  constructor
  · intro member
    obtain ⟨group, present, rfl⟩ := List.mem_map.mp member
    obtain ⟨recipient, inside⟩ := List.exists_mem_of_ne_nil _ (partition.inhabited group present)
    rw [partition.members group present, List.mem_filter] at inside
    exact ⟨recipient, inside.1, belongsTo_iff.mp inside.2⟩
  · rintro ⟨recipient, member, routed⟩
    have placed := partition.once.mem_iff.mp member
    rw [List.mem_append, List.mem_flatMap, partition.invalid, List.mem_filter] at placed
    rcases placed with ⟨_, invalid⟩ | ⟨group, present, inside⟩
    · rw [Bool.not_eq_true', ← route_none, routed] at invalid
      cases invalid
    · rw [partition.members group present, List.mem_filter, belongsTo_iff, routed] at inside
      rw [Option.some.inj inside.2]
      exact List.mem_map_of_mem present

theorem groups_domains (partition : IsPartition recipients routing) :
    routing.groups.map Prod.fst = domains recipients := by
  have permuted := (List.perm_ext_iff_of_nodup partition.distinct (domains_nodup recipients)).mpr
    partition.mem_groups
  have ordered : (routing.groups.map Prod.fst).Pairwise fun earlier later =>
      recipients.findIdx (belongsTo earlier) < recipients.findIdx (belongsTo later) :=
    List.pairwise_map.mpr partition.ordered
  refine List.Perm.eq_of_pairwise ?_ ordered (domains_ordered recipients) permuted
  intro first second _ _ less more
  exact absurd less (Nat.lt_asymm more)

theorem unique (partition : IsPartition recipients routing) :
    groupByDomain recipients = routing := by
  have groups : routing.groups =
      (domains recipients).map fun domain => (domain, withRoute (some domain) recipients) := by
    calc routing.groups
      _ = routing.groups.map id := (List.map_id _).symm
      _ = routing.groups.map fun group => (group.1, withRoute (some group.1) recipients) := by
          apply List.map_congr_left
          intro group present
          rw [withRoute_some, ← partition.members group present]
          rfl
      _ = (domains recipients).map fun domain => (domain, withRoute (some domain) recipients) := by
          rw [← partition.groups_domains, List.map_map]
          rfl
  rw [groupByDomain_eq, withRoute_none, ← partition.invalid, ← groups]

end IsPartition

/-- Recipients are routed by a stable partition, and there is only one. -/
theorem groupByDomain_iff {recipients : List String} {routing : Routing} :
    groupByDomain recipients = routing ↔ IsPartition recipients routing := by
  refine ⟨?_, IsPartition.unique⟩
  rintro rfl
  rw [groupByDomain_eq]
  have of_domain {P : String × List String → Prop}
      (all : ∀ domain ∈ domains recipients, P (domain, withRoute (some domain) recipients)) :
      ∀ group ∈ (domains recipients).map fun domain => (domain, withRoute (some domain) recipients),
        P group := by
    intro group member
    obtain ⟨domain, known, rfl⟩ := List.mem_map.mp member
    exact all domain known
  exact {
    invalid := withRoute_none recipients
    distinct := by
      simpa only [List.map_map, Function.comp_def, List.map_id'] using domains_nodup recipients
    lower := by
      apply of_domain
      intro domain known
      obtain ⟨recipient, _, routed⟩ := mem_domains.mp known
      obtain ⟨name, _, rfl⟩ := Option.map_eq_some_iff.mp routed
      exact Text.lowercase_twice name
    ordered := List.pairwise_map.mpr (domains_ordered recipients)
    inhabited := by
      apply of_domain
      intro domain known empty
      obtain ⟨recipient, member, routed⟩ := mem_domains.mp known
      have nobody := List.eq_nil_iff_forall_not_mem.mp empty
      exact nobody recipient (mem_withRoute.mpr ⟨member, routed⟩)
    members := of_domain fun domain _ => withRoute_some domain recipients
    once := by
      rw [List.flatMap_map]
      exact withRoute_once recipients }

example : groupByDomain ["dib@earth.planet", "zim@irk.planet", "bogus", "gaz@EARTH.planet",
      "dib@earth.planet"] =
    ⟨[("earth.planet", ["dib@earth.planet", "gaz@EARTH.planet", "dib@earth.planet"]),
      ("irk.planet", ["zim@irk.planet"])], ["bogus"]⟩ := by decide

end MailExchange.Address
