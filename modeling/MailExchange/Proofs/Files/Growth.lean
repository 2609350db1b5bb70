import MailExchange.Files.Tree
import Mathlib.Data.List.Induction

/-!
Trees of files in which every entry lies in a folder, and what it is for one tree to have all that
another has and, besides, folders on the way to a place and files in it.
-/

namespace MailExchange.Files

namespace Tree

section Entries

variable {tree : Tree} {path other : Path} {entry : Entry}

theorem entry_top (tree : Tree) : tree.entry? [] = some .folder := if_pos rfl

theorem no_folder (vacant : tree.entry? path = none) : tree.entry? path ≠ some .folder := by
  rw [vacant]
  exact nofun

theorem entry_put (below : path ≠ []) : Tree.entry? (tree.put path entry) path = some entry := by
  have found : (path == path) = true := beq_self_eq_true path
  simp only [Tree.entry?, if_neg below, put, List.find?_cons, found, Option.map_some]

theorem entry_put_other (differs : other ≠ path) :
    Tree.entry? (tree.put path entry) other = tree.entry? other := by
  have kept (place : Path) : decide (place != path ∧ place == other) = (place == other) := by
    by_cases same : place = other
    · subst same
      simp only [bne_iff_ne, ne_eq, differs, not_false_eq_true, beq_self_eq_true, and_self,
        decide_true]
    · simp only [beq_eq_false_iff_ne.mpr same, Bool.false_eq_true, and_false, decide_false]
  have skipped : (path == other) = false := beq_eq_false_iff_ne.mpr (Ne.symm differs)
  simp only [Tree.entry?, put, List.find?_cons, skipped, List.find?_filter, kept]

/-- Every entry lies in a folder, and the current folder is there. -/
structure Grounded (tree : Tree) : Prop where
  parent : ∀ path, tree.entry? path ≠ none → tree.entry? path.dropLast = some .folder
  here : tree.entry? tree.here = some .folder

theorem grounded_empty : Grounded {} where
  parent path there := by
    by_cases top : path = []
    · rw [top]
      rfl
    · exact absurd (if_neg top) there
  here := rfl

namespace Grounded

variable {place : Path}

theorem child (grounded : tree.Grounded) (missing : tree.entry? place ≠ some .folder)
    (name : String) : tree.entry? (place ++ [name]) = none := by
  by_contra there
  have folder := grounded.parent _ there
  rw [List.dropLast_concat] at folder
  exact missing folder

theorem below (grounded : tree.Grounded) (missing : tree.entry? place = none) (rest : Path) :
    tree.entry? (place ++ rest) = none := by
  induction rest using List.reverseRecOn with
  | nil => rw [List.append_nil, missing]
  | append_singleton rest name ih =>
      rw [← List.append_assoc]
      exact grounded.child (no_folder ih) name

theorem put (grounded : tree.Grounded) (below : path ≠ [])
    (parent : tree.entry? path.dropLast = some .folder)
    (vacant : tree.entry? path ≠ some .folder) (entry : Entry) :
    (tree.put path entry).Grounded where
  parent other there := by
    have above {place : Path} (folder : tree.entry? place = some .folder) :
        Tree.entry? (tree.put path entry) place = some .folder := by
      rw [entry_put_other, folder]
      rintro rfl
      exact vacant folder
    by_cases same : other = path
    · rw [same]
      exact above parent
    · rw [entry_put_other same] at there
      exact above (grounded.parent other there)
  here := by
    rw [entry_put_other]
    · exact grounded.here
    · intro same
      exact vacant (same ▸ grounded.here)

theorem start (grounded : tree.Grounded) (names : List String) :
    tree.entry? (tree.start names) = some .folder := by
  rw [Tree.start]
  split
  · exact entry_top tree
  · exact grounded.here

end Grounded

end Entries

/-- All entries of a tree are as they were. -/
structure Grows (before after : Tree) : Prop where
  here : after.here = before.here
  kept : ∀ path entry, before.entry? path = some entry → after.entry? path = some entry

/-- New are folders on the way to a place, and files of these names in it. -/
structure Adds (place : Path) (names : List String) (before after : Tree) : Prop
    extends Grows before after where
  added : ∀ path entry, before.entry? path = none → after.entry? path = some entry →
    entry = .folder ∧ path <+: place ∨ ∃ name ∈ names, path = place ++ [name]

section Growing

variable {before between after tree : Tree} {place path here : Path} {names more : List String}

theorem Grows.refl (tree : Tree) : Grows tree tree := ⟨rfl, fun _ _ there => there⟩

theorem Grows.trans (first : Grows before between) (second : Grows between after) :
    Grows before after where
  here := second.here.trans first.here
  kept path entry there := second.kept path entry (first.kept path entry there)

theorem Adds.refl (place : Path) (names : List String) (tree : Tree) :
    Adds place names tree tree where
  toGrows := Grows.refl tree
  added _ _ missing there := nomatch missing.symm.trans there

theorem Adds.trans (first : Adds place names before between)
    (second : Adds place names between after) : Adds place names before after where
  toGrows := first.toGrows.trans second.toGrows
  added path entry missing there := by
    cases half : between.entry? path with
    | none => exact second.added path entry half there
    | some other =>
        rw [second.kept path other half] at there
        rw [← Option.some.inj there]
        exact first.added path other missing half

theorem Adds.mono (adds : Adds place names before after) (subset : names ⊆ more) :
    Adds place more before after where
  toGrows := adds.toGrows
  added path entry missing there := by
    refine (adds.added path entry missing there).imp_right ?_
    rintro ⟨name, member, same⟩
    exact ⟨name, subset member, same⟩

theorem grows_put (vacant : tree.entry? path = none) (entry : Entry) :
    Grows tree (tree.put path entry) where
  here := rfl
  kept other found there := by
    rw [entry_put_other, there]
    rintro rfl
    cases vacant.symm.trans there

theorem new_put {entry found : Entry} {other : Path} (below : path ≠ [])
    (missing : tree.entry? other = none)
    (there : Tree.entry? (tree.put path entry) other = some found) :
    other = path ∧ found = entry := by
  by_cases same : other = path
  · rw [same, entry_put below] at there
    exact ⟨same, (Option.some.inj there).symm⟩
  · rw [entry_put_other same, missing] at there
    cases there

theorem adds_folder (vacant : tree.entry? path = none) (on_way : path <+: place)
    (names : List String) : Adds place names tree (tree.put path .folder) where
  toGrows := grows_put vacant .folder
  added other found missing there := by
    have below : path ≠ [] := by
      rintro rfl
      cases (entry_top tree).symm.trans vacant
    obtain ⟨rfl, rfl⟩ := new_put below missing there
    exact Or.inl ⟨rfl, on_way⟩

theorem adds_file {name : String} (vacant : tree.entry? (place ++ [name]) = none)
    (member : name ∈ names) (entry : Entry) :
    Adds place names tree (tree.put (place ++ [name]) entry) where
  toGrows := grows_put vacant entry
  added other found missing there := by
    obtain ⟨rfl, -⟩ := new_put (List.concat_ne_nil name place) missing there
    exact Or.inr ⟨name, member, rfl⟩

end Growing

end Tree

end MailExchange.Files
