import MailExchange.Proofs.Files.Growth

/-!
Where names lead in a tree of files, and the folders that are created where there are none. Nothing is
lost by that, and going downwards nothing is created but the folders on the way.
-/

namespace MailExchange.Files

def IsPlain (name : String) : Prop := name ≠ "" ∧ name ≠ "." ∧ name ≠ ".."

/-- The names that lead on, among names that do not lead back. -/
def onward (names : List String) : List String := names.filter fun name => name ≠ "" ∧ name ≠ "."

theorem onward_skip {name : String} (idle : name = "" ∨ name = ".") (names : List String) :
    onward (name :: names) = onward names := by
  refine List.filter_cons_of_neg ?_
  rw [decide_eq_true_iff, not_and_or, not_not, not_not]
  exact idle

theorem onward_step {name : String} (leads : ¬ (name = "" ∨ name = ".")) (names : List String) :
    onward (name :: names) = name :: onward names := by
  refine List.filter_cons_of_pos ?_
  rw [decide_eq_true_iff, ← not_or]
  exact leads

namespace Tree

/-- Names that lead to a folder that is there. -/
structure LeadsTo (tree : Tree) (names : List String) (place : Path) : Prop where
  located : tree.locate names = .ok place
  folder : tree.entry? place = some .folder

section Following

variable {tree before after : Tree} {here place path : Path} {names rest more : List String}
  {name : String}

theorem follow_append (tree : Tree) (here : Path) (names more : List String) :
    tree.follow here (names ++ more) =
      (tree.follow here names).bind fun place => tree.follow place more := by
  induction names generalizing here with
  | nil => rfl
  | cons name names ih =>
      simp only [List.cons_append, follow]
      split
      · rfl
      · rfl
      · split
        · exact ih here
        · split
          · exact ih here.dropLast
          · split
            · rfl
            · exact ih (here ++ [name])

theorem follow_mono
    (kept : ∀ path, before.entry? path = some .folder → after.entry? path = some .folder)
    (found : before.follow here names = .ok place) : after.follow here names = .ok place := by
  induction names generalizing here with
  | nil => exact found
  | cons name names ih =>
      simp only [follow] at found
      split at found
      · cases found
      · cases found
      · next folder =>
          simp only [follow, kept here folder]
          split at found
          · rw [if_pos ‹_›]
            exact ih found
          · rw [if_neg ‹_›]
            split at found
            · rw [if_pos ‹_›]
              exact ih found
            · rw [if_neg ‹_›]
              split at found
              · cases found
              · rw [if_neg ‹_›]
                exact ih found

theorem follow_grows (grows : Grows before after) (found : before.follow here names = .ok place) :
    after.follow here names = .ok place :=
  follow_mono (fun path folder => grows.kept path .folder folder) found

theorem follow_folder (found : tree.follow here names = .ok place)
    (folder : tree.entry? place = some .folder) : tree.entry? here = some .folder := by
  cases names with
  | nil =>
      cases found
      exact folder
  | cons name names =>
      simp only [follow] at found
      split at found
      · cases found
      · cases found
      · assumption

theorem start_child (plain : IsPlain name) (names : List String) (tree : Tree) :
    tree.start (names ++ [name]) = tree.start names := by
  cases names with
  | nil =>
      have other : [name].head? ≠ some "" := fun same => plain.1 (Option.some.inj same)
      exact (if_neg other).trans (if_neg nofun).symm
  | cons first names => rfl

theorem start_grows (grows : Grows before after) (names : List String) :
    after.start names = before.start names := by
  rw [start, start, grows.here]

theorem LeadsTo.grows (leads : before.LeadsTo names place) (grows : Grows before after) :
    after.LeadsTo names place where
  located := by
    rw [locate, start_grows grows]
    exact follow_grows grows leads.located
  folder := grows.kept place .folder leads.folder

theorem LeadsTo.put (leads : tree.LeadsTo names place) (no_folder : tree.entry? path ≠ some .folder)
    (entry : Entry) : (tree.put path entry).LeadsTo names place := by
  have kept (other : Path) (folder : tree.entry? other = some .folder) :
      Tree.entry? (tree.put path entry) other = some .folder := by
    rw [entry_put_other, folder]
    rintro rfl
    exact no_folder folder
  exact ⟨follow_mono kept leads.located, kept place leads.folder⟩

theorem LeadsTo.unique {other : Path} (leads : tree.LeadsTo names place)
    (also : tree.LeadsTo names other) : other = place :=
  Except.ok.inj (also.located.symm.trans leads.located)

theorem locate_child (plain : IsPlain name) :
    tree.locate (names ++ [name]) = .ok path ↔ ∃ place, tree.LeadsTo names place ∧
      name.utf8ByteSize ≤ longestName ∧ path = place ++ [name] := by
  have step (place : Path) : tree.follow place [name] = .ok path ↔
      tree.entry? place = some .folder ∧ name.utf8ByteSize ≤ longestName ∧
        path = place ++ [name] := by
    simp only [follow, plain.1, plain.2.1, plain.2.2, or_self, if_false]
    cases there : tree.entry? place with
    | none => simp only [reduceCtorEq, false_and]
    | some entry =>
        cases entry with
        | file content access => simp only [Option.some.injEq, reduceCtorEq, false_and]
        | folder =>
            by_cases fits : name.utf8ByteSize ≤ longestName
            · simp only [Nat.not_lt.mpr fits, if_false, Except.ok.injEq, true_and, fits,
                eq_comm (a := path)]
            · simp only [Nat.lt_of_not_ge fits, if_true, reduceCtorEq, fits, false_and, and_false]
  rw [locate, start_child plain, follow_append, ← locate]
  constructor
  · intro located
    cases leads : tree.locate names with
    | error error =>
        rw [leads] at located
        cases located
    | ok place =>
        rw [leads] at located
        obtain ⟨folder, fits, same⟩ := (step place).mp located
        exact ⟨place, ⟨leads, folder⟩, fits, same⟩
  · rintro ⟨place, leads, fits, same⟩
    rw [leads.located]
    exact (step place).mpr ⟨leads.folder, fits, same⟩

end Following

section Creating

variable {tree : Tree} {here place : Path} {names fresh : List String}

theorem createFrom_grows (tree : Tree) (here : Path) (names : List String) :
    Grows tree (tree.createFrom here names).2 := by
  induction names generalizing tree here with
  | nil => exact Grows.refl tree
  | cons name names ih =>
      simp only [createFrom]
      split
      · exact ih tree here
      · split
        · exact ih tree here.dropLast
        · split
          · exact ih tree (here ++ [name])
          · exact Grows.refl tree
          · next vacant =>
              split
              · exact Grows.refl tree
              · exact (grows_put vacant .folder).trans (ih _ (here ++ [name]))

theorem createFrom_new {path : Path} {entry : Entry} (missing : tree.entry? path = none)
    (there : Tree.entry? (tree.createFrom here names).2 path = some entry) : entry = .folder := by
  induction names generalizing tree here with
  | nil => cases missing.symm.trans there
  | cons name names ih =>
      simp only [createFrom] at there
      split at there
      · exact ih missing there
      · split at there
        · exact ih missing there
        · split at there
          · exact ih missing there
          · cases missing.symm.trans there
          · split at there
            · cases missing.symm.trans there
            · by_cases same : path = here ++ [name]
              · -- The folder that is made now is not lost by those that follow.
                have made :
                    Tree.entry? (tree.put (here ++ [name]) .folder) (here ++ [name]) =
                      some .folder := entry_put (List.concat_ne_nil name here)
                rw [← same] at made there
                rw [(createFrom_grows _ _ names).kept _ _ made] at there
                exact (Option.some.inj there).symm
              · exact ih ((entry_put_other same).trans missing) there

theorem createFrom_grounded (grounded : tree.Grounded) (folder : tree.entry? here = some .folder)
    (names : List String) : (tree.createFrom here names).2.Grounded := by
  induction names generalizing tree here with
  | nil => exact grounded
  | cons name names ih =>
      have below : here ++ [name] ≠ [] := List.concat_ne_nil name here
      simp only [createFrom]
      split
      · exact ih grounded folder
      · split
        · refine ih grounded (grounded.parent here ?_)
          rw [folder]
          exact nofun
        · split
          · next there => exact ih grounded there
          · exact grounded
          · next vacant =>
              split
              · exact grounded
              · refine ih (grounded.put below ?_ (no_folder vacant) .folder) (entry_put below)
                rw [List.dropLast_concat, folder]

/-- Going downwards, folders are created on the way and nowhere else. -/
theorem createFrom_adds (down : ".." ∉ names) (tree : Tree) (here : Path) :
    Adds (here ++ onward names) [] tree (tree.createFrom here names).2 := by
  induction names generalizing tree here with
  | nil => exact Adds.refl _ _ tree
  | cons name names ih =>
      rw [List.mem_cons, not_or] at down
      simp only [createFrom, if_neg (Ne.symm down.1)]
      split
      · next idle =>
          rw [onward_skip idle]
          exact ih down.2 tree here
      · next leads =>
          rw [onward_step leads, List.append_cons]
          split
          · exact ih down.2 tree (here ++ [name])
          · exact Adds.refl _ _ tree
          · next vacant =>
              split
              · exact Adds.refl _ _ tree
              · have on_way := List.prefix_append (here ++ [name]) (onward names)
                exact (adds_folder vacant on_way []).trans (ih down.2 _ (here ++ [name]))

theorem createFrom_append (found : tree.follow here names = .ok place)
    (folder : tree.entry? place = some .folder) (fresh : List String) :
    tree.createFrom here (names ++ fresh) = tree.createFrom place fresh := by
  induction names generalizing here with
  | nil =>
      cases found
      rfl
  | cons name names ih =>
      have leads := follow_folder found folder
      simp only [follow, leads] at found
      simp only [List.cons_append, createFrom]
      split at found
      · rw [if_pos ‹_›]
        exact ih found
      · rw [if_neg ‹_›]
        split at found
        · rw [if_pos ‹_›]
          exact ih found
        · rw [if_neg ‹_›]
          split at found
          · cases found
          · simp only [follow_folder found folder]
            exact ih found

/-- Names that lead to a folder, and from there only downwards, to a place. -/
def Descends (tree : Tree) (names : List String) (place : Path) : Prop :=
  ∃ known folder fresh, names = known ++ fresh ∧
    tree.follow (tree.start names) known = .ok folder ∧ tree.entry? folder = some .folder ∧
    ".." ∉ fresh ∧ place = folder ++ onward fresh

theorem Grounded.descends (grounded : tree.Grounded) (down : ".." ∉ names) :
    tree.Descends names (tree.start names ++ onward names) :=
  ⟨[], tree.start names, names, rfl, rfl, grounded.start names, down, rfl⟩

theorem LeadsTo.descends (leads : tree.LeadsTo names place) : tree.Descends names place :=
  ⟨names, place, [], (List.append_nil names).symm, leads.located, leads.folder, List.not_mem_nil,
    (List.append_nil place).symm⟩

theorem createFolders_adds (descends : tree.Descends names place) :
    Adds place [] tree (tree.createFolders names).2 := by
  obtain ⟨known, folder, fresh, rfl, found, there, down, rfl⟩ := descends
  rw [createFolders, createFrom_append found there]
  exact createFrom_adds down tree folder

theorem follow_down (down : ".." ∉ names) (found : tree.follow here names = .ok place) :
    place = here ++ onward names := by
  induction names generalizing here with
  | nil =>
      cases found
      exact (List.append_nil place).symm
  | cons name names ih =>
      rw [List.mem_cons, not_or] at down
      simp only [follow, if_neg (Ne.symm down.1)] at found
      split at found
      · cases found
      · cases found
      · split at found
        · rw [onward_skip ‹_›]
          exact ih down.2 found
        · rw [onward_step ‹_›, List.append_cons]
          split at found
          · cases found
          · exact ih down.2 found

theorem Descends.place_eq {after : Tree} {found : Path} (descends : tree.Descends names place)
    (grows : Grows tree after) (leads : after.locate names = .ok found) : found = place := by
  obtain ⟨known, folder, fresh, rfl, known_leads, _, down, rfl⟩ := descends
  rw [locate, start_grows grows, follow_append, follow_grows grows known_leads] at leads
  exact follow_down down leads

end Creating

end Tree

end MailExchange.Files
