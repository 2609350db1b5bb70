import MailExchange.Proofs.Files.Folders

/-!
What names find in a tree of files, and what is written under them. Names that go to a folder and from
there only downwards find what they found before folders and files were added, unless they end in one
of these files.
-/

namespace MailExchange.Files

open Text (Bytes)

namespace Tree

section Writing

variable {tree after : Tree} {names : List String} {name : String} {content : Bytes}
  {isPrivate : Bool} {error : Error}

theorem write_child (plain : IsPlain name)
    (written : tree.write (names ++ [name]) content isPrivate = .ok after) :
    ∃ place access, tree.LeadsTo names place ∧ name.utf8ByteSize ≤ longestName ∧
      tree.entry? (place ++ [name]) ≠ some .folder ∧
      (tree.entry? (place ++ [name]) = none → access = isPrivate) ∧
      after = tree.put (place ++ [name]) (.file content access) := by
  simp only [write] at written
  split at written
  · cases written
  · next located =>
      obtain ⟨place, leads, fits, rfl⟩ := (locate_child plain).mp located
      split at written
      · cases written
      · next there =>
          cases written
          refine ⟨place, _, leads, fits, ?_, ?_, rfl⟩ <;> rw [there] <;> exact nofun
      · next missing _ =>
          cases written
          exact ⟨place, _, leads, fits, no_folder missing, fun _ => rfl, rfl⟩
      · cases written
      · cases written

theorem entry_of_not_there {path : Path} (absent : tree.isThere names = false)
    (located : tree.locate names = .ok path) : tree.entry? path = none := by
  simp only [isThere, located] at absent
  exact Option.isSome_eq_false_iff.mp absent |> Option.isNone_iff_eq_none.mp

end Writing

section Failing

variable {tree : Tree} {here : Path} {names : List String} {error : Error}

theorem follow_io (failed : tree.follow here names = .error error) :
    ∃ kind text, error = .io kind text := by
  induction names generalizing here with
  | nil => cases failed
  | cons name names ih =>
      simp only [follow] at failed
      split at failed
      · cases failed
        exact ⟨_, _, rfl⟩
      · cases failed
        exact ⟨_, _, rfl⟩
      · split at failed
        · exact ih failed
        · split at failed
          · exact ih failed
          · split at failed
            · cases failed
              exact ⟨_, _, rfl⟩
            · exact ih failed

theorem createFrom_io (failed : (tree.createFrom here names).1 = .error error) :
    ∃ kind text, error = .io kind text := by
  induction names generalizing tree here with
  | nil => cases failed
  | cons name names ih =>
      simp only [createFrom] at failed
      split at failed
      · exact ih failed
      · split at failed
        · exact ih failed
        · split at failed
          · exact ih failed
          · cases failed
            split <;> exact ⟨_, _, rfl⟩
          · split at failed
            · cases failed
              exact ⟨_, _, rfl⟩
            · exact ih failed

theorem write_io {content : Bytes} {isPrivate : Bool}
    (failed : tree.write names content isPrivate = .error error) :
    ∃ kind text, error = .io kind text := by
  simp only [write] at failed
  split at failed
  · next unfound =>
      cases failed
      exact follow_io unfound
  · split at failed <;> cases failed <;> exact ⟨_, _, rfl⟩

end Failing

/-- What names lead to from a folder. -/
def findFrom (tree : Tree) (here : Path) (names : List String) : Except Error Entry :=
  (tree.follow here names).bind fun path =>
    match tree.entry? path with
    | some entry => .ok entry
    | none => .error notFound

def find (tree : Tree) (names : List String) : Except Error Entry :=
  tree.findFrom (tree.start names) names

section Finding

variable {before after tree : Tree} {here place : Path} {names fresh files : List String}
  {name : String}

theorem read_find (tree : Tree) (names : List String) :
    tree.read names = (tree.find names).bind fun
      | .file content _ => .ok content
      | .folder => .error isAFolder := by
  simp only [read, find, findFrom, locate]
  cases tree.follow (tree.start names) names with
  | error error => rfl
  | ok path =>
      simp only [Except.bind]
      rcases tree.entry? path with _ | _ | _ <;> rfl

theorem isThere_find (tree : Tree) (names : List String) :
    tree.isThere names = (tree.find names).isOk := by
  simp only [isThere, find, findFrom, locate]
  cases tree.follow (tree.start names) names with
  | error error => rfl
  | ok path =>
      simp only [Except.bind]
      cases tree.entry? path <;> rfl

theorem findFrom_missing (missing : tree.entry? here = none) (names : List String) :
    tree.findFrom here names = .error notFound := by
  cases names with
  | nil =>
      change (match tree.entry? here with | some entry => _ | none => _) = _
      rw [missing]
  | cons name names =>
      simp only [findFrom, follow, missing]
      rfl

theorem findFrom_there {entry : Entry} (there : tree.entry? here = some entry) :
    tree.findFrom here [] = .ok entry := by
  change (match tree.entry? here with | some entry => _ | none => _) = _
  rw [there]

theorem findFrom_in_file {content : Bytes} {access : Bool}
    (file : tree.entry? here = some (.file content access)) (some_name : names ≠ []) :
    tree.findFrom here names = .error notAFolder := by
  obtain ⟨name, rest, rfl⟩ := List.exists_cons_of_ne_nil some_name
  simp only [findFrom, follow, file]
  rfl

theorem findFrom_cons (folder : tree.entry? here = some .folder) (back : name ≠ "..") :
    tree.findFrom here (name :: names) =
      if name = "" ∨ name = "." then tree.findFrom here names
      else if longestName < name.utf8ByteSize then .error nameTooLong
      else tree.findFrom (here ++ [name]) names := by
  simp only [findFrom, follow, folder, if_neg back]
  split
  · rfl
  · split <;> rfl

/-- Names that find the same before and after, or find nothing: after, perhaps because one of them is
too long to be a name, which shows only where the folders are there. -/
def Alike (names : List String) (before after : Except Error Entry) : Prop :=
  after = before ∨ before = .error notFound ∧ after = .error nameTooLong ∧
    ∃ name ∈ names, longestName < name.utf8ByteSize

theorem Alike.mono {more : List String} {before after : Except Error Entry}
    (alike : Alike names before after) (subset : names ⊆ more) : Alike more before after := by
  refine alike.imp_right ?_
  rintro ⟨first, second, long, member, beyond⟩
  exact ⟨first, second, long, subset member, beyond⟩

theorem Alike.cons {before after : Except Error Entry} (alike : Alike names before after)
    (name : String) : Alike (name :: names) before after :=
  alike.mono (List.subset_cons_self name names)

theorem findFrom_child (folder : tree.entry? here = some .folder) (plain : IsPlain name) :
    tree.findFrom here [name] =
      if longestName < name.utf8ByteSize then .error nameTooLong
      else tree.findFrom (here ++ [name]) [] := by
  rw [findFrom_cons folder plain.2.2, if_neg (not_or.mpr ⟨plain.1, plain.2.1⟩)]

theorem Adds.vacant (adds : Adds place files before after) (other : name ∉ files)
    (missing : before.entry? (place ++ [name]) = none) :
    after.entry? (place ++ [name]) = none := by
  by_contra there
  obtain ⟨entry, there⟩ := Option.ne_none_iff_exists'.mp there
  rcases adds.added _ entry missing there with ⟨_, on_way⟩ | ⟨file, member, same⟩
  · have shorter := on_way.length_le
    rw [List.length_append, List.length_singleton] at shorter
    omega
  · rw [List.append_cancel_left_eq, List.singleton_inj] at same
    exact other (same ▸ member)

theorem Adds.on_way {rest : Path} (adds : Adds (here ++ [name] ++ rest) files before after)
    (missing : before.entry? (here ++ [name]) = none) {entry : Entry}
    (there : after.entry? (here ++ [name]) = some entry) : entry = .folder := by
  rcases adds.added _ entry missing there with ⟨folder, _⟩ | ⟨file, _, same⟩
  · exact folder
  · have longer := congrArg List.length same
    simp only [List.length_append, List.length_singleton] at longer
    omega

theorem findFrom_new (grounded : before.Grounded) (down : ".." ∉ fresh) (plain : IsPlain name)
    (other : name ∉ files) (adds : Adds (here ++ onward fresh) files before after)
    (missing : before.entry? here = none) (folder : after.entry? here = some .folder) :
    Alike (fresh ++ [name]) (.error notFound) (after.findFrom here (fresh ++ [name])) := by
  -- With each name that leads on, `here` moves towards a place that stays the same.
  induction fresh generalizing here with
  | nil =>
      rw [List.nil_append, findFrom_child folder plain]
      split
      · next beyond => exact Or.inr ⟨rfl, rfl, name, List.mem_singleton_self name, beyond⟩
      · rw [show onward [] = [] from rfl, List.append_nil] at adds
        exact Or.inl (findFrom_missing (adds.vacant other (grounded.below missing [name])) [])
  | cons first fresh ih =>
      rw [List.mem_cons, not_or] at down
      rw [List.cons_append, findFrom_cons folder (Ne.symm down.1)]
      split
      · next idle =>
          rw [onward_skip idle] at adds
          exact (ih down.2 adds missing folder).cons first
      · next leads =>
          rw [onward_step leads, List.append_cons] at adds
          split
          · next beyond => exact Or.inr ⟨rfl, rfl, first, List.mem_cons_self, beyond⟩
          · refine Alike.cons ?_ first
            cases there : after.entry? (here ++ [first]) with
            | none => exact Or.inl (findFrom_missing there _)
            | some entry =>
                have still := grounded.below missing [first]
                cases adds.on_way still there
                exact ih down.2 adds still there

/-- Going downwards, names that do not end in a new file find what they found before. -/
theorem findFrom_adds (grounded : before.Grounded) (down : ".." ∉ fresh) (plain : IsPlain name)
    (other : name ∉ files) (adds : Adds (here ++ onward fresh) files before after)
    (folder : before.entry? here = some .folder) :
    Alike (fresh ++ [name]) (before.findFrom here (fresh ++ [name]))
      (after.findFrom here (fresh ++ [name])) := by
  induction fresh generalizing here with
  | nil =>
      have still := adds.kept here .folder folder
      rw [List.nil_append, findFrom_child folder plain, findFrom_child still plain]
      left
      split
      · rfl
      · cases there : before.entry? (here ++ [name]) with
        | some entry => rw [findFrom_there there, findFrom_there (adds.kept _ entry there)]
        | none =>
            rw [show onward [] = [] from rfl, List.append_nil] at adds
            rw [findFrom_missing there, findFrom_missing (adds.vacant other there)]
  | cons first fresh ih =>
      rw [List.mem_cons, not_or] at down
      have still := adds.kept here .folder folder
      rw [List.cons_append, findFrom_cons folder (Ne.symm down.1),
        findFrom_cons still (Ne.symm down.1)]
      refine Alike.cons ?_ first
      split
      · next idle =>
          rw [onward_skip idle] at adds
          exact ih down.2 adds folder
      · next leads =>
          rw [onward_step leads, List.append_cons] at adds
          split
          · exact Or.inl rfl
          · cases there : before.entry? (here ++ [first]) with
            | none =>
                rw [findFrom_missing there]
                cases made : after.entry? (here ++ [first]) with
                | none => exact Or.inl (findFrom_missing made _)
                | some entry =>
                    cases adds.on_way there made
                    exact findFrom_new grounded down.2 plain other adds there made
            | some entry =>
                have same := adds.kept _ entry there
                cases entry with
                | folder => exact ih down.2 adds there
                | file content access =>
                    have more : fresh ++ [name] ≠ [] := List.concat_ne_nil name fresh
                    rw [findFrom_in_file there more, findFrom_in_file same more]
                    exact Or.inl rfl

theorem findFrom_append (tree : Tree) (here : Path) (names more : List String) :
    tree.findFrom here (names ++ more) =
      (tree.follow here names).bind fun place => tree.findFrom place more := by
  rw [findFrom, follow_append]
  cases tree.follow here names <;> rfl

theorem LeadsTo.find (leads : tree.LeadsTo names place) (plain : IsPlain name)
    (fits : name.utf8ByteSize ≤ longestName) :
    tree.find (names ++ [name]) = tree.findFrom (place ++ [name]) [] := by
  rw [Tree.find, start_child plain, findFrom_append, ← locate, leads.located]
  change tree.findFrom place [name] = _
  rw [findFrom_child leads.folder plain, if_neg (Nat.not_lt.mpr fits)]

theorem Descends.alike (descends : before.Descends names place) (grounded : before.Grounded)
    (adds : Adds place files before after) (plain : IsPlain name) (other : name ∉ files) :
    Alike (names ++ [name]) (before.find (names ++ [name])) (after.find (names ++ [name])) := by
  obtain ⟨known, folder, fresh, rfl, leads, there, down, rfl⟩ := descends
  have grows := adds.toGrows
  rw [Tree.find, Tree.find, start_child plain, start_child plain, start_grows grows,
    List.append_assoc, findFrom_append, findFrom_append, leads, follow_grows grows leads]
  exact (findFrom_adds grounded down plain other adds there).mono
    (List.subset_append_right known _)

theorem Descends.absent (descends : before.Descends names place) (grounded : before.Grounded)
    (adds : Adds place [] before after) (leads : after.LeadsTo names place) (plain : IsPlain name)
    (fits : name.utf8ByteSize ≤ longestName)
    (absent : before.isThere (names ++ [name]) = false) :
    before.entry? (place ++ [name]) = none ∧ before.find (names ++ [name]) = .error notFound := by
  have alike := descends.alike grounded adds plain List.not_mem_nil
  rw [leads.find plain fits] at alike
  rw [isThere_find] at absent
  have vacant : before.entry? (place ++ [name]) = none := by
    by_contra there
    obtain ⟨entry, there⟩ := Option.ne_none_iff_exists'.mp there
    rw [findFrom_there (adds.kept _ entry there)] at alike
    rcases alike with same | ⟨_, impossible, _⟩
    · rw [← same] at absent
      cases absent
    · cases impossible
  rw [findFrom_missing (adds.vacant List.not_mem_nil vacant)] at alike
  rcases alike with same | ⟨missing, _⟩
  · exact ⟨vacant, same.symm⟩
  · exact ⟨vacant, missing⟩

end Finding

end Tree

end MailExchange.Files
