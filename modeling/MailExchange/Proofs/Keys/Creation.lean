import MailExchange.Proofs.Keys.Lookup

/-!
Creating key pairs: all that it can come to, and from that what it leaves as it was. What is new are
folders on the way to the folder of the keys, and in it the two files of the pair. A file that was there
can be written over only where the way to the folder goes back out of one that was missing.
-/

namespace MailExchange

theorem Rsa.generate_error {seed : Text.Bytes} {bits : Nat} {error : Error}
    (failed : Rsa.generate seed bits = .error error) : error = .crypto := by
  simp only [Rsa.generate] at failed
  split at failed
  · cases failed
    rfl
  · split at failed
    · cases failed
    · cases failed
      rfl

namespace Keys

open Files (Path Tree IsPlain longestName)
open Text (Bytes)

def Kind.file : Kind → Rsa.PrivateKey → Bytes
  | publicKey, key => Pem.publicKey key.toPublicKey
  | privateKey, key => Pem.privateKey key

def filed (tree : Tree) (place : Path) (identity : String) (kind : Kind) (key : Rsa.PrivateKey)
    (isPrivate : Bool) : Tree :=
  tree.put (place ++ [fileName identity kind]) (.file (kind.file key) isPrivate)

namespace Store

def Taken (store : Store) (tree : Tree) (identity : String) : Prop :=
  ∃ kind, tree.isThere (store.path identity kind) = true

def opened (store : Store) (tree : Tree) : Tree := (tree.createFolders store.root).2

/-- The public key of a new pair can be written. -/
structure Writable (store : Store) (tree : Tree) (identity : String) (place : Path) : Prop where
  named : isIdentity identity = true
  free : ¬ store.Taken tree identity
  leads : (store.opened tree).LeadsTo store.root place
  fits : (fileName identity .publicKey).utf8ByteSize ≤ longestName
  no_folder :
    Tree.entry? (store.opened tree) (place ++ [fileName identity .publicKey]) ≠ some .folder

/-- All that creating a key pair can come to. -/
inductive Generated (store : Store) (tree : Tree) (identity : String) :
    Except Error Unit → Tree → Prop
  | unnamed (unnamed : isIdentity identity = false) :
      Generated store tree identity (.error (.noSuchKey identity)) tree
  | refused (named : isIdentity identity = true) (taken : store.Taken tree identity)
      (message : String) : Generated store tree identity (.error (.config message)) tree
  | unmade (named : isIdentity identity = true) (free : ¬ store.Taken tree identity) :
      Generated store tree identity (.error .crypto) tree
  | unwritten (named : isIdentity identity = true) (free : ¬ store.Taken tree identity)
      (kind : IoKind) (text : String) :
      Generated store tree identity (.error (.io kind text)) (store.opened tree)
  | halfway {place : Path} (writable : store.Writable tree identity place) (key : Rsa.PrivateKey)
      (isPrivate : Bool) (kind : IoKind) (text : String) :
      Generated store tree identity (.error (.io kind text))
        (filed (store.opened tree) place identity .publicKey key isPrivate)
  | whole {place : Path} (writable : store.Writable tree identity place) (key : Rsa.PrivateKey)
      (isPrivate : Bool)
      (vacant : Tree.entry? (filed (store.opened tree) place identity .publicKey key isPrivate)
        (place ++ [fileName identity .privateKey]) = none) :
      Generated store tree identity (.ok ())
        (filed (filed (store.opened tree) place identity .publicKey key isPrivate) place identity
          .privateKey key true)

section Cases

variable {store : Store} {tree : Tree} {identity : String}

theorem taken_iff : store.Taken tree identity ↔
    (tree.isThere (store.path identity .privateKey) ||
      tree.isThere (store.path identity .publicKey)) = true := by
  rw [Bool.or_eq_true]
  constructor
  · rintro ⟨_ | _, there⟩
    · exact Or.inr there
    · exact Or.inl there
  · rintro (there | there)
    · exact ⟨_, there⟩
    · exact ⟨_, there⟩

theorem not_there (free : ¬ store.Taken tree identity) (kind : Kind) :
    tree.isThere (store.path identity kind) = false :=
  eq_false_of_ne_true fun there => free ⟨kind, there⟩

theorem fileName_ne (identity : String) :
    fileName identity .privateKey ≠ fileName identity .publicKey := by
  rw [ne_eq, fileName_eq_iff]
  simp [String.ext_iff]

theorem writePrivate_io {path : Path} {content : Bytes} {error : Error}
    (failed : writePrivate tree path content = .error error) :
    ∃ kind text, error = .io kind text := by
  rw [writePrivate] at failed
  split at failed
  · cases failed
    exact ⟨_, _, rfl⟩
  · exact Tree.write_io failed

theorem writePrivate_child {after : Tree} {names : List String} {name : String} {content : Bytes}
    (plain : IsPlain name) (written : writePrivate tree (names ++ [name]) content = .ok after) :
    ∃ place, tree.LeadsTo names place ∧ tree.entry? (place ++ [name]) = none ∧
      after = tree.put (place ++ [name]) (.file content true) := by
  rw [writePrivate] at written
  split at written
  · cases written
  · next absent =>
      obtain ⟨place, access, leads, fits, _, new, rfl⟩ := Tree.write_child plain written
      have located := (Tree.locate_child plain).mpr ⟨place, leads, fits, rfl⟩
      have vacant := Tree.entry_of_not_there (eq_false_of_ne_true absent) located
      cases new vacant
      exact ⟨place, leads, vacant, rfl⟩

theorem writePair_cases (named : isIdentity identity = true) (free : ¬ store.Taken tree identity)
    (key : Rsa.PrivateKey) :
    Generated store tree identity (store.writePair tree identity key).1
      (store.writePair tree identity key).2 := by
  have created : tree.createFolders store.root =
      ((tree.createFolders store.root).1, store.opened tree) := rfl
  rw [writePair, created]
  cases made : (tree.createFolders store.root).1 with
  | error error =>
      obtain ⟨kind, text, rfl⟩ := Tree.createFrom_io made
      exact .unwritten named free kind text
  | ok _ =>
      simp only
      cases first : (store.opened tree).write (store.path identity .publicKey)
          (Pem.publicKey key.toPublicKey) false with
      | error error =>
          obtain ⟨kind, text, rfl⟩ := Tree.write_io first
          exact .unwritten named free kind text
      | ok half =>
          obtain ⟨place, access, leads, fits, no_folder, _, rfl⟩ :=
            Tree.write_child (fileName_plain identity .publicKey) first
          have writable : store.Writable tree identity place :=
            ⟨named, free, leads, fits, no_folder⟩
          have still := leads.put no_folder (.file (Pem.publicKey key.toPublicKey) access)
          simp only
          split
          · next failed =>
              obtain ⟨kind, text, rfl⟩ := writePrivate_io failed
              exact .halfway writable key access kind text
          · next last =>
              obtain ⟨also, leads_also, vacant, rfl⟩ :=
                writePrivate_child (fileName_plain identity .privateKey) last
              obtain rfl := still.unique leads_also
              exact .whole writable key access vacant

theorem generate_cases (store : Store) (tree : Tree) (seed : Bytes) (identity : String)
    (bits : Nat) :
    Generated store tree identity (store.generate tree seed identity bits).1
      (store.generate tree seed identity bits).2 := by
  rw [generate]
  cases named : isIdentity identity with
  | false => exact .unnamed named
  | true =>
      simp only [Bool.not_true, Bool.false_eq_true, if_false]
      split
      · next taken => exact .refused named (taken_iff.mpr taken) _
      · next free =>
          have not_taken := mt taken_iff.mp free
          cases made : Rsa.generate seed bits with
          | error error =>
              cases Rsa.generate_error made
              exact .unmade named not_taken
          | ok key => exact writePair_cases named not_taken key

end Cases

section Effects

variable {store : Store} {tree after : Tree} {identity : String} {result : Except Error Unit}
  {place : Path}

theorem opened_grows (store : Store) (tree : Tree) : Tree.Grows tree (store.opened tree) :=
  Tree.createFrom_grows tree _ store.root

theorem opened_entry (store : Store) (tree : Tree) (path : Path) :
    Tree.entry? (store.opened tree) path = tree.entry? path ∨
      tree.entry? path = none ∧ Tree.entry? (store.opened tree) path = some .folder := by
  cases before : tree.entry? path with
  | some entry => exact Or.inl ((opened_grows store tree).kept path entry before)
  | none =>
      cases now : Tree.entry? (store.opened tree) path with
      | none => exact Or.inl rfl
      | some entry =>
          cases Tree.createFrom_new before now
          exact Or.inr ⟨rfl, rfl⟩

theorem child_ne (place : Path) (identity : String) :
    place ++ [fileName identity .privateKey] ≠ place ++ [fileName identity .publicKey] := by
  intro same
  rw [List.append_cancel_left_eq, List.singleton_inj] at same
  exact fileName_ne identity same

theorem filed_entry (tree : Tree) (place : Path) (identity : String) (kind : Kind)
    (key : Rsa.PrivateKey) (isPrivate : Bool) :
    Tree.entry? (filed tree place identity kind key isPrivate) (place ++ [fileName identity kind]) =
      some (.file (kind.file key) isPrivate) :=
  Tree.entry_put (List.concat_ne_nil _ place)

theorem Writable.leads_filed (writable : store.Writable tree identity place)
    (key : Rsa.PrivateKey) (isPrivate : Bool) :
    (filed (store.opened tree) place identity .publicKey key isPrivate).LeadsTo store.root place :=
  writable.leads.put writable.no_folder (.file (Kind.publicKey.file key) isPrivate)

/-- What creating a key pair may do to what stands under a path. A public key may be written where a
file was, a private key only where nothing was. -/
inductive Touches (store : Store) (identity : String) (before after : Tree) (path : Path) : Prop
  | same (same : after.entry? path = before.entry? path)
  | folder (missing : before.entry? path = none) (made : after.entry? path = some .folder)
  | file {place : Path} {kind : Kind} {key : Rsa.PrivateKey} {isPrivate : Bool}
      (leads : after.LeadsTo store.root place) (here : path = place ++ [fileName identity kind])
      (written : after.entry? path = some (.file (kind.file key) isPrivate))
      (new : kind = .privateKey → before.entry? path = none ∧ isPrivate = true)

theorem touches_opened (store : Store) (tree : Tree) (identity : String) (path : Path) :
    store.Touches identity tree (store.opened tree) path := by
  rcases opened_entry store tree path with same | ⟨missing, made⟩
  · exact .same same
  · exact .folder missing made

theorem Touches.congr {before after later : Tree} {path : Path}
    (touches : store.Touches identity before after path)
    (leads : ∀ place, after.LeadsTo store.root place → later.LeadsTo store.root place)
    (same : later.entry? path = after.entry? path) :
    store.Touches identity before later path := by
  cases touches with
  | same unchanged => exact .same (same.trans unchanged)
  | folder missing made => exact .folder missing (same.trans made)
  | file there here written new => exact .file (leads _ there) here (same.trans written) new

theorem touches_halfway (writable : store.Writable tree identity place) (key : Rsa.PrivateKey)
    (isPrivate : Bool) (path : Path) :
    store.Touches identity tree (filed (store.opened tree) place identity .publicKey key isPrivate)
      path := by
  by_cases here : path = place ++ [fileName identity .publicKey]
  · have written := filed_entry (store.opened tree) place identity .publicKey key isPrivate
    rw [← here] at written
    exact .file (writable.leads_filed key isPrivate) here written nofun
  · refine (touches_opened store tree identity path).congr ?_ (Tree.entry_put_other here)
    intro found leads
    exact leads.put writable.no_folder _

theorem Generated.touches (generated : Generated store tree identity result after) (path : Path) :
    store.Touches identity tree after path := by
  cases generated with
  | unnamed | refused | unmade => exact .same rfl
  | unwritten => exact touches_opened store tree identity path
  | halfway writable key isPrivate => exact touches_halfway writable key isPrivate path
  | @whole place writable key isPrivate vacant =>
      have still {found : Path} (leads : Tree.LeadsTo _ store.root found) :=
        leads.put (Tree.no_folder vacant) (.file (Kind.privateKey.file key) true)
      by_cases last : path = place ++ [fileName identity .privateKey]
      · subst last
        -- Neither the folders nor the public key have made room for it.
        have missing : tree.entry? (place ++ [fileName identity .privateKey]) = none := by
          by_contra there
          obtain ⟨entry, there⟩ := Option.ne_none_iff_exists'.mp there
          rw [filed, Tree.entry_put_other (child_ne place identity),
            (opened_grows store tree).kept _ entry there] at vacant
          cases vacant
        have leads := still (writable.leads_filed key isPrivate)
        exact .file leads rfl (filed_entry _ place identity .privateKey key true)
          fun _ => ⟨missing, rfl⟩
      · exact (touches_halfway writable key isPrivate path).congr (fun _ => still)
          (Tree.entry_put_other last)

def files (identity : String) : List String :=
  [fileName identity .publicKey, fileName identity .privateKey]

theorem Writable.vacant (writable : store.Writable tree identity place)
    (grounded : tree.Grounded) (descends : tree.Descends store.root place) :
    tree.entry? (place ++ [fileName identity .publicKey]) = none :=
  (descends.absent grounded (Tree.createFolders_adds descends) writable.leads
    (fileName_plain identity .publicKey) writable.fits (not_there writable.free .publicKey)).1

/-- Where the way to the folder of the keys goes back out of no missing folder, nothing is lost. -/
theorem Generated.adds (generated : Generated store tree identity result after)
    (grounded : tree.Grounded) (descends : tree.Descends store.root place) :
    Tree.Adds place (files identity) tree after := by
  have opens := Tree.createFolders_adds descends
  have opens_more := opens.mono (List.nil_subset (files identity))
  have files_public {found : Path} (writable : store.Writable tree identity found)
      (key : Rsa.PrivateKey) (isPrivate : Bool) :
      found = place ∧ Tree.Adds place (files identity) tree
        (filed (store.opened tree) place identity .publicKey key isPrivate) := by
    have same := descends.place_eq opens.toGrows writable.leads.located
    subst same
    have vacant := opens.vacant List.not_mem_nil (writable.vacant grounded descends)
    exact ⟨rfl, opens_more.trans (Tree.adds_file vacant List.mem_cons_self _)⟩
  cases generated with
  | unnamed | refused | unmade => exact Tree.Adds.refl place _ tree
  | unwritten => exact opens_more
  | halfway writable key isPrivate =>
      obtain ⟨rfl, adds⟩ := files_public writable key isPrivate
      exact adds
  | whole writable key isPrivate vacant =>
      obtain ⟨rfl, adds⟩ := files_public writable key isPrivate
      exact adds.trans
        (Tree.adds_file vacant (List.mem_cons_of_mem _ (List.mem_singleton_self _)) _)

theorem Generated.grounded (generated : Generated store tree identity result after)
    (grounded : tree.Grounded) : after.Grounded := by
  have opens : (store.opened tree).Grounded :=
    Tree.createFrom_grounded grounded (grounded.start store.root) store.root
  have files_public {place : Path} (writable : store.Writable tree identity place)
      (key : Rsa.PrivateKey) (isPrivate : Bool) :
      (filed (store.opened tree) place identity .publicKey key isPrivate).Grounded := by
    refine opens.put (List.concat_ne_nil _ place) ?_ writable.no_folder _
    rw [List.dropLast_concat, writable.leads.folder]
  cases generated with
  | unnamed | refused | unmade => exact grounded
  | unwritten => exact opens
  | halfway writable key isPrivate => exact files_public writable key isPrivate
  | @whole place writable key isPrivate vacant =>
      refine (files_public writable key isPrivate).put (List.concat_ne_nil _ place) ?_
        (Tree.no_folder vacant) _
      rw [List.dropLast_concat]
      exact (writable.leads_filed key isPrivate).folder

def Refuses (store : Store) (tree : Tree) (seed : Bytes) (identity : String) (bits : Nat) : Prop :=
  ∃ message, (store.generate tree seed identity bits).1 = .error (.config message)

theorem Generated.refuses {message : String}
    (generated : Generated store tree identity (.error (.config message)) after) :
    after = tree ∧ isIdentity identity = true ∧ store.Taken tree identity := by
  cases generated with
  | refused named taken => exact ⟨rfl, named, taken⟩

theorem refuses_iff (named : isIdentity identity = true) (seed : Bytes) (bits : Nat) :
    store.Refuses tree seed identity bits ↔ store.Taken tree identity := by
  constructor
  · rintro ⟨message, refused⟩
    have generated := generate_cases store tree seed identity bits
    rw [refused] at generated
    exact generated.refuses.2.2
  · intro taken
    refine ⟨s!"Key for '{identity}' already exists in {store.rootName}", ?_⟩
    rw [generate, named]
    simp only [Bool.not_true, Bool.false_eq_true, if_false, if_pos (taken_iff.mp taken)]

theorem Generated.pair (generated : Generated store tree identity (.ok ()) after) :
    ∃ place key, store.Writable tree identity place ∧ after.LeadsTo store.root place ∧
      ∀ kind, ∃ isPrivate, after.entry? (place ++ [fileName identity kind]) =
        some (.file (Kind.file kind key) isPrivate) := by
  cases generated with
  | @whole place writable key isPrivate vacant =>
      refine ⟨place, key, writable,
        (writable.leads_filed key isPrivate).put (Tree.no_folder vacant) _, ?_⟩
      rintro (_ | _)
      · refine ⟨isPrivate, ?_⟩
        rw [filed, Tree.entry_put_other (child_ne place identity).symm, filed_entry]
      · exact ⟨true, filed_entry _ place identity .privateKey key true⟩

theorem Writable.fits_each (writable : store.Writable tree identity place) (kind : Kind) :
    (fileName identity kind).utf8ByteSize ≤ longestName := by
  have shorter : (fileName identity kind).utf8ByteSize ≤
      (fileName identity .publicKey).utf8ByteSize := by
    rw [fileName, fileName, String.utf8ByteSize_append, String.utf8ByteSize_append]
    exact Nat.add_le_add_left (by cases kind <;> decide) _
  exact Nat.le_trans shorter writable.fits

theorem Writable.found_nothing (writable : store.Writable tree identity place)
    (grounded : tree.Grounded) (descends : tree.Descends store.root place) (kind : Kind) :
    tree.find (store.path identity kind) = .error Files.notFound :=
  (descends.absent grounded (Tree.createFolders_adds descends) writable.leads
    (fileName_plain identity kind) (writable.fits_each kind) (not_there writable.free kind)).2

end Effects

/-- What creating a key pair leaves as it was. -/
structure Careful (store : Store) (before : Tree) (identity : String)
    (result : Except Error Unit) (after : Tree) : Prop where
  refused : ∀ message, result = .error (.config message) → after = before
  touches : ∀ path, store.Touches identity before after path
  /-- Nothing is lost, unless the way to the folder goes back out of one that is missing. -/
  adds : ∀ place, before.Descends store.root place →
    Tree.Adds place (files identity) before after

/-- The only files of a store: each is in the folder of the keys, and has the name of a key. -/
structure Confined (store : Store) (tree : Tree) : Prop where
  one_name : ∀ identity kind, isIdentity identity = true →
    '/' ∉ (fileName identity kind).toList ∧ IsPlain (fileName identity kind)
  located : ∀ identity kind path, tree.locate (store.path identity kind) = .ok path →
    ∃ place, tree.LeadsTo store.root place ∧ path = place ++ [fileName identity kind]
  strays : ∀ identity, Strays identity → isIdentity identity = false
  unnamed : ∀ identity, isIdentity identity = false →
    (∀ kind, store.lookUp tree identity kind = (.error (.noSuchKey identity), store)) ∧
      ∀ seed bits, store.generate tree seed identity bits = (.error (.noSuchKey identity), tree)

theorem generate_careful (store : Store) {tree : Tree} (grounded : tree.Grounded) (seed : Bytes)
    (identity : String) (bits : Nat) :
    Careful store tree identity (store.generate tree seed identity bits).1
      (store.generate tree seed identity bits).2 := by
  have generated := generate_cases store tree seed identity bits
  refine ⟨fun message refused => ?_, generated.touches, fun place => generated.adds grounded⟩
  rw [refused] at generated
  exact generated.refuses.1

theorem confined (store : Store) (tree : Tree) : Confined store tree where
  one_name identity kind named := ⟨fileName_one named kind, fileName_plain identity kind⟩
  located identity kind path found := by
    obtain ⟨place, leads, -, same⟩ := (Tree.locate_child (fileName_plain identity kind)).mp found
    exact ⟨place, leads, same⟩
  strays _ := strays_unnamed
  unnamed identity unnamed := by
    refine ⟨fun kind => lookUp_unnamed unnamed, fun seed bits => ?_⟩
    rw [generate, unnamed]
    rfl

end Store

end Keys

end MailExchange
