import MailExchange.Proofs.Crypto.Pem
import MailExchange.Proofs.Keys.Creation

namespace MailExchange.Keys

open Files (Path Tree longestName)
open Text (Bytes)

theorem Kind.parse_other {kind other : Kind} (differs : kind ≠ other) (key : Rsa.PrivateKey) :
    kind.parse? (other.file key) = none := by
  cases kind <;> cases other
  · exact absurd rfl differs
  · exact Pem.readPublicKey_privateKey key
  · simp only [Kind.parse?, Kind.file, Pem.readPrivateKey_publicKey]
    rfl
  · exact absurd rfl differs

namespace Store

/-- A lookup answers as before. That a name is too long for a file it may say only once the folders are
there. -/
def SameAnswer (store : Store) (before after : Tree) (identity : String) (kind : Kind) : Prop :=
  let answer (tree : Tree) := (store.fresh.lookUp tree identity kind).1
  answer after = answer before ∨
    answer before = .error (.noSuchKey identity) ∧ answer after = .error Files.nameTooLong ∧
      ∃ name ∈ store.path identity kind, longestName < name.utf8ByteSize

/-- Nothing has changed for an identity. -/
structure Undisturbed (store : Store) (before after : Tree) (identity : String) : Prop where
  lookUp : ∀ kind, store.SameAnswer before after identity kind
  refuses : ∀ seed bits,
    store.Refuses after seed identity bits ↔ store.Refuses before seed identity bits

section Alike

variable {store : Store} {before after : Tree} {identity : String} {kind : Kind}

theorem SameAnswer.of_alike (named : isIdentity identity = true)
    (alike : Tree.Alike (store.path identity kind) (before.find (store.path identity kind))
      (after.find (store.path identity kind))) :
    store.SameAnswer before after identity kind := by
  simp only [SameAnswer, fresh_lookUp named, load, Tree.read_find]
  rcases alike with same | ⟨missing, long, beyond⟩
  · exact Or.inl (by rw [same])
  · rw [missing, long]
    exact Or.inr ⟨rfl, rfl, beyond⟩

theorem isThere_alike
    (alike : Tree.Alike (store.path identity kind) (before.find (store.path identity kind))
      (after.find (store.path identity kind))) :
    after.isThere (store.path identity kind) = before.isThere (store.path identity kind) := by
  rw [Tree.isThere_find, Tree.isThere_find]
  rcases alike with same | ⟨missing, long, _⟩
  · rw [same]
  · rw [missing, long]
    rfl

end Alike

section Sharing

variable {store : Store} {tree after : Tree} {place : Path} {first second : String}
  {kind other : Kind} {result : Except Error Unit}

theorem path_eq_iff : store.path first kind = store.path second other ↔
    fileName first kind = fileName second other := by
  rw [path, path, List.append_cancel_left_eq, List.singleton_inj]

theorem path_shared (different : first ≠ second) :
    store.path first kind = store.path second other ↔
      first = second ++ "_pub" ∧ kind = .privateKey ∧ other = .publicKey ∨
        second = first ++ "_pub" ∧ kind = .publicKey ∧ other = .privateKey := by
  rw [path_eq_iff, fileName_eq_iff]
  exact or_iff_right fun same => different same.1

theorem Generated.alike (generated : Generated store tree second result after)
    (grounded : tree.Grounded) (descends : tree.Descends store.root place)
    (apart : ∀ other, store.path first kind ≠ store.path second other) :
    Tree.Alike (store.path first kind) (tree.find (store.path first kind))
      (after.find (store.path first kind)) := by
  have adds := generated.adds grounded descends
  refine descends.alike grounded adds (fileName_plain first kind) ?_
  simp only [files, List.mem_cons, List.not_mem_nil, or_false, not_or]
  exact ⟨mt path_eq_iff.mpr (apart .publicKey), mt path_eq_iff.mpr (apart .privateKey)⟩

theorem Generated.found (generated : Generated store tree second (.ok ()) after)
    (grounded : tree.Grounded) (descends : tree.Descends store.root place) (other : Kind) :
    tree.find (store.path second other) = .error Files.notFound ∧
      ∃ key isPrivate,
        after.find (store.path second other) = .ok (.file (other.file key) isPrivate) := by
  have grows := (generated.adds grounded descends).toGrows
  obtain ⟨found, key, writable, leads, there⟩ := generated.pair
  obtain ⟨isPrivate, there⟩ := there other
  have here := descends.place_eq grows leads.located
  subst here
  have finds := leads.find (fileName_plain second other) (writable.fits_each other)
  rw [Tree.findFrom_there there] at finds
  exact ⟨writable.found_nothing grounded descends other, key, isPrivate, finds⟩

/-- Where a file is shared, the new pair takes the place of a key that is not one. -/
theorem Generated.taken_over (generated : Generated store tree second (.ok ()) after)
    (grounded : tree.Grounded) (descends : tree.Descends store.root place)
    (first_named : isIdentity first = true) (differs : kind ≠ other)
    (same : store.path first kind = store.path second other) :
    (store.fresh.lookUp tree first kind).1 = .error (.noSuchKey first) ∧
      (store.fresh.lookUp after first kind).1 = .error .crypto ∧
      ∀ seed bits, store.Refuses after seed first bits := by
  obtain ⟨before, key, isPrivate, now⟩ := generated.found grounded descends other
  rw [← same] at before now
  refine ⟨?_, ?_, ?_⟩
  · rw [fresh_lookUp first_named, load, Tree.read_find, before]
    rfl
  · rw [fresh_lookUp first_named, load, Tree.read_find, now]
    simp only [Except.bind, Kind.ofFile, Kind.parse_other differs]
  · intro seed bits
    have there : after.isThere (store.path first kind) = true := by
      rw [Tree.isThere_find, now]
      rfl
    exact (refuses_iff first_named seed bits).mpr ⟨kind, there⟩

theorem leads_of_lookUp {key : kind.Key} (first_named : isIdentity first = true)
    (found : (store.fresh.lookUp tree first kind).1 = .ok key) :
    ∃ place, tree.LeadsTo store.root place := by
  rw [fresh_lookUp first_named, load, Tree.read] at found
  cases located : tree.locate (store.path first kind) with
  | error error =>
      obtain ⟨ioKind, text, rfl⟩ := Tree.follow_io located
      rw [located] at found
      cases ioKind <;> cases found
  | ok path =>
      obtain ⟨place, leads, -⟩ := (Tree.locate_child (fileName_plain first kind)).mp located
      exact ⟨place, leads⟩

end Sharing

/-- Creating a key pair makes no difference to an identity that shares no file with it, and two
identities share a file exactly if one is the other with `_pub` at its end. Then the new pair takes the
place of a key that is not one. Where the way to the folder of the keys goes back out of one that is
missing, there may be more keys after that, but none are others. -/
theorem identities_independent (store : Store) (tree : Tree) (seed : Bytes)
    (first second : String) (bits : Nat) (grounded : tree.Grounded)
    (first_named : isIdentity first = true) (different : first ≠ second) :
    let after := (store.generate tree seed second bits).2
    (∀ kind other, store.path first kind = store.path second other ↔
      first = second ++ "_pub" ∧ kind = .privateKey ∧ other = .publicKey ∨
        second = first ++ "_pub" ∧ kind = .publicKey ∧ other = .privateKey) ∧
    (∀ kind key, (∀ other, store.path first kind ≠ store.path second other) →
      (store.fresh.lookUp tree first kind).1 = .ok key →
      (store.fresh.lookUp after first kind).1 = .ok key) ∧
    ∀ place, tree.Descends store.root place →
      (first ≠ second ++ "_pub" → second ≠ first ++ "_pub" →
        store.Undisturbed tree after first) ∧
      (∀ kind, (∀ other, store.path first kind ≠ store.path second other) →
        store.SameAnswer tree after first kind) ∧
      ((store.generate tree seed second bits).1 = .ok () →
        ∀ kind other, store.path first kind = store.path second other →
          (store.fresh.lookUp tree first kind).1 = .error (.noSuchKey first) ∧
          (store.fresh.lookUp after first kind).1 = .error .crypto ∧
          ∀ seed bits, store.Refuses after seed first bits) := by
  intro after
  have generated := generate_cases store tree seed second bits
  refine ⟨fun _ _ => path_shared different, ?_, fun place descends => ⟨?_, ?_, ?_⟩⟩
  · -- A key that is found shows that the way to the folder leads there already.
    intro kind key apart found
    obtain ⟨place, leads⟩ := leads_of_lookUp first_named found
    have alike := generated.alike grounded leads.descends apart
    rcases SameAnswer.of_alike first_named alike with same | ⟨missing, -⟩
    · exact same.trans found
    · cases missing.symm.trans found
  · intro not_first not_second
    have apart (kind other : Kind) : store.path first kind ≠ store.path second other := by
      rw [ne_eq, path_shared different]
      rintro (⟨same, _⟩ | ⟨same, _⟩)
      · exact not_first same
      · exact not_second same
    have alike (kind : Kind) := generated.alike grounded descends (apart kind)
    refine ⟨fun kind => .of_alike first_named (alike kind), fun seed bits => ?_⟩
    rw [refuses_iff first_named, refuses_iff first_named]
    exact exists_congr fun kind => by rw [isThere_alike (alike kind)]
  · intro kind apart
    exact .of_alike first_named (generated.alike grounded descends apart)
  · intro created kind other same
    rw [created] at generated
    have differs : kind ≠ other := by
      rintro rfl
      rcases (path_shared different).mp same with ⟨_, rfl, impossible⟩ | ⟨_, rfl, impossible⟩
      · cases impossible
      · cases impossible
    exact generated.taken_over grounded descends first_named differs same

theorem planets_independent :
    let store : Store := { root := ["keys"], rootName := "keys" }
    let after := (store.generate {} [] "earth" 512).2
    store.Undisturbed {} after "irk" ∧
      (store.fresh.lookUp {} "earth_pub" .privateKey).1 = .error (.noSuchKey "earth_pub") ∧
      (store.fresh.lookUp after "earth_pub" .privateKey).1 = .error .crypto := by
  intro store after
  have grounded := Tree.grounded_empty
  have descends : Tree.Descends {} store.root _ := grounded.descends (by decide)
  have irk := identities_independent store {} [] "irk" "earth" 512 grounded (by decide) (by decide)
  have earth := identities_independent store {} [] "earth_pub" "earth" 512 grounded (by decide)
    (by decide)
  have created : (store.generate {} [] "earth" 512).1 = .ok () := by
    have ok : (store.generate {} [] "earth" 512).1.isOk = true := by decide +kernel
    cases result : (store.generate {} [] "earth" 512).1 with
    | ok => rfl
    | error => cases (congrArg Except.isOk result).symm.trans ok
  have shared : store.path "earth_pub" .privateKey = store.path "earth" .publicKey :=
    (earth.1 _ _).mpr (Or.inl ⟨by decide, rfl, rfl⟩)
  obtain ⟨before, now, -⟩ := (earth.2.2 _ descends).2.2 created .privateKey .publicKey shared
  exact ⟨(irk.2.2 _ descends).1 (by decide) (by decide), before, now⟩

end Store

end MailExchange.Keys
