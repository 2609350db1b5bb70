import MailExchange.Proofs.Keys.Creation

/-!
A store of keys in use: keys are looked up and key pairs are created in any order, and meanwhile others
change the files. A key that has once been found stays what it was; any other lookup gives what is in
the file at the time.
-/

namespace MailExchange.Keys

open Files (Path Tree)
open Text (Bytes)

inductive Event where
  | lookUp (kind : Kind) (identity : String)
  | generate (seed : Bytes) (identity : String) (bits : Nat)
  /-- Others have changed the files. -/
  | outside (tree : Tree) (grounded : tree.Grounded)

structure Cabinet where
  store : Store
  tree : Tree

theorem Cache.find_cons {κ : Type} (cache : Cache κ) (name identity : String) (key : κ) :
    Cache.find? ((name, key) :: cache) identity =
      if name = identity then some key else cache.find? identity := by
  simp only [Cache.find?, List.find?_cons]
  by_cases same : name = identity
  · simp only [same, beq_self_eq_true, if_true, Option.map_some]
  · simp only [beq_eq_false_iff_ne.mpr same, if_neg same]

namespace Cabinet

def answer (cabinet : Cabinet) (kind : Kind) (identity : String) : Except Error kind.Key :=
  (cabinet.store.lookUp cabinet.tree identity kind).1

def meet (cabinet : Cabinet) : Event → Cabinet
  | .lookUp kind identity =>
    { cabinet with store := (cabinet.store.lookUp cabinet.tree identity kind).2 }
  | .generate seed identity bits =>
    { cabinet with tree := (cabinet.store.generate cabinet.tree seed identity bits).2 }
  | .outside tree _ => { cabinet with tree }

def after (cabinet : Cabinet) (events : List Event) : Cabinet := events.foldl meet cabinet

/-- One of the lookups has found this key. -/
def Found (start : Cabinet) (events : List Event) (kind : Kind) (identity : String)
    (key : kind.Key) : Prop :=
  ∃ earlier later, events = earlier ++ .lookUp kind identity :: later ∧
    (start.after earlier).answer kind identity = .ok key

section Steps

variable {cabinet start : Cabinet} {event : Event} {events more : List Event} {kind : Kind}
  {identity : String} {key : kind.Key}

/-- Only a lookup that finds a key which is not kept yet makes a difference to what is kept. -/
theorem meet_kept (cabinet : Cabinet) (event : Event) (kind : Kind) :
    (cabinet.meet event).store.kept kind = cabinet.store.kept kind ∨
      ∃ identity key, event = .lookUp kind identity ∧
        (cabinet.store.kept kind).find? identity = none ∧
        cabinet.answer kind identity = .ok key ∧
        (cabinet.meet event).store.kept kind = (identity, key) :: cabinet.store.kept kind := by
  cases event with
  | generate | outside => exact Or.inl rfl
  | lookUp asked identity =>
      by_cases same : kind = asked
      · subst same
        cases named : isIdentity identity with
        | false =>
            left
            rw [meet, Store.lookUp_unnamed named]
        | true =>
            cases known : (cabinet.store.kept kind).find? identity with
            | some key =>
                left
                rw [meet, Store.lookUp_kept named known]
            | none =>
                obtain ⟨loaded, kept⟩ := Store.lookUp_new named known cabinet.tree
                cases found : cabinet.store.load cabinet.tree identity kind with
                | error error =>
                    rw [found] at kept
                    exact Or.inl kept
                | ok key =>
                    rw [found] at loaded kept
                    exact Or.inr ⟨identity, key, rfl, known, loaded, kept⟩
      · exact Or.inl (Store.kept_lookUp_other same)

theorem meet_keeps (known : (cabinet.store.kept kind).find? identity = some key) (event : Event) :
    ((cabinet.meet event).store.kept kind).find? identity = some key := by
  rcases meet_kept cabinet event kind with same | ⟨name, found, -, unknown, -, kept⟩
  · rw [same, known]
  · -- A key that is new stands first, but never under a name that has one already.
    have other : name ≠ identity := by
      rintro rfl
      cases unknown.symm.trans known
    rw [kept, Cache.find_cons, if_neg other, known]

theorem meet_new (known : ((cabinet.meet event).store.kept kind).find? identity = some key) :
    (cabinet.store.kept kind).find? identity = some key ∨
      event = .lookUp kind identity ∧ cabinet.answer kind identity = .ok key := by
  rcases meet_kept cabinet event kind with same | ⟨name, found, asked, -, answered, kept⟩
  · exact Or.inl (same ▸ known)
  · rw [kept, Cache.find_cons] at known
    split at known
    · next same =>
        subst same
        cases known
        exact Or.inr ⟨asked, answered⟩
    · exact Or.inl known

theorem meet_found (answered : cabinet.answer kind identity = .ok key) :
    ((cabinet.meet (.lookUp kind identity)).store.kept kind).find? identity = some key := by
  cases named : isIdentity identity with
  | false =>
      rw [answer, Store.lookUp_unnamed named] at answered
      cases answered
  | true =>
      cases known : (cabinet.store.kept kind).find? identity with
      | some old =>
          rw [answer, Store.lookUp_kept named known] at answered
          cases answered
          exact meet_keeps known _
      | none =>
          obtain ⟨loaded, kept⟩ := Store.lookUp_new named known cabinet.tree
          rw [← loaded, show (cabinet.store.lookUp _ _ kind).1 = _ from answered] at kept
          rw [meet, kept]
          exact (Cache.find_cons _ identity identity key).trans (if_pos rfl)

theorem answer_known (known : (cabinet.store.kept kind).find? identity = some key)
    (named : isIdentity identity = true) : cabinet.answer kind identity = .ok key := by
  rw [answer, Store.lookUp_kept named known]

theorem meet_root (cabinet : Cabinet) (event : Event) :
    (cabinet.meet event).store.root = cabinet.store.root := by
  cases event with
  | lookUp => exact Store.lookUp_root
  | generate | outside => rfl

theorem meet_grounded (grounded : cabinet.tree.Grounded) (event : Event) :
    (cabinet.meet event).tree.Grounded := by
  cases event with
  | lookUp => exact grounded
  | generate seed identity bits =>
      exact (Store.generate_cases cabinet.store cabinet.tree seed identity bits).grounded grounded
  | outside _ other => exact other

theorem after_append (cabinet : Cabinet) (events more : List Event) :
    cabinet.after (events ++ more) = (cabinet.after events).after more :=
  List.foldl_append

theorem after_keeps (known : (cabinet.store.kept kind).find? identity = some key)
    (events : List Event) :
    ((cabinet.after events).store.kept kind).find? identity = some key := by
  induction events generalizing cabinet with
  | nil => exact known
  | cons event events ih => exact ih (meet_keeps known event)

theorem after_root (cabinet : Cabinet) (events : List Event) :
    (cabinet.after events).store.root = cabinet.store.root := by
  induction events generalizing cabinet with
  | nil => rfl
  | cons event events ih => exact (ih (cabinet.meet event)).trans (meet_root cabinet event)

theorem after_grounded (grounded : cabinet.tree.Grounded) (events : List Event) :
    (cabinet.after events).tree.Grounded := by
  induction events generalizing cabinet with
  | nil => exact grounded
  | cons event events ih => exact ih (meet_grounded grounded event)

theorem Found.kept (found : start.Found events kind identity key) :
    ((start.after events).store.kept kind).find? identity = some key := by
  obtain ⟨earlier, later, rfl, answered⟩ := found
  rw [after_append]
  exact after_keeps (meet_found answered) later

theorem Found.append (found : start.Found events kind identity key) (more : List Event) :
    start.Found (events ++ more) kind identity key := by
  obtain ⟨earlier, later, rfl, answered⟩ := found
  exact ⟨earlier, later ++ more, by rw [List.append_assoc, List.cons_append], answered⟩

/-- What is kept has been found, unless it was kept from the start. -/
theorem found_of_kept (unknown : (start.store.kept kind).find? identity = none)
    (known : ((start.after events).store.kept kind).find? identity = some key) :
    start.Found events kind identity key := by
  induction events using List.reverseRecOn with
  | nil => cases unknown.symm.trans known
  | append_singleton events event ih =>
      rw [after_append] at known
      -- The last event has found the key, or one before it has.
      rcases meet_new known with before | ⟨rfl, answered⟩
      · exact (ih before).append [event]
      · exact ⟨events, [], rfl, answered⟩

end Steps

/-- After any events, a key that has once been found is given again, whatever has become of its file,
and any other lookup gives what is in the file now. Creating a key pair changes nothing when it is
refused, and otherwise adds files and loses none, unless the way to the folder of the keys goes back out
of one that is missing: then the file of the public key may be written over. No other file than one in
the folder of the keys has to do with it. -/
theorem lookups_stable (store : Store) (tree : Tree) (events : List Event)
    (grounded : tree.Grounded) :
    let start : Cabinet := { store := store.fresh, tree }
    let now := start.after events
    now.store.root = store.root ∧
    (∀ kind identity key, start.Found events kind identity key →
      now.answer kind identity = .ok key) ∧
    (∀ kind identity, isIdentity identity = true →
      (∀ key, ¬ start.Found events kind identity key) →
      now.answer kind identity = kind.ofFile identity (now.tree.read (store.path identity kind))) ∧
    (∀ seed identity bits, isIdentity identity = true →
      (now.store.Refuses now.tree seed identity bits ↔ now.store.Taken now.tree identity)) ∧
    (∀ seed identity bits,
      let (result, after) := now.store.generate now.tree seed identity bits
      now.store.Careful now.tree identity result after) ∧
    now.store.Confined now.tree := by
  intro start now
  have root : now.store.root = store.root := after_root start events
  refine ⟨root, ?_, ?_, ?_, ?_, Store.confined now.store now.tree⟩
  · intro kind identity key found
    cases named : isIdentity identity with
    | true => exact answer_known found.kept named
    | false =>
        obtain ⟨earlier, later, -, answered⟩ := found
        rw [answer, Store.lookUp_unnamed named] at answered
        cases answered
  · intro kind identity named unfound
    have unknown : (now.store.kept kind).find? identity = none := by
      by_contra known
      obtain ⟨key, known⟩ := Option.ne_none_iff_exists'.mp known
      have fresh : (start.store.kept kind).find? identity = none := by cases kind <;> rfl
      exact unfound key (found_of_kept fresh known)
    rw [answer, (Store.lookUp_new named unknown now.tree).1, Store.load, Store.path, root]
    rfl
  · intro seed identity bits named
    exact Store.refuses_iff named seed bits
  · intro seed identity bits
    exact Store.generate_careful now.store (after_grounded grounded events) seed identity bits

def shelf : Tree :=
  (({} : Tree).put ["keys"] .folder).put ["keys", "earth_pub.pem"]
    (.file (Pem.publicKey { modulus := 3233, exponent := 17 }) false)

theorem shelf_grounded : shelf.Grounded :=
  (Tree.grounded_empty.put (by decide) rfl (by decide) .folder).put (by decide) (by decide)
    (by decide) _

theorem shelf_gone_grounded : (shelf.put ["gone"] .folder).Grounded :=
  shelf_grounded.put (by decide) (by decide) (by decide) .folder

theorem earth_stable :
    let store : Store := { root := ["gone", "..", "keys"], rootName := "gone/../keys" }
    let start : Cabinet := { store := store.fresh, tree := {} }
    let events : List Event := [.lookUp .publicKey "earth",
      .outside (shelf.put ["gone"] .folder) shelf_gone_grounded, .lookUp .publicKey "earth",
      .outside shelf shelf_grounded]
    let now := start.after events
    let later := (now.store.generate now.tree [] "earth" 512).2
    let file (tree : Tree) := tree.entry? ["keys", "earth_pub.pem"]
    now.answer .publicKey "earth" = .ok { modulus := 3233, exponent := 17 } ∧
      now.answer .privateKey "earth" = .error (.noSuchKey "earth") ∧
      (file now.tree).isSome = true ∧ file later ≠ file now.tree := by
  intro store start events now later file
  obtain ⟨-, kept, unkept, -⟩ := lookups_stable store {} events Tree.grounded_empty
  have read : (start.store.publicKey (shelf.put ["gone"] .folder) "earth").1 =
      .ok { modulus := 3233, exponent := 17 } := by decide +kernel
  have found : start.Found events .publicKey "earth" { modulus := 3233, exponent := 17 } :=
    ⟨events.take 2, events.drop 3, rfl, read⟩
  have unfound (key : Rsa.PrivateKey) : ¬ start.Found events .privateKey "earth" key := by
    rintro ⟨earlier, rest, split, -⟩
    have member : Event.lookUp .privateKey "earth" ∈ events :=
      split ▸ List.mem_append_right earlier List.mem_cons_self
    simp [events] at member
  refine ⟨kept _ _ _ found, ?_, rfl, by decide +kernel⟩
  exact (unkept .privateKey "earth" (by decide) unfound).trans rfl

end Cabinet

end MailExchange.Keys
