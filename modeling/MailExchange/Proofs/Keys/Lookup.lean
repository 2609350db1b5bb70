import MailExchange.Keys.Store
import MailExchange.Proofs.Files.Finding
import MailExchange.Wire.Endpoint

/-!
Looking up keys. A lookup answers with the key that is kept, and otherwise with what is in the one file
that the identity and the kind of the key name. An identity names no other file than one in the folder
of the keys, and two identities name different files, unless one is the other with `_pub` at its end.
-/

namespace MailExchange.Keys

open Files (Path Tree IsPlain)
open Text (Bytes)

section Names

variable {identity first second : String} {kind other : Kind}

theorem mem_identity (named : isIdentity identity = true) {c : Char}
    (member : c ∈ identity.toList) : isIdentityChar c = true := by
  rw [isIdentity] at named
  split at named
  · cases named
  · next start rest same =>
      rw [Bool.and_eq_true] at named
      rw [same, List.mem_cons] at member
      rcases member with rfl | later
      · rw [isIdentityChar, named.1, Bool.true_or]
      · exact List.all_eq_true.mp named.2 c later

/-- An identity that could name something else than a file in the folder of the keys. -/
def Strays (identity : String) : Prop :=
  identity = "" ∨ identity.toList.head? = some '.' ∨
    ∃ c ∈ identity.toList, c = '/' ∨ c = '\\' ∨ LogPrefix.isControl c = true

theorem identityChar_visible {c : Char} (allowed : isIdentityChar c = true) :
    c ≠ '/' ∧ c ≠ '\\' ∧ LogPrefix.isControl c = false := by
  refine ⟨?_, ?_, ?_⟩
  · rintro rfl
    exact absurd allowed (by decide)
  · rintro rfl
    exact absurd allowed (by decide)
  · have range {low high : Char} (between : low ≤ c ∧ c ≤ high) :
        low.toNat ≤ c.toNat ∧ c.toNat ≤ high.toNat := between
    simp only [isIdentityChar, isIdentityStart, Bool.or_eq_true, decide_eq_true_eq,
      beq_iff_eq] at allowed
    rw [LogPrefix.isControl, decide_eq_false_iff_not]
    rcases allowed with (lower | upper | digit | rfl | rfl) | rfl
    · have bounds := range lower
      simp only [Char.reduceToNat] at bounds
      omega
    · have bounds := range upper
      simp only [Char.reduceToNat] at bounds
      omega
    · have bounds := range digit
      simp only [Char.reduceToNat] at bounds
      omega
    · decide
    · decide
    · decide

theorem strays_unnamed (strays : Strays identity) : isIdentity identity = false := by
  by_contra allowed
  have named := eq_true_of_ne_false allowed
  rcases strays with rfl | dot | ⟨c, member, outside⟩
  · exact absurd named (by decide)
  · obtain ⟨rest, same⟩ := List.head?_eq_some_iff.mp dot
    rw [isIdentity, same] at named
    exact absurd named (by simp [isIdentityStart])
  · obtain ⟨slash, backslash, visible⟩ := identityChar_visible (mem_identity named member)
    rcases outside with rfl | rfl | control
    · exact slash rfl
    · exact backslash rfl
    · rw [visible] at control
      cases control

theorem fileName_plain (identity : String) (kind : Kind) : IsPlain (fileName identity kind) := by
  have long : 3 ≤ (fileName identity kind).length := by
    rw [fileName, String.length_append]
    cases kind <;> simp only [Kind.ending] <;> exact Nat.le_add_left_of_le (by decide)
  refine ⟨?_, ?_, ?_⟩ <;> intro same <;> rw [same] at long <;> exact absurd long (by decide)

theorem fileName_one (named : isIdentity identity = true) (kind : Kind) :
    '/' ∉ (fileName identity kind).toList := by
  rw [fileName, String.toList_append, List.mem_append, not_or]
  constructor
  · intro member
    exact (identityChar_visible (mem_identity named member)).1 rfl
  · cases kind <;> decide

theorem append_ending_inj (ending : String) :
    first ++ ending = second ++ ending ↔ first = second := by
  rw [← String.toList_inj, String.toList_append, String.toList_append, List.append_left_inj,
    String.toList_inj]

theorem fileName_public (identity : String) :
    fileName identity .publicKey = fileName (identity ++ "_pub") .privateKey := by
  rw [fileName, fileName, String.append_assoc]
  rfl

theorem fileName_eq_iff : fileName first kind = fileName second other ↔
    first = second ∧ kind = other ∨
      first = second ++ "_pub" ∧ kind = .privateKey ∧ other = .publicKey ∨
      second = first ++ "_pub" ∧ kind = .publicKey ∧ other = .privateKey := by
  have same_kind (kind : Kind) : fileName first kind = fileName second kind ↔ first = second :=
    append_ending_inj kind.ending
  cases kind <;> cases other
  · simp only [same_kind, and_true, reduceCtorEq, and_false, or_false]
  · rw [fileName_public, fileName, fileName, append_ending_inj, eq_comm]
    simp only [reduceCtorEq, and_false, and_true, false_or]
  · rw [fileName_public, fileName, fileName, append_ending_inj]
    simp only [reduceCtorEq, and_false, and_true, false_or, or_false]
  · simp only [same_kind, and_true, reduceCtorEq, and_false, or_false]

end Names

def Kind.Key : Kind → Type
  | publicKey => Rsa.PublicKey
  | privateKey => Rsa.PrivateKey

def Kind.parse? : (kind : Kind) → Bytes → Option kind.Key
  | publicKey, file => Pem.readPublicKey file
  | privateKey, file => (Pem.readPrivateKey file).filter (·.isConsistent)

def Kind.ofFile (kind : Kind) (identity : String) : Except Error Bytes → Except Error kind.Key
  | .ok file =>
    match kind.parse? file with
    | some key => .ok key
    | none => .error .crypto
  | .error (.io .notFound _) => .error (.noSuchKey identity)
  | .error error => .error error

namespace Store

def kept (store : Store) : (kind : Kind) → Cache kind.Key
  | .publicKey => store.publicKeys
  | .privateKey => store.privateKeys

def lookUp (store : Store) (tree : Tree) (identity : String) :
    (kind : Kind) → Except Error kind.Key × Store
  | .publicKey => store.publicKey tree identity
  | .privateKey => store.privateKey tree identity

def load (store : Store) (tree : Tree) (identity : String) (kind : Kind) : Except Error kind.Key :=
  kind.ofFile identity (tree.read (store.path identity kind))

def fresh (store : Store) : Store := { root := store.root, rootName := store.rootName }

section Looking

variable {store : Store} {tree : Tree} {identity : String} {kind : Kind} {key : kind.Key}

theorem loadPublic_eq : store.loadPublic tree identity = store.load tree identity .publicKey := by
  simp only [loadPublic, readFile, load]
  cases tree.read (store.path identity .publicKey) with
  | ok file =>
      simp only [Kind.ofFile, Kind.parse?, Except.bind]
      cases Pem.readPublicKey file <;> rfl
  | error error =>
      cases error with
      | io kind text => cases kind <;> rfl
      | _ => rfl

theorem loadPrivate_eq :
    store.loadPrivate tree identity = store.load tree identity .privateKey := by
  simp only [loadPrivate, readFile, load]
  cases tree.read (store.path identity .privateKey) with
  | ok file =>
      simp only [Kind.ofFile, Kind.parse?, Except.bind]
      cases Pem.readPrivateKey file with
      | none => rfl
      | some key =>
          simp only [Option.filter]
          split <;> rfl
  | error error =>
      cases error with
      | io kind text => cases kind <;> rfl
      | _ => rfl

theorem lookUp_unnamed (unnamed : isIdentity identity = false) :
    store.lookUp tree identity kind = (.error (.noSuchKey identity), store) := by
  cases kind
  · simp only [lookUp, publicKey, look, unnamed, Bool.false_eq_true, if_false]
    rfl
  · simp only [lookUp, privateKey, look, unnamed, Bool.false_eq_true, if_false]
    rfl

theorem lookUp_kept (named : isIdentity identity = true)
    (known : (store.kept kind).find? identity = some key) :
    store.lookUp tree identity kind = (.ok key, store) := by
  cases kind
  · have found : store.publicKeys.find? identity = some key := known
    simp only [lookUp, publicKey, look, named, if_true, found]
    rfl
  · have found : store.privateKeys.find? identity = some key := known
    simp only [lookUp, privateKey, look, named, if_true, found]
    rfl

theorem lookUp_new (named : isIdentity identity = true)
    (unknown : (store.kept kind).find? identity = none) (tree : Tree) :
    (store.lookUp tree identity kind).1 = store.load tree identity kind ∧
      (store.lookUp tree identity kind).2.kept kind =
        ((store.load tree identity kind).toOption.map (identity, ·)).toList ++ store.kept kind := by
  cases kind
  · have unfound : store.publicKeys.find? identity = none := unknown
    simp only [lookUp, publicKey, look, named, if_true, unfound, loadPublic_eq]
    cases store.load tree identity .publicKey <;> exact ⟨rfl, rfl⟩
  · have unfound : store.privateKeys.find? identity = none := unknown
    simp only [lookUp, privateKey, look, named, if_true, unfound, loadPrivate_eq]
    cases store.load tree identity .privateKey <;> exact ⟨rfl, rfl⟩

theorem kept_lookUp_other {other : Kind} (differs : other ≠ kind) :
    (store.lookUp tree identity kind).2.kept other = store.kept other := by
  cases kind <;> cases other <;> first | rfl | exact absurd rfl differs

theorem lookUp_root : (store.lookUp tree identity kind).2.root = store.root := by
  cases kind <;> rfl

theorem fresh_lookUp (named : isIdentity identity = true) (kind : Kind) :
    (store.fresh.lookUp tree identity kind).1 = store.load tree identity kind := by
  have unknown : (store.fresh.kept kind).find? identity = none := by cases kind <;> rfl
  exact (lookUp_new named unknown tree).1

end Looking

end Store

end MailExchange.Keys
