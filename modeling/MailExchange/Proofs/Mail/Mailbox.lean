import MailExchange.Mail.Mailbox
import Mathlib.Data.List.Basic
import Mathlib.Logic.Function.Basic
import Std.Data.TreeMap.Lemmas

namespace MailExchange

namespace Mailboxes

variable {mailboxes : Mailboxes} {user other : String} {mailbox : Mailbox}

@[simp] theorem box_setBox (mailboxes : Mailboxes) (user : String) (mailbox : Mailbox) :
    (mailboxes.setBox user mailbox).box user = mailbox := by
  simp only [box, setBox, List.find?_cons, beq_self_eq_true, Option.map_some, Option.getD_some]

theorem box_setBox_other (different : other ≠ user) :
    (mailboxes.setBox user mailbox).box other = mailboxes.box other := by
  have skipped : (user == other) = false := beq_false_of_ne different.symm
  have kept : (mailboxes.boxes.filter (·.1 != user)).find? (·.1 == other) =
      mailboxes.boxes.find? (·.1 == other) := by
    rw [List.find?_filter]
    congr 1
    funext entry
    by_cases same : entry.1 = other
    · simp only [same, beq_self_eq_true, bne_iff_ne, ne_eq, different, not_false_eq_true, and_self,
        decide_true]
    · simp only [beq_false_of_ne same, Bool.false_eq_true, and_false, decide_false]
  simp only [box, setBox, List.find?_cons, skipped, kept]

theorem delete_absent {id : MessageId} (absent : mailboxes.get? user id = none) :
    (mailboxes.delete user id).1 = false ∧
      ∀ other, (mailboxes.delete user id).2.list other = mailboxes.list other := by
  have nowhere := List.find?_eq_none.mp (Option.map_eq_none_iff.mp absent)
  constructor
  · change (mailboxes.get? user id).isSome = false
    rw [absent, Option.isSome_none]
  · intro other
    change ((mailboxes.setBox user ((mailboxes.box user).delete id).2).box other).messages = _
    by_cases same : other = user
    · rw [same, box_setBox]
      apply List.filter_eq_self.mpr
      intro message member
      have different := nowhere message member
      rwa [beq_iff_eq, ← ne_eq, ← bne_iff_ne] at different
    · rw [box_setBox_other same]
      rfl

end Mailboxes

abbrev Shelf := Std.TreeMap MessageId Mail

abbrev Shelves := String → Shelf

/-- The mailboxes list what stands on the shelves. -/
def Mailboxes.Holds (mailboxes : Mailboxes) (shelves : Shelves) : Prop :=
  ∀ user, mailboxes.list user = (shelves user).toList

def Ascending (messages : List (MessageId × Mail)) : Prop :=
  messages.Pairwise fun first second => compare first.1 second.1 = .lt

theorem Ascending.ext {left right : List (MessageId × Mail)} (left_ascending : Ascending left)
    (right_ascending : Ascending right) (same : ∀ message, message ∈ left ↔ message ∈ right) :
    left = right := by
  have distinct {messages : List (MessageId × Mail)} (ascending : Ascending messages) :
      messages.Nodup := by
    apply List.Pairwise.imp _ ascending
    rintro first second less rfl
    have equal : compare first.1 first.1 = .eq := Std.ReflCmp.compare_self
    rw [equal] at less
    cases less
  have permuted := (List.perm_ext_iff_of_nodup (distinct left_ascending)
    (distinct right_ascending)).mpr same
  apply permuted.eq_of_pairwise _ left_ascending right_ascending
  intro first second _ _ less more
  have swapped : compare first.1 second.1 = (compare second.1 first.1).swap :=
    Std.OrientedCmp.eq_swap
  rw [swapped, more] at less
  cases less

theorem Shelf.ascending (shelf : Shelf) : Ascending shelf.toList := shelf.ordered_keys_toList

theorem Shelf.toList_erase (shelf : Shelf) (id : MessageId) :
    (shelf.erase id).toList = shelf.toList.filter (·.1 != id) := by
  apply Ascending.ext (ascending _) (List.Pairwise.filter _ (ascending shelf))
  intro message
  rw [List.mem_filter, Std.TreeMap.mem_toList_iff_getElem?_eq_some,
    Std.TreeMap.mem_toList_iff_getElem?_eq_some, Std.TreeMap.getElem?_erase]
  by_cases same : message.1 = id
  · have equal : compare id id = .eq := Std.ReflCmp.compare_self
    rw [same, if_pos equal]
    simp only [reduceCtorEq, bne_self_eq_false, Bool.false_eq_true, and_false]
  · have different : compare id message.1 ≠ .eq :=
      fun equal => same (Std.LawfulEqCmp.eq_of_compare equal).symm
    simp only [if_neg different, bne_iff_ne, ne_eq, same, not_false_eq_true, and_true]

theorem Shelf.toList_insert_last (shelf : Shelf) {id : MessageId} (mail : Mail)
    (last : ∀ message ∈ shelf.toList, compare message.1 id = .lt) :
    (shelf.insert id mail).toList = shelf.toList ++ [(id, mail)] := by
  have ascending : Ascending (shelf.toList ++ [(id, mail)]) := by
    refine List.pairwise_append.mpr ⟨shelf.ascending, List.pairwise_singleton _ _, ?_⟩
    intro message member new here
    rw [List.mem_singleton.mp here]
    exact last message member
  apply Ascending.ext (Shelf.ascending _) ascending
  intro message
  rw [List.mem_append, List.mem_singleton, Std.TreeMap.mem_toList_iff_getElem?_eq_some,
    Std.TreeMap.mem_toList_iff_getElem?_eq_some, Std.TreeMap.getElem?_insert]
  by_cases same : message.1 = id
  · have equal : compare id message.1 = .eq := by rw [same]; exact Std.ReflCmp.compare_self
    have absent : shelf[message.1]? ≠ some message.2 := by
      intro stands
      have less := last message (Std.TreeMap.mem_toList_iff_getElem?_eq_some.mpr stands)
      have swapped : compare message.1 id = (compare id message.1).swap :=
        Std.OrientedCmp.eq_swap
      rw [swapped, equal] at less
      cases less
    rw [if_pos equal, or_iff_right absent, Prod.ext_iff, Option.some_inj, eq_comm (a := mail)]
    exact (and_iff_right same).symm
  · have different : compare id message.1 ≠ .eq :=
      fun equal => same (Std.LawfulEqCmp.eq_of_compare equal).symm
    rw [if_neg different, or_iff_left fun here => same (congrArg Prod.fst here)]
theorem Shelf.find_toList (shelf : Shelf) (id : MessageId) :
    (shelf.toList.find? (·.1 == id)).map (·.2) = shelf[id]? := by
  ext mail
  rw [Option.map_eq_some_iff]
  constructor
  · rintro ⟨⟨number, found⟩, first, rfl⟩
    have hit := List.find?_some first
    have same : number = id := beq_iff_eq.mp hit
    rw [← same]
    exact Std.TreeMap.mem_toList_iff_getElem?_eq_some.mp (List.mem_of_find?_eq_some first)
  · intro stands
    have present := Std.TreeMap.mem_toList_iff_getElem?_eq_some.mpr stands
    cases first : shelf.toList.find? (·.1 == id) with
    | none => exact absurd (beq_self_eq_true id) (List.find?_eq_none.mp first (id, mail) present)
    | some message =>
        have hit := List.find?_some first
        have same : message.1 = id := beq_iff_eq.mp hit
        have other := Std.TreeMap.mem_toList_iff_getElem?_eq_some.mp
          (show (message.1, message.2) ∈ shelf.toList from List.mem_of_find?_eq_some first)
        rw [same, stands] at other
        exact ⟨message, rfl, (Option.some.inj other).symm⟩

theorem Shelf.toList_ofList {messages : List (MessageId × Mail)}
    (ascending : Ascending messages) :
    (Std.TreeMap.ofList messages : Shelf).toList = messages := by
  have distinct : messages.Pairwise fun first second => ¬ compare first.1 second.1 = .eq :=
    List.Pairwise.imp (fun less same => absurd (less.symm.trans same) (by decide)) ascending
  have found {message : MessageId × Mail} (member : message ∈ messages) :
      (Std.TreeMap.ofList messages : Shelf)[message.1]? = some message.2 :=
    Std.TreeMap.getElem?_ofList_of_mem Std.ReflCmp.compare_self distinct member
  apply Ascending.ext (Shelf.ascending _) ascending
  intro message
  rw [Std.TreeMap.mem_toList_iff_getElem?_eq_some]
  refine ⟨fun stands => ?_, found⟩
  cases listed : (messages.map Prod.fst).contains message.1 with
  | false =>
      rw [Std.TreeMap.getElem?_ofList_of_contains_eq_false listed] at stands
      cases stands
  | true =>
      obtain ⟨other, member, same⟩ := List.mem_map.mp (List.contains_iff_mem.mp listed)
      have stands_too := found member
      rw [same, stands] at stands_too
      rw [← Prod.ext same (Option.some.inj stands_too).symm]
      exact member

def Mailboxes.shelves (mailboxes : Mailboxes) : Shelves :=
  fun user => Std.TreeMap.ofList (mailboxes.list user)

theorem Mailboxes.holds_shelves {mailboxes : Mailboxes}
    (ascending : ∀ user, Ascending (mailboxes.list user)) :
    mailboxes.Holds mailboxes.shelves :=
  fun user => (Shelf.toList_ofList (ascending user)).symm

namespace Mailboxes.Holds

variable {mailboxes : Mailboxes} {shelves : Shelves}

theorem get (holds : mailboxes.Holds shelves) (user : String) (id : MessageId) :
    mailboxes.get? user id = (shelves user)[id]? := by
  have messages : (mailboxes.box user).messages = (shelves user).toList := holds user
  rw [Mailboxes.get?, Mailbox.get?, messages, Shelf.find_toList]

theorem delete (holds : mailboxes.Holds shelves) (user : String) (id : MessageId) :
    (mailboxes.delete user id).1 = (shelves user).contains id ∧
      (mailboxes.delete user id).2.Holds
        (Function.update shelves user ((shelves user).erase id)) := by
  have messages : (mailboxes.box user).messages = (shelves user).toList := holds user
  constructor
  · change (mailboxes.get? user id).isSome = _
    rw [holds.get, Std.TreeMap.isSome_getElem?_eq_contains]
  · intro other
    change ((mailboxes.setBox user ((mailboxes.box user).delete id).2).box other).messages = _
    by_cases same : other = user
    · rw [same, box_setBox, Function.update_self, Shelf.toList_erase, ← messages]
      rfl
    · rw [box_setBox_other same, Function.update_of_ne same]
      exact holds other

end Mailboxes.Holds

end MailExchange
