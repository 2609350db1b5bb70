import MailExchange.Proofs.Mail.Mailbox
import Mathlib.Data.List.Induction

namespace MailExchange.Mailboxes

inductive Request where
  | add (user : String) (mail : Mail)
  | list (user : String)
  | get (user : String) (id : MessageId)
  | delete (user : String) (id : MessageId)
  deriving DecidableEq

inductive Answer where
  | added (id : MessageId)
  | listed (messages : List (MessageId × Mail))
  | got (found : Option Mail)
  | deleted (found : Bool)
  deriving DecidableEq

def Request.user : Request → String
  | .add user _ | .list user | .get user _ | .delete user _ => user

def perform (mailboxes : Mailboxes) : Request → Answer × Mailboxes
  | .add user mail =>
    let (id, after) := mailboxes.add user mail
    (.added id, after)
  | .list user => (.listed (mailboxes.list user), mailboxes)
  | .get user id => (.got (mailboxes.get? user id), mailboxes)
  | .delete user id =>
    let (found, after) := mailboxes.delete user id
    (.deleted found, after)

def performAll (mailboxes : Mailboxes) : List Request → List Answer × Mailboxes
  | [] => ([], mailboxes)
  | request :: requests =>
    let (answer, between) := mailboxes.perform request
    let (answers, after) := between.performAll requests
    (answer :: answers, after)

/-- The mails that some requests add for a user. -/
def addedFor (user : String) (requests : List Request) : List Mail :=
  requests.filterMap fun
    | .add name mail => if name = user then some mail else none
    | _ => none

/-- A mail that was added under this id, as so many were before it, and not deleted since. -/
def Kept (past : List Request) (user : String) (id : MessageId) (mail : Mail) : Prop :=
  ∃ before after, past = before ++ .add user mail :: after ∧
    id.toNat = (addedFor user before).length + 1 ∧ .delete user id ∉ after

def askedFor (user : String) (requests : List Request) : List Request :=
  requests.filter fun request => decide (request.user = user)

def answersFor (user : String) : List Request → List Answer → List Answer
  | request :: requests, answer :: answers =>
    if request.user = user then answer :: answersFor user requests answers
    else answersFor user requests answers
  | _, _ => []

/-- The right answer to a request, by what was asked before. -/
def Right (past : List Request) : Request → Answer → Prop
  | .add user _, .added id => id.toNat = (addedFor user past).length + 1
  | .list user, .listed messages =>
    Ascending messages ∧ ∀ id mail, (id, mail) ∈ messages ↔ Kept past user id mail
  | .get user id, .got found => ∀ mail, found = some mail ↔ Kept past user id mail
  | .delete user id, .deleted found => found = true ↔ ∃ mail, Kept past user id mail
  | _, _ => False

section Histories

variable {past before after : List Request} {request : Request} {user : String} {id : MessageId}
  {mail : Mail}

theorem addedFor_append (user : String) (first second : List Request) :
    addedFor user (first ++ second) = addedFor user first ++ addedFor user second :=
  List.filterMap_append

theorem addedFor_add (user : String) (mail : Mail) : addedFor user [.add user mail] = [mail] := by
  simp only [addedFor, List.filterMap_cons, if_true, List.filterMap_nil]

theorem addedFor_none (added : ∀ mail, request ≠ .add user mail) :
    addedFor user [request] = [] := by
  cases request with
  | add name mail =>
      have other : name ≠ user := by
        rintro rfl
        exact added mail rfl
      exact List.filterMap_cons_none (if_neg other)
  | _ => rfl

theorem addedFor_le_append (user : String) (first second : List Request) :
    (addedFor user first).length ≤ (addedFor user (first ++ second)).length := by
  rw [addedFor_append, List.length_append]
  exact Nat.le_add_right _ _

theorem kept_snoc : Kept (past ++ [request]) user id mail ↔
    Kept past user id mail ∧ request ≠ .delete user id ∨
      request = .add user mail ∧ id.toNat = (addedFor user past).length + 1 := by
  constructor
  · rintro ⟨before, after, whole, counted, kept⟩
    rcases List.eq_nil_or_concat after with rfl | ⟨after, last, rfl⟩
    · obtain ⟨rfl, same⟩ := List.append_inj' whole rfl
      exact Or.inr ⟨List.singleton_inj.mp same, counted⟩
    · rw [List.concat_eq_append, ← List.cons_append, ← List.append_assoc] at whole
      obtain ⟨rfl, same⟩ := List.append_inj' whole rfl
      rw [List.concat_eq_append, List.mem_append, not_or, List.mem_singleton] at kept
      refine Or.inl ⟨⟨before, after, rfl, counted, kept.1⟩, ?_⟩
      rw [List.singleton_inj.mp same]
      exact Ne.symm kept.2
  · rintro (⟨⟨before, after, rfl, counted, kept⟩, other⟩ | ⟨rfl, counted⟩)
    · refine ⟨before, after ++ [request], by rw [List.append_assoc, List.cons_append], counted, ?_⟩
      rw [List.mem_append, not_or, List.mem_singleton]
      exact ⟨kept, Ne.symm other⟩
    · exact ⟨past, [], rfl, counted, List.not_mem_nil⟩

theorem Kept.id_le (kept : Kept past user id mail) :
    id.toNat ≤ (addedFor user past).length := by
  obtain ⟨before, after, rfl, counted, _⟩ := kept
  calc id.toNat
    _ = (addedFor user (before ++ [.add user mail])).length := by
        rw [counted, addedFor_append, addedFor_add, List.length_append, List.length_singleton]
    _ ≤ (addedFor user (before ++ [.add user mail] ++ after)).length :=
        addedFor_le_append user _ after
    _ = (addedFor user (before ++ .add user mail :: after)).length := by
        rw [List.append_assoc, List.singleton_append]

end Histories

theorem get_ascending {mailbox : Mailbox} (ascending : Ascending mailbox.messages)
    {id : MessageId} {mail : Mail} :
    mailbox.get? id = some mail ↔ (id, mail) ∈ mailbox.messages := by
  rw [Mailbox.get?, ← Shelf.toList_ofList ascending, Shelf.find_toList,
    Std.TreeMap.mem_toList_iff_getElem?_eq_some]

/-- A mailbox as some requests have left it. -/
structure Straight (past : List Request) (user : String) (mailbox : Mailbox) : Prop where
  last : mailbox.lastId.toNat = (addedFor user past).length
  ascending : Ascending mailbox.messages
  kept : ∀ id mail, (id, mail) ∈ mailbox.messages ↔ Kept past user id mail

namespace Straight

variable {past : List Request} {request : Request} {user : String} {mailbox : Mailbox}

theorem nothing (user : String) : Straight [] user {} where
  last := rfl
  ascending := List.Pairwise.nil
  kept id mail := by
    refine iff_of_false List.not_mem_nil ?_
    rintro ⟨before, after, whole, _⟩
    exact absurd whole.symm (List.append_ne_nil_of_right_ne_nil before (List.cons_ne_nil _ after))

theorem unchanged (straight : Straight past user mailbox)
    (added : ∀ mail, request ≠ .add user mail) (deleted : ∀ id, request ≠ .delete user id) :
    Straight (past ++ [request]) user mailbox where
  last := by rw [straight.last, addedFor_append, addedFor_none added, List.append_nil]
  ascending := straight.ascending
  kept id mail := by
    rw [straight.kept, kept_snoc, and_iff_left (deleted id),
      or_iff_left fun more => added mail more.1]

theorem next_id (straight : Straight past user mailbox)
    (few : (addedFor user past).length + 1 < UInt64.size) (mail : Mail) :
    (mailbox.add mail).1.toNat = (addedFor user past).length + 1 := by
  change (mailbox.lastId + 1).toNat = _
  rw [UInt64.toNat_add, straight.last]
  exact Nat.mod_eq_of_lt few

theorem below (straight : Straight past user mailbox)
    (few : (addedFor user past).length + 1 < UInt64.size) (mail : Mail) :
    ∀ message ∈ mailbox.messages, compare message.1 (mailbox.add mail).1 = .lt := by
  intro message member
  have less : message.1.toNat < (mailbox.add mail).1.toNat := by
    rw [straight.next_id few mail]
    exact Nat.lt_succ_of_le ((straight.kept message.1 message.2).mp member).id_le
  exact Std.compare_eq_lt.mpr (UInt64.lt_iff_toNat_lt.mpr less)

theorem add (straight : Straight past user mailbox)
    (few : (addedFor user past).length + 1 < UInt64.size) (mail : Mail) :
    Straight (past ++ [.add user mail]) user (mailbox.add mail).2 where
  last := by
    rw [addedFor_append, addedFor_add, List.length_append, List.length_singleton,
      ← straight.next_id few mail]
    rfl
  ascending := by
    refine List.pairwise_append.mpr ⟨straight.ascending, List.pairwise_singleton _ _, ?_⟩
    intro message member new here
    rw [List.mem_singleton.mp here]
    exact straight.below few mail message member
  kept id other := by
    rw [kept_snoc, ← straight.next_id few mail, ← straight.kept]
    have same : (mailbox.add mail).2.messages =
        mailbox.messages ++ [((mailbox.add mail).1, mail)] := rfl
    rw [same, List.mem_append, List.mem_singleton, Prod.mk.injEq, Request.add.injEq,
      UInt64.toNat_inj]
    simp only [ne_eq, reduceCtorEq, not_false_eq_true, and_true, true_and]
    rw [and_comm (a := id = _), eq_comm (a := other)]

theorem add_inserted (straight : Straight past user mailbox)
    (few : (addedFor user past).length + 1 < UInt64.size) (mail : Mail) :
    (mailbox.add mail).2.messages =
      ((Std.TreeMap.ofList mailbox.messages : Shelf).insert (mailbox.add mail).1 mail).toList := by
  have listed := Shelf.toList_ofList straight.ascending
  rw [Shelf.toList_insert_last _ _ (by rw [listed]; exact straight.below few mail), listed]
  rfl

theorem delete (straight : Straight past user mailbox) (id : MessageId) :
    Straight (past ++ [.delete user id]) user (mailbox.delete id).2 where
  last := by
    rw [addedFor_append]
    exact straight.last.trans (congrArg List.length (List.append_nil _).symm)
  ascending := List.Pairwise.filter _ straight.ascending
  kept number mail := by
    rw [kept_snoc, ← straight.kept]
    change _ ∈ mailbox.messages.filter (·.1 != id) ↔ _
    rw [List.mem_filter, bne_iff_ne]
    simp only [ne_eq, Request.delete.injEq, true_and, reduceCtorEq, false_and, or_false, eq_comm]

end Straight

section Running

variable {past : List Request} {request : Request} {user : String} {mailboxes : Mailboxes}

theorem one_more {mail : Mail} {bound : Nat}
    (few : (addedFor user (past ++ [.add user mail])).length < bound) :
    (addedFor user past).length + 1 < bound := by
  rwa [addedFor_append, addedFor_add, List.length_append] at few

theorem perform_box_other (other : request.user ≠ user) :
    (mailboxes.perform request).2.box user = mailboxes.box user := by
  cases request with
  | add name mail => exact box_setBox_other (Ne.symm other)
  | delete name id => exact box_setBox_other (Ne.symm other)
  | _ => rfl

theorem perform_straight (straight : Straight past user (mailboxes.box user))
    (few : (addedFor user (past ++ [request])).length < UInt64.size) :
    Straight (past ++ [request]) user ((mailboxes.perform request).2.box user) := by
  by_cases own : request.user = user
  · cases request with
    | add name mail =>
        cases own
        change Straight _ name ((mailboxes.setBox name _).box name)
        rw [box_setBox]
        exact straight.add (one_more few) mail
    | delete name id =>
        cases own
        change Straight _ name ((mailboxes.setBox name _).box name)
        rw [box_setBox]
        exact straight.delete id
    | _ => exact straight.unchanged (fun _ => nofun) (fun _ => nofun)
  · rw [perform_box_other own]
    refine straight.unchanged ?_ ?_ <;> rintro _ rfl <;> exact own rfl

theorem perform_right (straight : Straight past request.user (mailboxes.box request.user))
    (few : (addedFor request.user (past ++ [request])).length < UInt64.size) :
    Right past request (mailboxes.perform request).1 := by
  have found (id : MessageId) (mail : Mail) :
      mailboxes.get? request.user id = some mail ↔ Kept past request.user id mail := by
    rw [← straight.kept, ← get_ascending straight.ascending]
    rfl
  cases request with
  | add user mail => exact straight.next_id (one_more few) mail
  | list user => exact ⟨straight.ascending, straight.kept⟩
  | get user id => exact found id
  | delete user id =>
      change (mailboxes.get? user id).isSome = true ↔ _
      rw [Option.isSome_iff_exists]
      exact exists_congr (found id)

theorem performAll_append (mailboxes : Mailboxes) (first second : List Request) :
    mailboxes.performAll (first ++ second) =
      ((mailboxes.performAll first).1 ++ ((mailboxes.performAll first).2.performAll second).1,
        ((mailboxes.performAll first).2.performAll second).2) := by
  induction first generalizing mailboxes with
  | nil => rfl
  | cons request first ih => simp only [List.cons_append, performAll, ih]

theorem performAll_length (mailboxes : Mailboxes) (requests : List Request) :
    (mailboxes.performAll requests).1.length = requests.length := by
  induction requests generalizing mailboxes with
  | nil => rfl
  | cons request requests ih => simp only [performAll, List.length_cons, ih]

theorem performAll_straight (past : List Request)
    (few : (addedFor user past).length < UInt64.size) :
    Straight past user ((performAll {} past).2.box user) := by
  induction past using List.reverseRecOn with
  | nil => exact Straight.nothing user
  | append_singleton past request ih =>
      rw [performAll_append]
      exact perform_straight (ih (Nat.lt_of_le_of_lt (addedFor_le_append user past [request]) few)) few

theorem perform_same {other : Mailboxes} (same : mailboxes.box request.user = other.box request.user) :
    (mailboxes.perform request).1 = (other.perform request).1 ∧
      (mailboxes.perform request).2.box request.user =
        (other.perform request).2.box request.user := by
  cases request with
  | add user mail =>
      have box : mailboxes.box user = other.box user := same
      simp only [perform, Mailboxes.add, Request.user, box, box_setBox, and_self]
  | list user =>
      exact ⟨congrArg (fun box : Mailbox => Answer.listed box.messages) same, same⟩
  | get user id => exact ⟨congrArg (fun box : Mailbox => Answer.got (box.get? id)) same, same⟩
  | delete user id =>
      have box : mailboxes.box user = other.box user := same
      simp only [perform, Mailboxes.delete, Request.user, box, box_setBox, and_self]

/-- The answers to one user are those that they would get if nobody else asked for anything. -/
theorem performAll_alone {other : Mailboxes} (same : mailboxes.box user = other.box user)
    (requests : List Request) :
    answersFor user requests (mailboxes.performAll requests).1 =
      (other.performAll (askedFor user requests)).1 := by
  induction requests generalizing mailboxes other with
  | nil => rfl
  | cons request requests ih =>
      by_cases own : request.user = user
      · have asked : askedFor user (request :: requests) = request :: askedFor user requests :=
          List.filter_cons_of_pos (decide_eq_true own)
        cases own
        obtain ⟨answer, box⟩ := perform_same same
        simp only [asked, performAll, answersFor, if_true, answer, ih box]
      · have asked : askedFor user (request :: requests) = askedFor user requests :=
          List.filter_cons_of_neg (mt of_decide_eq_true own)
        have box : (mailboxes.perform request).2.box user = other.box user :=
          (perform_box_other own).trans same
        simp only [asked, performAll, answersFor, if_neg own, ih box]

end Running

/-- Ids and mailboxes stay straight over any requests that do not exhaust the ids: each is answered as
the history before it asks, and a user is answered as if there were no others. -/
theorem history_answered (requests : List Request)
    (few : ∀ user, (addedFor user requests).length < UInt64.size) :
    let answers := (performAll {} requests).1
    answers.length = requests.length ∧
    (∀ past request future, requests = past ++ request :: future →
      ∃ answer, answers[past.length]? = some answer ∧ Right past request answer) ∧
    ∀ user, answersFor user requests answers = (performAll {} (askedFor user requests)).1 := by
  intro answers
  refine ⟨performAll_length {} requests, ?_, fun user => performAll_alone rfl requests⟩
  rintro past request future rfl
  have fewer : (addedFor request.user (past ++ [request])).length < UInt64.size := by
    have all := few request.user
    rw [← List.singleton_append, ← List.append_assoc] at all
    exact Nat.lt_of_le_of_lt (addedFor_le_append _ _ future) all
  have straight := performAll_straight past
    (Nat.lt_of_le_of_lt (addedFor_le_append request.user past [request]) fewer)
  refine ⟨((performAll {} past).2.perform request).1, ?_, perform_right straight fewer⟩
  change (performAll {} (past ++ request :: future)).1[past.length]? = _
  have at_end : past.length = (performAll {} past).1.length := (performAll_length {} past).symm
  rw [performAll_append, at_end, List.getElem?_append_right (Nat.le_refl _), Nat.sub_self]
  rfl

def greeting : Mail := ⟨"zim@irk.planet", ["dib@earth.planet"], "doom", "", none⟩

def reply : Mail := ⟨"gaz@earth.planet", ["dib@earth.planet"], "whatever", "", none⟩

def dibsHistory : List Request :=
  [.add "dib" greeting, .add "gaz" greeting, .delete "dib" 1, .add "dib" reply, .get "dib" 1,
    .list "dib"]

theorem dibs_history_answered :
    (∀ user, (addedFor user dibsHistory).length < UInt64.size) ∧
    (performAll {} dibsHistory).1 =
      [.added 1, .added 1, .deleted true, .added 2, .got none, .listed [(2, reply)]] ∧
    ∀ id mail, (id, mail) ∈ [((2 : MessageId), reply)] ↔
      Kept (dibsHistory.take 5) "dib" id mail := by
  have few (user : String) : (addedFor user dibsHistory).length < UInt64.size :=
    Nat.lt_of_le_of_lt (List.length_filterMap_le _ dibsHistory) (by decide)
  have answers : (performAll {} dibsHistory).1 =
      [.added 1, .added 1, .deleted true, .added 2, .got none, .listed [(2, reply)]] := by
    decide +kernel
  obtain ⟨_, right, _⟩ := history_answered dibsHistory few
  obtain ⟨answer, given, listed⟩ := right (dibsHistory.take 5) (.list "dib") [] rfl
  rw [answers] at given
  cases given
  exact ⟨few, answers, listed.2⟩

end MailExchange.Mailboxes
