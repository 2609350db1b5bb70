import MailExchange.Proofs.Mail.History
import MailExchange.Proofs.Mail.Local

namespace MailExchange

namespace Mailboxes

theorem perform_lastId (mailboxes : Mailboxes) (request : Request) (user : String) :
    ((mailboxes.perform request).2.box user).lastId =
      (mailboxes.box user).lastId + UInt64.ofNat (addedFor user [request]).length := by
  by_cases own : request.user = user
  · subst own
    cases request with
    | add user mail =>
        change ((mailboxes.setBox user _).box user).lastId = _
        rw [box_setBox, Request.user, addedFor_add]
        rfl
    | delete user id =>
        change ((mailboxes.setBox user _).box user).lastId = _
        rw [box_setBox]
        exact (UInt64.add_zero _).symm
    | _ => exact (UInt64.add_zero _).symm
  · have added : addedFor user [request] = [] := by
      apply addedFor_none
      rintro mail rfl
      exact own rfl
    rw [perform_box_other own, added]
    exact (UInt64.add_zero _).symm

theorem performAll_lastId (past : List Request) (user : String) :
    ((performAll {} past).2.box user).lastId = UInt64.ofNat (addedFor user past).length := by
  induction past using List.reverseRecOn with
  | nil => rfl
  | append_singleton past request ih =>
      rw [performAll_append, addedFor_append, List.length_append, UInt64.ofNat_add, ← ih]
      exact perform_lastId _ request user

theorem performAll_coming (past : List Request) (user : String) (mail : Mail) :
    (performAll {} past).2.coming user mail =
      (UInt64.ofNat ((addedFor user past).length + 1), mail) := by
  rw [coming, performAll_lastId, UInt64.ofNat_add]
  rfl

/-- Within the bound on the ids, what comes is appended as a map of the ids would put it in. -/
theorem coming_inserted {past : List Request} {user : String}
    (few : (addedFor user past).length + 1 < UInt64.size) (mail : Mail) :
    (performAll {} past).2.list user ++ [(performAll {} past).2.coming user mail] =
      (((performAll {} past).2.shelves user).insert
        ((performAll {} past).2.coming user mail).1 mail).toList :=
  (performAll_straight past (Nat.lt_of_succ_lt few)).add_inserted few mail

end Mailboxes

def Mail.Reaches (mail : Mail) (users : Users) (user : String) : Prop :=
  users.has user = true ∧
    ∃ recipient ∈ mail.recipients, users.localUser? recipient = some user

namespace Delivery

variable {delivery : Delivery} {mail : Mail} {user : String}

theorem mem_addressees_iff :
    user ∈ delivery.addressees mail ↔ mail.Reaches delivery.users user := by
  simp only [mem_addressees, Mail.Names, Mail.Reaches, Users.localUser_some]

theorem store_box_other {users : List String} (absent : user ∉ users) (mail : Mail)
    (mailboxes : Mailboxes) : (users.foldl (store mail) mailboxes).box user = mailboxes.box user := by
  induction users generalizing mailboxes with
  | nil => rfl
  | cons first users ih =>
      rw [List.mem_cons, not_or] at absent
      rw [List.foldl_cons, ih absent.2]
      exact Mailboxes.add_box_other mail absent.1

theorem deliver_reached (reached : mail.Reaches delivery.users user) :
    (delivery.deliver mail).mailboxes.list user =
      delivery.mailboxes.list user ++ [delivery.mailboxes.coming user mail] := by
  rw [deliver_list, if_pos (mem_addressees_iff.mpr reached)]

theorem deliver_unreached (unreached : ¬mail.Reaches delivery.users user) :
    (delivery.deliver mail).mailboxes.box user = delivery.mailboxes.box user :=
  store_box_other (mt mem_addressees_iff.mp unreached) mail delivery.mailboxes

theorem accepts_iff {recipient : String} (member : recipient ∈ mail.recipients)
    (own : delivery.users.localUser? recipient = some user) :
    delivery.accepts recipient = true ↔ mail.Reaches delivery.users user := by
  rw [accepts_local own]
  exact ⟨fun known => ⟨known, recipient, member, own⟩, fun reached => reached.1⟩

/-- A delivery never fails. Whoever exists and is a recipient, in one spelling or in many, gets one copy
as their last message, and every other mailbox is what it was. As long as fewer than `UInt64.size` mails
were added for a user, the copy is numbered by their count, and stands where a map of the ids has it. Of
the recipients in the domain, those who are accepted get their copy and the others get nothing. -/
theorem copies_stored (users : Users) (past : List Mailboxes.Request) (mail : Mail) :
    let before : Delivery := ⟨users, (Mailboxes.performAll {} past).2⟩
    let after := (Consumer.consume before mail).2
    let copy (user : String) : MessageId × Mail :=
      (UInt64.ofNat ((Mailboxes.addedFor user past).length + 1), mail)
    (Consumer.consume before mail).1 = .ok () ∧ after.users = users ∧
    (∀ user, mail.Reaches users user →
      after.mailboxes.list user = before.mailboxes.list user ++ [copy user]) ∧
    (∀ user, mail.Reaches users user →
      (Mailboxes.addedFor user past).length + 1 < UInt64.size →
      (copy user).1.toNat = (Mailboxes.addedFor user past).length + 1 ∧
        after.mailboxes.list user =
          ((before.mailboxes.shelves user).insert (copy user).1 mail).toList) ∧
    (∀ user, ¬mail.Reaches users user →
      after.mailboxes.list user = before.mailboxes.list user ∧
        after.mailboxes.box user = before.mailboxes.box user) ∧
    ∀ recipient ∈ mail.recipients, ∀ user spelled,
      Address.parse? recipient = some ⟨user, spelled⟩ →
      Text.sameIgnoringAsciiCase spelled users.domain = true →
      (Consumer.accepts before recipient = true →
        after.mailboxes.list user = before.mailboxes.list user ++ [copy user]) ∧
      (Consumer.accepts before recipient = false →
        after.mailboxes.list user = before.mailboxes.list user) := by
  intro before after copy
  have stored (user : String) (reached : mail.Reaches users user) :
      after.mailboxes.list user = before.mailboxes.list user ++ [copy user] := by
    have coming : copy user = before.mailboxes.coming user mail :=
      (Mailboxes.performAll_coming past user mail).symm
    rw [coming]
    exact deliver_reached reached
  have left (user : String) (unreached : ¬mail.Reaches users user) :
      after.mailboxes.list user = before.mailboxes.list user ∧
        after.mailboxes.box user = before.mailboxes.box user := by
    have box : after.mailboxes.box user = before.mailboxes.box user := deliver_unreached unreached
    exact ⟨congrArg Mailbox.messages box, box⟩
  have inserted (user : String) (reached : mail.Reaches users user)
      (few : (Mailboxes.addedFor user past).length + 1 < UInt64.size) :
      (copy user).1.toNat = (Mailboxes.addedFor user past).length + 1 ∧
        after.mailboxes.list user =
          ((before.mailboxes.shelves user).insert (copy user).1 mail).toList := by
    refine ⟨UInt64.toNat_ofNat_of_lt' few, ?_⟩
    have put := Mailboxes.coming_inserted few mail
    rw [Mailboxes.performAll_coming] at put
    exact (stored user reached).trans put
  refine ⟨rfl, rfl, stored, inserted, left, ?_⟩
  intro recipient member user spelled parsed same
  have own : before.users.localUser? recipient = some user :=
    Users.localUser_some.mpr ⟨spelled, parsed, same⟩
  constructor
  · intro accepted
    exact stored user ((accepts_iff member own).mp accepted)
  · intro refused
    refine (left user ?_).1
    rw [← accepts_iff member own, Bool.not_eq_true]
    exact refused

theorem invasion_stored :
    let users : Users := .ofDomain "earth.planet" [("dib", "hunter2"), ("gaz", "gameslave")]
    let past : List Mailboxes.Request := [.add "dib" Mailboxes.greeting, .delete "dib" 1]
    let mail : Mail := ⟨"zim@irk.planet",
      ["dib@earth.planet", "tak@irk.planet", "dib@EARTH.planet", "zim@earth.planet"],
      "Doom", "Your planet is doomed", none⟩
    let after := (Consumer.consume (⟨users, (Mailboxes.performAll {} past).2⟩ : Delivery) mail).2
    after.mailboxes.list "dib" = [(2, mail)] ∧ after.mailboxes.list "gaz" = [] ∧
      after.mailboxes.list "zim" = [] := by
  intro users past mail after
  obtain ⟨_, _, stored, _, left, _⟩ := copies_stored users past mail
  have dib : mail.Reaches users "dib" := by
    refine ⟨by decide, "dib@earth.planet", List.mem_cons_self, by decide +kernel⟩
  have gaz : ¬mail.Reaches users "gaz" := by
    rintro ⟨_, named⟩
    revert named
    decide +kernel
  have zim : ¬mail.Reaches users "zim" := by
    rintro ⟨known, _⟩
    revert known
    decide
  exact ⟨(stored "dib" dib).trans (by decide +kernel), (left "gaz" gaz).1, (left "zim" zim).1⟩

end Delivery

end MailExchange
