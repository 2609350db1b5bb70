import MailExchange.Mail.Delivery
import MailExchange.Proofs.Mail.Mailbox
import MailExchange.Proofs.Text.SortedSet

namespace MailExchange

open Text (TextSet)

theorem Users.localUser_some {users : Users} {address user : String} :
    users.localUser? address = some user ↔ ∃ spelled,
      Address.parse? address = some ⟨user, spelled⟩ ∧
        Text.sameIgnoringAsciiCase spelled users.domain = true := by
  rw [localUser?]
  cases Address.parse? address with
  | none => simp only [reduceCtorEq, false_and, exists_false]
  | some parsed =>
      rcases parsed with ⟨name, domain⟩
      simp only [Option.some.injEq, Address.mk.injEq, and_assoc, exists_and_left, exists_eq_left']
      split
      · rename_i same
        simp only [Option.some.injEq, same, and_true]
      · rename_i different
        simp only [reduceCtorEq, different, Bool.false_eq_true, and_false]

/-- A mail is for a user of a domain, in whatever case its recipients spell the domain. -/
def Mail.Names (mail : Mail) (user domain : String) : Prop :=
  ∃ recipient ∈ mail.recipients, ∃ spelled, Address.parse? recipient = some ⟨user, spelled⟩ ∧
    Text.sameIgnoringAsciiCase spelled domain = true

def Mailboxes.coming (mailboxes : Mailboxes) (user : String) (mail : Mail) : MessageId × Mail :=
  ((mailboxes.box user).lastId + 1, mail)

theorem Mailboxes.add_list (mailboxes : Mailboxes) (user : String) (mail : Mail) :
    (mailboxes.add user mail).2.list user =
      mailboxes.list user ++ [mailboxes.coming user mail] := by
  rw [add, list, box_setBox]
  rfl

theorem Mailboxes.add_box_other {mailboxes : Mailboxes} {user other : String} (mail : Mail)
    (different : other ≠ user) : (mailboxes.add user mail).2.box other = mailboxes.box other :=
  box_setBox_other different

namespace Delivery

theorem store_all {users : List String} (nodup : users.Nodup) (mail : Mail) (mailboxes : Mailboxes)
    (user : String) :
    (users.foldl (store mail) mailboxes).list user =
      mailboxes.list user ++ if user ∈ users then [mailboxes.coming user mail] else [] := by
  induction users generalizing mailboxes with
  | nil => exact (List.append_nil _).symm
  | cons first users ih =>
      rw [List.nodup_cons] at nodup
      rw [List.foldl_cons, ih nodup.2]
      by_cases same : user = first
      · subst same
        rw [if_neg nodup.1, if_pos List.mem_cons_self, List.append_nil]
        exact mailboxes.add_list user mail
      · have box : (store mail mailboxes first).box user = mailboxes.box user :=
          Mailboxes.add_box_other mail same
        have member : user ∈ first :: users ↔ user ∈ users := by
          rw [List.mem_cons, or_iff_right same]
        simp only [Mailboxes.list, Mailboxes.coming, box, member]

theorem mem_addressees {delivery : Delivery} {mail : Mail} {user : String} :
    user ∈ delivery.addressees mail ↔
      delivery.users.has user = true ∧ mail.Names user delivery.users.domain := by
  rw [addressees, TextSet.mem_ofList, List.mem_filter, List.mem_filterMap, and_comm]
  simp only [Users.localUser_some, Mail.Names]

theorem deliver_list (delivery : Delivery) (mail : Mail) (user : String) :
    (delivery.deliver mail).mailboxes.list user = delivery.mailboxes.list user ++
      if user ∈ delivery.addressees mail then [delivery.mailboxes.coming user mail] else [] :=
  store_all (TextSet.ofList_sorted _).nodup mail delivery.mailboxes user

end Delivery

end MailExchange
