import MailExchange.Access.Client
import MailExchange.Proofs.Mail.Mailbox

namespace MailExchange.Access

open Client (Summary)
open Wire (Endpoint)

class MailStore (σ : Type) where
  list : σ → String → List (MessageId × Mail)
  get? : σ → String → MessageId → Option Mail
  delete : σ → String → MessageId → Bool × σ

instance : MailStore Mailboxes where
  list := Mailboxes.list
  get? := Mailboxes.get?
  delete := Mailboxes.delete

instance : MailStore Shelves where
  list shelves user := (shelves user).toList
  get? shelves user id := (shelves user)[id]?
  delete shelves user id :=
    ((shelves user).contains id, Function.update shelves user ((shelves user).erase id))

inductive Request where
  | login (user password : String)
  | list
  | view (id : MessageId)
  | delete (id : MessageId)
  | logout
  deriving DecidableEq, Repr

def Request.command : Request → Command
  | login user password => .login user password
  | list => .list
  | view id => .view id
  | delete id => .delete id
  | logout => .logout

inductive Answer where
  | done
  | listed (summaries : List Summary)
  | shown (mail : Mail)
  | secured (identity : String)
  deriving DecidableEq, Repr

structure Account (σ : Type) where
  user : Option String := none
  store : σ

def summary (message : MessageId × Mail) : Summary :=
  ⟨message.1, message.2.sender, message.2.subject⟩

namespace Account

variable {σ : Type}

def asUser (account : Account σ) (act : String → Except String Answer × Account σ) :
    Except String Answer × Account σ :=
  match account.user with
  | some user => act user
  | none => (.error "not logged in", account)

theorem asUser_some {account : Account σ} {user : String} (signed : account.user = some user)
    (act : String → Except String Answer × Account σ) : account.asUser act = act user := by
  rw [asUser, signed]

theorem asUser_none {account : Account σ} (nobody : account.user = none)
    (act : String → Except String Answer × Account σ) :
    account.asUser act = (.error "not logged in", account) := by
  rw [asUser, nobody]

variable [MailStore σ]

def login (users : Users) (account : Account σ) (user password : String) :
    Except String Answer × Account σ :=
  if account.user.isSome then (.error "already logged in", account)
  else if !users.has user then (.error "unknown user", account)
  else if !users.accepts user password then (.error "wrong password", account)
  else (.ok .done, { account with user := some user })

def view (account : Account σ) (user : String) (id : MessageId) : Except String Answer :=
  match MailStore.get? account.store user id with
  | some mail => .ok (.shown mail)
  | none => .error "unknown message id"

def delete (account : Account σ) (user : String) (id : MessageId) :
    Except String Answer × Account σ :=
  let (found, store) := MailStore.delete account.store user id
  (if found then .ok .done else .error "unknown message id", { account with store })

theorem view_absent {account : Account σ} {user : String} {id : MessageId}
    (absent : MailStore.get? account.store user id = none) :
    account.view user id = .error "unknown message id" := by
  rw [view, absent]

theorem delete_absent {account : Account σ} {user : String} {id : MessageId}
    (absent : (MailStore.delete account.store user id).1 = false) :
    account.delete user id = (.error "unknown message id",
      { account with store := (MailStore.delete account.store user id).2 }) := by
  simp only [delete, absent, Bool.false_eq_true, if_false]

def perform (users : Users) (account : Account σ) : Request → Except String Answer × Account σ
  | .login user password => account.login users user password
  | .list => account.asUser fun user =>
    (.ok (.listed ((MailStore.list account.store user).map summary)), account)
  | .view id => account.asUser fun user => (account.view user id, account)
  | .delete id => account.asUser fun user => account.delete user id
  | .logout => account.asUser fun _ => (.ok .done, { account with user := none })

end Account

namespace Answer

def summaryLine (summary : Summary) : String :=
  Text.decimal summary.id.toNat ++ " " ++ summary.sender ++ " " ++ summary.subject

def lines : Except String Answer → List String
  | .error text => ["error " ++ text]
  | .ok .done => ["ok"]
  | .ok (.listed []) => [noMail]
  | .ok (.listed summaries) => summaries.map summaryLine ++ ["ok"]
  | .ok (.shown mail) => mailLines mail ++ ["ok"]
  | .ok (.secured identity) => ["ok " ++ identity]

end Answer

namespace Session

def account (session : Session) : Account Mailboxes := ⟨session.user, session.site.mailboxes⟩

@[simp] theorem account_user (session : Session) : session.account.user = session.user := rfl

def turn (session : Session) (account : Account Mailboxes) : Session :=
  { session with
    user := account.user
    site.mailboxes := account.store
    endpoint :=
      if account.user = session.user then session.endpoint
      else session.endpoint.withUser account.user }

def settle (session : Session) (outcome : Except String Answer × Account Mailboxes) : Session :=
  (session.turn outcome.2).say (Answer.lines outcome.1)

theorem turn_account (session : Session) : session.turn session.account = session := by
  simp only [turn, account, if_true]

theorem settle_refused (session : Session) (text : String) :
    session.settle (.error text, session.account) = session.say ["error " ++ text] := by
  rw [settle, turn_account]
  rfl

theorem login_settle (session : Session) (user password : String) :
    session.login user password =
      session.settle (session.account.login session.site.users user password) := by
  rw [login, Account.login, account_user]
  by_cases signed : session.user.isSome = true
  · rw [if_pos signed, if_pos signed, settle_refused]
    rfl
  · rw [if_neg signed, if_neg signed]
    have nobody : session.user = none := Option.not_isSome_iff_eq_none.mp signed
    split
    · rw [settle_refused]
      rfl
    · split
      · rw [settle_refused]
        rfl
      · simp only [settle, turn, account, nobody, reduceCtorEq, if_false]
        rfl

theorem list_settle (session : Session) (user : String) :
    session.list user = session.settle
      (.ok (.listed ((session.site.mailboxes.list user).map summary)), session.account) := by
  rw [list, settle, turn_account]
  cases session.site.mailboxes.list user with
  | nil => rfl
  | cons message messages => simp only [List.map_cons, Answer.lines, List.map_map]; rfl

theorem view_settle (session : Session) (user : String) (id : MessageId) :
    session.view user id = session.settle (session.account.view user id, session.account) := by
  rw [view, settle, turn_account, Account.view]
  change _ = session.say (Answer.lines
    (match session.site.mailboxes.get? user id with | some mail => _ | none => _))
  cases session.site.mailboxes.get? user id with
  | none => rfl
  | some mail => rfl

theorem turn_store (session : Session) (store : Mailboxes) :
    session.turn { session.account with store } = { session with site.mailboxes := store } := by
  simp only [turn, account, if_true]

theorem delete_settle (session : Session) (user : String) (id : MessageId) :
    session.delete user id = session.settle (session.account.delete user id) := by
  have deleted : session.account.delete user id =
      (if (session.site.mailboxes.delete user id).1 then .ok .done
        else .error "unknown message id",
        { session.account with store := (session.site.mailboxes.delete user id).2 }) := rfl
  rw [delete, deleted, settle, turn_store]
  rcases session.site.mailboxes.delete user id with ⟨found, store⟩
  cases found with
  | true => rfl
  | false => rfl

theorem logout_settle {session : Session} {user : String} (signed : session.user = some user) :
    session.logout = session.settle (.ok .done, { session.account with user := none }) := by
  simp only [logout, settle, turn, account, signed, reduceCtorEq, if_false]
  rfl

theorem asUser_some {session : Session} {user : String} (signed : session.user = some user)
    (act : String → Session) : session.asUser act = act user := by
  rw [asUser, signed]

theorem asUser_none {session : Session} (nobody : session.user = none) (act : String → Session) :
    session.asUser act = session.say ["error not logged in"] := by
  rw [asUser, nobody]

theorem asUser_settle (session : Session) {act : String → Session}
    {perform : String → Except String Answer × Account Mailboxes}
    (same : ∀ user, session.user = some user → act user = session.settle (perform user)) :
    session.asUser act = session.settle (session.account.asUser perform) := by
  cases signed : session.user with
  | none =>
      rw [asUser_none signed, Account.asUser_none signed, settle_refused]
      rfl
  | some user => rw [asUser_some signed, Account.asUser_some signed, same user signed]

/-- A request does to a session what it does to the account, and says how it ended. -/
theorem execute_request (session : Session) (request : Request) :
    session.execute request.command =
      session.settle (session.account.perform session.site.users request) := by
  cases request with
  | login user password => exact session.login_settle user password
  | list => exact session.asUser_settle fun user _ => session.list_settle user
  | view id => exact session.asUser_settle fun user _ => session.view_settle user id
  | delete id => exact session.asUser_settle fun user _ => session.delete_settle user id
  | logout => exact session.asUser_settle fun _ signed => logout_settle signed

end Session

end MailExchange.Access
