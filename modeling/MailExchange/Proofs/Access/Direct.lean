import MailExchange.Proofs.Access.Serving
import MailExchange.Proofs.Access.Turns

/-!
What a client gets from a server is what it would get from direct calls on an account whose mail
stands on shelves. One call agrees with one direct call, and leaves a session that serves the account
which the direct call has left.
-/

namespace MailExchange

open Text (Bytes)
open Wire (Carriable Channel Endpoint Linked Live Peer Talk)

def Shelves.Readable (shelves : Shelves) : Prop :=
  ∀ (user : String) (id : MessageId) (mail : Mail),
    (shelves user)[id]? = some mail → Access.Client.Readable mail

theorem Mailboxes.Holds.readable {mailboxes : Mailboxes} {shelves : Shelves}
    (holds : mailboxes.Holds shelves)
    (listed : ∀ user, ∀ message ∈ mailboxes.list user, Access.Client.Readable message.2) :
    shelves.Readable := by
  intro user id mail found
  apply listed user (id, mail)
  rw [holds user]
  exact Std.TreeMap.mem_toList_iff_getElem?_eq_some.mpr found

namespace Access

inductive Call where
  | request (request : Request)
  | startSecure (random : Client.Randomness)

def Call.command : Call → Command
  | request asked => asked.command
  | startSecure _ => .startSecure

/-- An account that is called upon without a connection, and whether that is said to be secure. -/
structure Direct where
  account : Account Shelves
  secure : Bool := false

namespace Direct

def call (users : Users) (identity : String) (direct : Direct) :
    Call → Except String Answer × Direct
  | .request asked =>
    let (outcome, account) := direct.account.perform users asked
    (outcome, { direct with account })
  | .startSecure _ =>
    if direct.secure then (.error "already secure", direct)
    else (.ok (.secured identity), { direct with secure := true })

def calls (users : Users) (identity : String) :
    Direct → List Call → List (Except String Answer) × Direct
  | direct, [] => ([], direct)
  | direct, call :: later =>
    let (outcome, direct) := direct.call users identity call
    let (outcomes, direct) := direct.calls users identity later
    (outcome :: outcomes, direct)

end Direct

namespace Client

variable {π : Type} [Peer π]

def call (files : Files.Tree) (keys : Keys.Store) (channel : Channel π) :
    Call → Except Error Answer × Keys.Store × Channel π
  | .request asked =>
    let (answer, channel) := (perform asked).run channel
    (answer, keys, channel)
  | .startSecure random =>
    let ((identity, keys), channel) := startSecure random files keys channel
    (identity.map .secured, keys, channel)

def calls (files : Files.Tree) :
    Keys.Store → Channel π → List Call → List (Except Error Answer) × Channel π
  | _, channel, [] => ([], channel)
  | keys, channel, made :: later =>
    let (answer, keys, channel) := call files keys channel made
    let (answers, channel) := calls files keys channel later
    (answer :: answers, channel)

end Client

/-- The client has a key to lock an offer with, and the server the one that opens it. -/
def Agreed (files : Files.Tree) (keys : Keys.Store) (site : Site) (random : Client.Randomness) :
    Prop :=
  ∃ lock key offer, (keys.publicKey files site.identity).1 = .ok lock ∧
    (site.keys.privateKey site.files site.identity).1 = .ok key ∧
    lock.encrypt random.seed (Text.utf8 random.secrets.offer) = .ok offer ∧
    key.decrypt offer = .ok (Text.utf8 random.secrets.offer) ∧
    Carriable false (Base64.encode offer)

/-- All lines of these calls can be carried, and where a session in clear is to be made secure, the
keys agree. -/
def Possible (files : Files.Tree) (keys : Keys.Store) (site : Site) : Direct → List Call → Prop
  | _, [] => True
  | direct, call :: later =>
    call.command.WellFormed ∧
    (∀ line ∈ call.command.line :: Answer.lines (direct.call site.users site.identity call).1,
      Carriable direct.secure line) ∧
    (∀ random, call = .startSecure random → direct.secure = false → Agreed files keys site random) ∧
    Possible files keys site (direct.call site.users site.identity call).2 later

section Accounts

/-- The same user, and the mail that stands on the shelves. -/
structure Account.Mirrors (account : Account Mailboxes) (direct : Account Shelves) : Prop where
  user : account.user = direct.user
  holds : account.store.Holds direct.store

variable {account : Account Mailboxes} {direct : Account Shelves}

namespace Account.Mirrors

theorem asUser (mirrors : account.Mirrors direct)
    {act : String → Except String Answer × Account Mailboxes}
    {other : String → Except String Answer × Account Shelves}
    (same : ∀ user, (act user).1 = (other user).1 ∧ (act user).2.Mirrors (other user).2) :
    (account.asUser act).1 = (direct.asUser other).1 ∧
      (account.asUser act).2.Mirrors (direct.asUser other).2 := by
  cases signed : direct.user with
  | none =>
      rw [Account.asUser_none signed, Account.asUser_none (mirrors.user.trans signed)]
      exact ⟨rfl, mirrors⟩
  | some user =>
      rw [Account.asUser_some signed, Account.asUser_some (mirrors.user.trans signed)]
      exact same user

theorem login (mirrors : account.Mirrors direct) (users : Users) (user password : String) :
    (account.login users user password).1 = (direct.login users user password).1 ∧
      (account.login users user password).2.Mirrors (direct.login users user password).2 := by
  rw [Account.login, Account.login, mirrors.user]
  split
  · exact ⟨rfl, mirrors⟩
  · split
    · exact ⟨rfl, mirrors⟩
    · split
      · exact ⟨rfl, mirrors⟩
      · exact ⟨rfl, rfl, mirrors.holds⟩

theorem view (mirrors : account.Mirrors direct) (user : String) (id : MessageId) :
    account.view user id = direct.view user id := by
  have found : MailStore.get? account.store user id = MailStore.get? direct.store user id :=
    mirrors.holds.get user id
  rw [Account.view, Account.view, found]

theorem delete (mirrors : account.Mirrors direct) (user : String) (id : MessageId) :
    (account.delete user id).1 = (direct.delete user id).1 ∧
      (account.delete user id).2.Mirrors (direct.delete user id).2 := by
  obtain ⟨found, holds⟩ := mirrors.holds.delete user id
  refine ⟨?_, mirrors.user, holds⟩
  change (if (account.store.delete user id).1 = true then _ else _) = _
  rw [found]
  rfl

theorem perform (mirrors : account.Mirrors direct) (users : Users) (request : Request) :
    (account.perform users request).1 = (direct.perform users request).1 ∧
      (account.perform users request).2.Mirrors (direct.perform users request).2 := by
  cases request with
  | login user password => exact mirrors.login users user password
  | list =>
      apply mirrors.asUser
      intro user
      have listed : MailStore.list account.store user = MailStore.list direct.store user :=
        mirrors.holds user
      rw [listed]
      exact ⟨rfl, mirrors⟩
  | view id => exact mirrors.asUser fun user => ⟨mirrors.view user id, mirrors⟩
  | delete id => exact mirrors.asUser fun user => mirrors.delete user id
  | logout => exact mirrors.asUser fun _ => ⟨rfl, rfl, mirrors.holds⟩

end Account.Mirrors

theorem Account.delete_readable (readable : direct.store.Readable) (user : String)
    (id : MessageId) : (direct.delete user id).2.store.Readable := by
  intro other number mail found
  change (Function.update direct.store user ((direct.store user).erase id) other)[number]? =
    some mail at found
  by_cases same : other = user
  · rw [same, Function.update_self, Std.TreeMap.getElem?_erase] at found
    split at found
    · cases found
    · exact readable user number mail found
  · rw [Function.update_of_ne same] at found
    exact readable other number mail found

theorem Account.perform_readable (readable : direct.store.Readable) (users : Users)
    (request : Request) :
    Client.Suits request (direct.perform users request).1 ∧
      (direct.perform users request).2.store.Readable := by
  have done {act : String → Except String Answer × Account Shelves}
      (suits : ∀ user, Client.Suits request (act user).1)
      (left : ∀ user, (act user).2.store.Readable) :
      Client.Suits request (direct.asUser act).1 ∧ (direct.asUser act).2.store.Readable := by
    rw [asUser]
    split
    · exact ⟨suits _, left _⟩
    · exact ⟨.refused _, readable⟩
  cases request with
  | login user password =>
      rw [perform, login]
      split
      · exact ⟨.refused _, readable⟩
      · split
        · exact ⟨.refused _, readable⟩
        · split
          · exact ⟨.refused _, readable⟩
          · exact ⟨.login user password, readable⟩
  | list =>
      apply done _ fun _ => readable
      intro user
      apply Client.Suits.list
      intro found member
      obtain ⟨⟨id, mail⟩, present, rfl⟩ := List.mem_map.mp member
      have valid := (readable user id mail
        (Std.TreeMap.mem_toList_iff_getElem?_eq_some.mp present)).sender
      exact Address.valid_free valid (by decide) (by decide)
  | view id =>
      apply done _ fun _ => readable
      intro user
      change Client.Suits _ (direct.view user id)
      rw [view]
      split
      · rename_i mail found
        exact .view id mail (readable user id mail found)
      · exact .refused _
  | delete id =>
      apply done _ fun user => direct.delete_readable readable user id
      intro user
      change Client.Suits _ (if (direct.store user).contains id = true then _ else _)
      split
      · exact .delete id
      · exact .refused _
  | logout => exact done (fun _ => .logout) fun _ => readable

theorem Direct.call_readable {users : Users} {identity : String} (direct : Direct)
    (readable : direct.account.store.Readable) (call : Call) :
    (direct.call users identity call).2.account.store.Readable := by
  cases call with
  | request asked => exact (Account.perform_readable readable users asked).2
  | startSecure random =>
      rw [Direct.call]
      split
      · exact readable
      · exact readable

end Accounts

end Access

end MailExchange
