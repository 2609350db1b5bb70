import MailExchange.Proofs.Access.Account
import MailExchange.Proofs.Wire.Session
import Mathlib.Data.List.Induction

/-!
The turns of a session: the commands it has taken in, each with the session that it met. Who is signed
in at a turn, and what is in the mailboxes, is what the turns before it have led to.
-/

namespace MailExchange.Access

open Text (Bytes)
open Wire (Endpoint Frame)

structure Turn where
  before : Session
  command : Command

namespace Turn

def after (turn : Turn) : Session := turn.before.execute turn.command

def SignsIn (turn : Turn) (user : String) : Prop :=
  turn.before.user = none ∧
    ∃ password, turn.command = .login user password ∧
      turn.before.site.users.accepts user password = true

def signed? (turn : Turn) : Option String :=
  match turn.before.user, turn.command with
  | none, .login user password =>
    if turn.before.site.users.accepts user password then some user else none
  | _, _ => none

theorem signsIn_iff {turn : Turn} {user : String} :
    turn.SignsIn user ↔ turn.signed? = some user := by
  rcases turn with ⟨before, command⟩
  simp only [SignsIn, signed?]
  cases before.user with
  | some other => simp
  | none =>
      cases command with
      | login name password => by_cases same : name = user <;> simp [same]
      | _ => simp

instance (turn : Turn) (user : String) : Decidable (turn.SignsIn user) :=
  decidable_of_iff _ signsIn_iff.symm

end Turn

namespace Session

/-- The turn that a frame leads to, unless it belongs to a handshake or is no command. -/
def turn? (session : Session) (frame : Option Frame) : Option Turn :=
  match session.stage with
  | .securing _ _ => none
  | .commands =>
    match session.endpoint.decode frame with
    | (.error _, _) => none
    | (.ok line, endpoint) =>
      (Command.parse? line).map fun command => ⟨{ session with endpoint }, command⟩

end Session

structure Watched where
  session : Session
  turns : List Turn := []

namespace Watched

def take (watched : Watched) (frame : Option Frame) : Watched :=
  ⟨watched.session.take frame, watched.turns ++ (watched.session.turn? frame).toList⟩

instance : Wire.Session Watched where
  take := take
  result? watched := watched.session.result?
  sent watched := watched.session.endpoint.sent

theorem run_session (watched : Watched) (input : Bytes) :
    (Wire.Session.run watched input).session = Wire.Session.run watched.session input :=
  (Wire.Session.run_map Watched.session (fun _ _ => rfl) (fun _ => rfl) watched input).symm

end Watched

def Session.turns (session : Session) (input : Bytes) : List Turn :=
  (Wire.Session.run ({ session } : Watched) input).turns

theorem cut_concat {α : Type} {start earlier later : List α} {last item : α}
    (cut : start ++ [last] = earlier ++ item :: later) :
    (start = earlier ∧ last = item ∧ later = []) ∨
      ∃ middle, start = earlier ++ item :: middle ∧ later = middle ++ [last] := by
  rcases List.eq_nil_or_concat later with rfl | ⟨middle, other, rfl⟩
  · obtain ⟨same, single⟩ := List.append_inj' cut rfl
    exact Or.inl ⟨same, List.singleton_inj.mp single, rfl⟩
  · rw [List.concat_eq_append, ← List.cons_append, ← List.append_assoc] at cut
    obtain ⟨same, single⟩ := List.append_inj' cut rfl
    rw [List.singleton_inj.mp single]
    exact Or.inr ⟨middle, same, List.concat_eq_append⟩

section Users

variable {users : Users} {commands : List Command} {user : String}

/-- Who is signed in after a command. A login counts if nobody is, and the password is right. -/
def signs (users : Users) (signed : Option String) : Command → Option String
  | .login user password =>
    if signed = none ∧ users.accepts user password = true then some user else signed
  | .logout => none
  | .quit => none
  | .startSecure => signed
  | .list => signed
  | .view _ => signed
  | .delete _ => signed

def signedIn (users : Users) (commands : List Command) : Option String :=
  commands.foldl (signs users) none

theorem signedIn_append (users : Users) (commands : List Command) (command : Command) :
    signedIn users (commands ++ [command]) = signs users (signedIn users commands) command := by
  rw [signedIn, List.foldl_append]
  rfl

theorem signs_some (command : Command) :
    signs users (some user) command =
      if command = .logout ∨ command = .quit then none else some user := by
  cases command <;> simp [signs]

theorem signs_none {command : Command} (signed : signs users none command = some user) :
    ∃ password, command = .login user password ∧ users.accepts user password = true := by
  cases command with
  | login name password =>
      rw [signs] at signed
      split at signed
      · rename_i right
        cases signed
        exact ⟨password, rfl, right.2⟩
      · cases signed
  | startSecure => cases signed
  | list => cases signed
  | view id => cases signed
  | delete id => cases signed
  | logout => cases signed
  | quit => cases signed

/-- The one who is signed in is the one who has last given the right password while nobody was, if
that has not been followed by a logout. -/
theorem signedIn_some : signedIn users commands = some user ↔
    ∃ earlier password later, commands = earlier ++ .login user password :: later ∧
      signedIn users earlier = none ∧ users.accepts user password = true ∧
      .logout ∉ later ∧ .quit ∉ later := by
  induction commands using List.reverseRecOn with
  | nil =>
      constructor
      · intro signed
        cases signed
      · rintro ⟨earlier, password, later, cut, _⟩
        exact absurd cut (List.append_ne_nil_of_right_ne_nil earlier (List.cons_ne_nil _ _)).symm
  | append_singleton commands command ih =>
      rw [signedIn_append]
      constructor
      · intro signed
        cases before : signedIn users commands with
        | none =>
            rw [before] at signed
            obtain ⟨password, rfl, right⟩ := signs_none signed
            exact ⟨commands, password, [], rfl, before, right, List.not_mem_nil, List.not_mem_nil⟩
        | some other =>
            rw [before, signs_some] at signed
            split at signed
            · cases signed
            · rename_i stays
              rw [not_or] at stays
              obtain ⟨earlier, password, later, rfl, nobody, right, no_logout, no_quit⟩ :=
                ih.mp (before.trans signed)
              refine ⟨earlier, password, later ++ [command], by simp, nobody, right, ?_, ?_⟩
              · simp [no_logout, Ne.symm stays.1]
              · simp [no_quit, Ne.symm stays.2]
      · rintro ⟨earlier, password, later, cut, nobody, right, no_logout, no_quit⟩
        rcases cut_concat cut with ⟨rfl, rfl, _⟩ | ⟨middle, rfl, rfl⟩
        · rw [nobody]
          exact if_pos ⟨rfl, right⟩
        · have before := ih.mpr ⟨earlier, password, middle, rfl, nobody, right,
            fun member => no_logout (by simp [member]), fun member => no_quit (by simp [member])⟩
          have stays : ¬ (command = .logout ∨ command = .quit) := by
            rintro (rfl | rfl)
            · exact no_logout (by simp)
            · exact no_quit (by simp)
          rw [before, signs_some, if_neg stays]

end Users

section Fields

variable (session : Session) (lines : List String)

@[simp] theorem Session.say_user : (session.say lines).user = session.user := by
  rw [say]
  split <;> rfl

@[simp] theorem Session.say_site : (session.say lines).site = session.site := by
  rw [say]
  split <;> rfl

@[simp] theorem Session.settle_user (outcome : Except String Answer × Account Mailboxes) :
    (session.settle outcome).user = outcome.2.user := by
  rw [settle, say_user, turn]

@[simp] theorem Session.settle_users (outcome : Except String Answer × Account Mailboxes) :
    (session.settle outcome).site.users = session.site.users := by
  rw [settle, say_site, turn]

@[simp] theorem Session.settle_mailboxes (outcome : Except String Answer × Account Mailboxes) :
    (session.settle outcome).site.mailboxes = outcome.2.store := by
  rw [settle, say_site, turn]

end Fields

theorem Account.perform_user {σ : Type} [MailStore σ] (users : Users) (account : Account σ)
    (request : Request) :
    (account.perform users request).2.user = signs users account.user request.command := by
  have stays (act : String → Except String Answer × Account σ)
      (same : ∀ user, (act user).2.user = account.user) :
      (account.asUser act).2.user = account.user := by
    rw [asUser]
    split
    · exact same _
    · rfl
  cases request with
  | login user password =>
      have known (right : users.accepts user password = true) : users.has user = true := by
        rw [Users.has, beq_iff_eq.mp right, Option.isSome_some]
      cases signed : account.user with
      | some other => simp [perform, login, signed, signs, Request.command]
      | none =>
          by_cases right : users.accepts user password = true
          · simp [perform, login, signed, signs, Request.command, right, known right]
          · simp only [perform, login, signed, signs, Request.command, right]
            by_cases present : users.has user = true <;> simp [present, signed]
  | list => exact stays _ fun _ => rfl
  | view id => exact stays _ fun _ => rfl
  | delete id => exact stays _ fun _ => rfl
  | logout =>
      rw [perform, asUser]
      split
      · rfl
      · rename_i nobody
        exact nobody

namespace Session

variable {session : Session} {frame : Option Frame} {turn : Turn}

theorem startSecure_said (session : Session) : ∃ keys stage lines,
    session.startSecure = { session with site.keys := keys, stage }.say lines := by
  rw [startSecure]
  split
  · exact ⟨session.site.keys, session.stage, _, rfl⟩
  · rcases looked : session.site.keys.privateKey session.site.files session.site.identity with
      ⟨key, keys⟩
    simp only [looked]
    cases key with
    | error error => exact ⟨keys, session.stage, _, rfl⟩
    | ok key => exact ⟨keys, .securing key .offer, _, rfl⟩

@[simp] theorem finish_user (session : Session) (result : Except Error Unit) :
    (session.finish result).user = session.user := rfl

@[simp] theorem finish_site (session : Session) (result : Except Error Unit) :
    (session.finish result).site = session.site := rfl

theorem execute_users (session : Session) (command : Command) :
    (session.execute command).site.users = session.site.users := by
  have requested (request : Request) :
      (session.execute request.command).site.users = session.site.users := by
    rw [execute_request, settle_users]
  cases command with
  | startSecure =>
      obtain ⟨keys, stage, lines, said⟩ := session.startSecure_said
      rw [execute, said, say_site]
  | quit => rw [execute, finish_site, say_site]
  | login user password => exact requested (.login user password)
  | list => exact requested .list
  | view id => exact requested (.view id)
  | delete id => exact requested (.delete id)
  | logout => exact requested .logout

theorem execute_user (session : Session) (command : Command) :
    (session.execute command).user = signs session.site.users session.user command := by
  have requested (request : Request) :
      (session.execute request.command).user =
        signs session.site.users session.user request.command := by
    rw [execute_request, settle_user, Account.perform_user, account_user]
  cases command with
  | startSecure =>
      obtain ⟨keys, stage, lines, said⟩ := session.startSecure_said
      rw [execute, said, say_user]
      rfl
  | quit =>
      rw [execute, finish_user, say_user]
      rfl
  | login user password => exact requested (.login user password)
  | list => exact requested .list
  | view id => exact requested (.view id)
  | delete id => exact requested (.delete id)
  | logout => exact requested .logout

theorem take_turn (found : session.turn? frame = some turn) :
    session.take frame = turn.after ∧ turn.before.user = session.user ∧
      turn.before.site = session.site := by
  rw [turn?] at found
  split at found
  · cases found
  · rename_i stage
    split at found
    · cases found
    · rename_i line endpoint decoded
      obtain ⟨command, parsed, rfl⟩ := Option.map_eq_some_iff.mp found
      refine ⟨?_, rfl, rfl⟩
      rw [take, stage]
      simp only [decoded, interpret, parsed]
      rfl

theorem secure_account (session : Session) (key : Rsa.PrivateKey)
    (awaited : Wire.Handshake.Awaited) (frame : Option Frame) :
    (session.secure key awaited frame).user = session.user ∧
      (session.secure key awaited frame).site = session.site := by
  rw [secure]
  split <;> exact ⟨rfl, rfl⟩

theorem take_idle (nothing : session.turn? frame = none) :
    (session.take frame).user = session.user ∧ (session.take frame).site = session.site := by
  cases stage : session.stage with
  | securing key awaited =>
      simp only [take, stage]
      exact session.secure_account key awaited frame
  | commands =>
      rcases decoded : session.endpoint.decode frame with ⟨result, endpoint⟩
      cases result with
      | error error =>
          simp only [take, stage, decoded]
          exact ⟨rfl, rfl⟩
      | ok line =>
          simp only [turn?, stage, decoded, Option.map_eq_none_iff] at nothing
          simp only [take, stage, decoded, interpret, nothing, finish_user, finish_site, say_user,
            say_site, and_self]

end Session

def leftAfter (mailboxes : Mailboxes) (turns : List Turn) : Mailboxes :=
  turns.foldl (fun _ turn => turn.after.site.mailboxes) mailboxes

theorem leftAfter_append (mailboxes : Mailboxes) (turns : List Turn) (turn : Turn) :
    leftAfter mailboxes (turns ++ [turn]) = turn.after.site.mailboxes := by
  rw [leftAfter, List.foldl_append]
  rfl

/-- A session met by a turn, after some others. -/
structure Meets (site : Site) (earlier : List Turn) (session : Session) : Prop where
  users : session.site.users = site.users
  user : session.user = signedIn site.users (earlier.map (·.command))
  mailboxes : session.site.mailboxes = leftAfter site.mailboxes earlier

/-- The turns account for the session, and each for the one that it met. -/
structure Attributed (site : Site) (watched : Watched) : Prop where
  now : Meets site watched.turns watched.session
  turns : ∀ earlier turn later, watched.turns = earlier ++ turn :: later →
    Meets site earlier turn.before

theorem Meets.after {site : Site} {earlier : List Turn} {turn : Turn}
    (meets : Meets site earlier turn.before) : Meets site (earlier ++ [turn]) turn.after := by
  refine ⟨?_, ?_, ?_⟩
  · rw [Turn.after, Session.execute_users, meets.users]
  · rw [Turn.after, Session.execute_user, meets.users, meets.user, List.map_append, List.map_singleton,
      signedIn_append]
  · rw [leftAfter_append]

theorem Attributed.take {site : Site} {watched : Watched} (attributed : Attributed site watched)
    (frame : Option Frame) : Attributed site (watched.take frame) := by
  rw [Watched.take]
  cases found : watched.session.turn? frame with
  | none =>
      obtain ⟨user, same⟩ := Session.take_idle found
      have now : Meets site watched.turns (watched.session.take frame) :=
        ⟨by rw [same, attributed.now.users], by rw [user, attributed.now.user],
          by rw [same, attributed.now.mailboxes]⟩
      simp only [Option.toList_none, List.append_nil]
      exact ⟨now, attributed.turns⟩
  | some turn =>
      obtain ⟨after, user, site_same⟩ := Session.take_turn found
      have meets : Meets site watched.turns turn.before :=
        ⟨by rw [site_same, attributed.now.users], by rw [user, attributed.now.user],
          by rw [site_same, attributed.now.mailboxes]⟩
      simp only [Option.toList_some, after]
      refine ⟨meets.after, fun earlier other later cut => ?_⟩
      rcases cut_concat cut with ⟨rfl, rfl, _⟩ | ⟨middle, same, _⟩
      · exact meets
      · exact attributed.turns earlier other middle same

theorem run_attributed (label : LogPrefix) (site : Site) (input : Bytes) :
    Attributed site (Wire.Session.run ({ session := .greet label site } : Watched) input) := by
  apply Wire.Session.run_induction
  · exact fun _ frame _ _ attributed => attributed.take (some frame)
  · exact fun _ _ attributed => attributed.take none
  · refine ⟨⟨?_, ?_, ?_⟩, fun earlier turn later cut => ?_⟩
    · rw [Session.greet, Session.say_site]
    · rw [Session.greet, Session.say_user]
      rfl
    · rw [Session.greet, Session.say_site]
      rfl
    · exact absurd cut (List.append_ne_nil_of_right_ne_nil earlier (List.cons_ne_nil _ _)).symm

end MailExchange.Access
