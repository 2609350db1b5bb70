import MailExchange.Proofs.Access.Turns

namespace MailExchange

open Text (Bytes)
open Wire (Frame)

def Mailboxes.SameBut (hidden : String) (left right : Mailboxes) : Prop :=
  ∀ user, user ≠ hidden → left.box user = right.box user

namespace Access

structure Site.SameBut (hidden : String) (left right : Site) : Prop where
  identity : left.identity = right.identity
  users : left.users = right.users
  keys : left.keys = right.keys
  files : left.files = right.files
  mailboxes : left.mailboxes.SameBut hidden right.mailboxes

/-- Accounts of someone else, or of nobody. -/
structure Account.SameBut (hidden : String) (left right : Account Mailboxes) : Prop where
  user : left.user = right.user
  stranger : left.user ≠ some hidden
  mailboxes : left.store.SameBut hidden right.store

/-- Sessions that a stranger to a mailbox cannot tell apart. -/
structure Session.SameBut (hidden : String) (left right : Session) : Prop where
  endpoint : left.endpoint = right.endpoint
  user : left.user = right.user
  stranger : left.user ≠ some hidden
  stage : left.stage = right.stage
  result : left.result? = right.result?
  site : left.site.SameBut hidden right.site

variable {hidden : String}

section Accounts

variable {left right : Account Mailboxes} {users : Users}

theorem Account.delete_same (same : left.SameBut hidden right) {user : String}
    (other : user ≠ hidden) (id : MessageId) :
    (left.delete user id).1 = (right.delete user id).1 ∧
      Account.SameBut hidden (left.delete user id).2 (right.delete user id).2 := by
  have box := same.mailboxes user other
  refine ⟨?_, ⟨same.user, same.stranger, fun name different => ?_⟩⟩
  · change (if ((left.store.box user).delete id).1 then _ else _) =
      (if ((right.store.box user).delete id).1 then _ else _)
    rw [box]
  · change (left.store.setBox user ((left.store.box user).delete id).2).box name =
      (right.store.setBox user ((right.store.box user).delete id).2).box name
    by_cases own : name = user
    · rw [own, Mailboxes.box_setBox, Mailboxes.box_setBox, box]
    · rw [Mailboxes.box_setBox_other own, Mailboxes.box_setBox_other own]
      exact same.mailboxes name different

theorem Account.perform_same (same : left.SameBut hidden right) (request : Request)
    (barred : ∀ password, request = .login hidden password → left.user = none →
      users.accepts hidden password = false) :
    (left.perform users request).1 = (right.perform users request).1 ∧
      Account.SameBut hidden (left.perform users request).2 (right.perform users request).2 := by
  have as_user {first second : String → Except String Answer × Account Mailboxes}
      (alike : ∀ user, user ≠ hidden → (first user).1 = (second user).1 ∧
        Account.SameBut hidden (first user).2 (second user).2) :
      (left.asUser first).1 = (right.asUser second).1 ∧
        Account.SameBut hidden (left.asUser first).2 (right.asUser second).2 := by
    cases signed : left.user with
    | none =>
        rw [asUser_none signed, asUser_none (same.user.symm.trans signed)]
        exact ⟨rfl, same⟩
    | some user =>
        rw [asUser_some signed, asUser_some (same.user.symm.trans signed)]
        exact alike user fun own => same.stranger (own ▸ signed)
  cases request with
  | login user password =>
      simp only [perform, login, ← same.user]
      split
      · exact ⟨rfl, same⟩
      · rename_i nobody
        split
        · exact ⟨rfl, same⟩
        · split
          · exact ⟨rfl, same⟩
          · rename_i right
            refine ⟨rfl, ⟨rfl, fun signed => ?_, same.mailboxes⟩⟩
            rw [Option.some.inj signed, barred password (by rw [Option.some.inj signed])
              (Option.not_isSome_iff_eq_none.mp nobody)] at right
            exact right rfl
  | list =>
      refine as_user fun user other => ⟨?_, same⟩
      have box := same.mailboxes user other
      simp only [MailStore.list, Mailboxes.list, box]
  | view id =>
      refine as_user fun user other => ⟨?_, same⟩
      have box := same.mailboxes user other
      simp only [Account.view, MailStore.get?, Mailboxes.get?, box]
  | delete id => exact as_user fun user other => delete_same same other id
  | logout =>
      exact as_user fun user _ =>
        ⟨rfl, ⟨rfl, (Option.some_ne_none hidden).symm, same.mailboxes⟩⟩

theorem Account.perform_untouched (users : Users) {account : Account Mailboxes}
    (stranger : account.user ≠ some hidden) (request : Request) :
    (account.perform users request).2.store.box hidden = account.store.box hidden := by
  have as_user {act : String → Except String Answer × Account Mailboxes}
      (untouched : ∀ user, user ≠ hidden → (act user).2.store.box hidden = account.store.box hidden) :
      (account.asUser act).2.store.box hidden = account.store.box hidden := by
    cases signed : account.user with
    | none => rw [asUser_none signed]
    | some user =>
        rw [asUser_some signed]
        exact untouched user fun own => stranger (own ▸ signed)
  cases request with
  | login user password =>
      simp only [perform, login]
      repeat' split
      all_goals rfl
  | list => exact as_user fun user other => rfl
  | view id => exact as_user fun user other => rfl
  | delete id => exact as_user fun user other => Mailboxes.box_setBox_other other.symm
  | logout => exact as_user fun user other => rfl

end Accounts

section Sessions

variable {left right : Session}

theorem Session.SameBut.say (same : left.SameBut hidden right) (lines : List String) :
    (left.say lines).SameBut hidden (right.say lines) := by
  rw [Session.say, Session.say, same.endpoint]
  split
  · exact ⟨rfl, same.user, same.stranger, same.stage, same.result, same.site⟩
  · exact ⟨rfl, same.user, same.stranger, same.stage, rfl, same.site⟩

theorem Session.SameBut.finish (same : left.SameBut hidden right) (result : Except Error Unit) :
    (left.finish result).SameBut hidden (right.finish result) := by
  refine ⟨same.endpoint, same.user, same.stranger, same.stage, ?_, same.site⟩
  rw [Session.finish, Session.finish, same.result]

theorem Session.SameBut.account (same : left.SameBut hidden right) :
    Account.SameBut hidden left.account right.account :=
  ⟨same.user, same.stranger, same.site.mailboxes⟩

theorem Session.SameBut.settle (same : left.SameBut hidden right)
    {result : Except String Answer} {first second : Account Mailboxes}
    (accounts : Account.SameBut hidden first second) :
    (left.settle (result, first)).SameBut hidden (right.settle (result, second)) := by
  apply Session.SameBut.say
  refine ⟨?_, accounts.user, accounts.stranger, same.stage, same.result, ?_⟩
  · simp only [Session.turn, same.endpoint, same.user, accounts.user]
  · exact ⟨same.site.identity, same.site.users, same.site.keys, same.site.files,
      accounts.mailboxes⟩

theorem Session.SameBut.startSecure (same : left.SameBut hidden right) :
    left.startSecure.SameBut hidden right.startSecure := by
  rw [Session.startSecure, Session.startSecure, same.endpoint]
  split
  · exact same.say _
  · simp only [same.site.keys, same.site.files, same.site.identity]
    rcases right.site.keys.privateKey right.site.files right.site.identity with ⟨key, keys⟩
    cases key with
    | error error =>
        apply Session.SameBut.say
        exact ⟨rfl, same.user, same.stranger, same.stage, same.result,
          ⟨rfl, same.site.users, rfl, rfl, same.site.mailboxes⟩⟩
    | ok key =>
        apply Session.SameBut.say
        exact ⟨rfl, same.user, same.stranger, rfl, same.result,
          ⟨rfl, same.site.users, rfl, rfl, same.site.mailboxes⟩⟩

theorem Session.SameBut.execute (same : left.SameBut hidden right) {command : Command}
    (barred : ¬ (Turn.mk left command).SignsIn hidden) :
    (left.execute command).SameBut hidden (right.execute command) := by
  have requested (request : Request) (asked : request.command = command) :
      (left.execute command).SameBut hidden (right.execute command) := by
    subst asked
    have refused : ∀ password, request = .login hidden password → left.account.user = none →
        left.site.users.accepts hidden password = false := by
      rintro password rfl nobody
      exact eq_false_of_ne_true fun right => barred ⟨nobody, password, rfl, right⟩
    obtain ⟨result, accounts⟩ := Account.perform_same same.account request refused
    rw [Session.execute_request, Session.execute_request, ← same.site.users,
      show left.account.perform left.site.users request =
        ((right.account.perform left.site.users request).1,
          (left.account.perform left.site.users request).2) from Prod.ext result rfl]
    exact same.settle accounts
  cases command with
  | startSecure => exact same.startSecure
  | quit =>
      refine Session.SameBut.finish (Session.SameBut.say ?_ _) _
      exact ⟨same.endpoint, rfl, (Option.some_ne_none hidden).symm, same.stage, same.result,
        same.site⟩
  | login user password => exact requested (.login user password) rfl
  | list => exact requested .list rfl
  | view id => exact requested (.view id) rfl
  | delete id => exact requested (.delete id) rfl
  | logout => exact requested .logout rfl

theorem Session.SameBut.secure (same : left.SameBut hidden right) (key : Rsa.PrivateKey)
    (awaited : Wire.Handshake.Awaited) (frame : Option Frame) :
    (left.secure key awaited frame).SameBut hidden (right.secure key awaited frame) := by
  rw [Session.secure, Session.secure, same.endpoint]
  split
  · exact ⟨rfl, same.user, same.stranger, rfl, same.result, same.site⟩
  · exact ⟨rfl, same.user, same.stranger, rfl, same.result, same.site⟩
  · apply Session.SameBut.finish
    exact ⟨rfl, same.user, same.stranger, same.stage, same.result, same.site⟩

theorem Session.SameBut.take (same : left.SameBut hidden right) (frame : Option Frame)
    (barred : ∀ turn, left.turn? frame = some turn → ¬ turn.SignsIn hidden) :
    (left.take frame).SameBut hidden (right.take frame) := by
  rw [Session.turn?] at barred
  rw [Session.take, Session.take, ← same.stage, ← same.endpoint]
  cases stage : left.stage with
  | securing key awaited => exact same.secure key awaited frame
  | commands =>
      rw [stage] at barred
      rcases decoded : left.endpoint.decode frame with ⟨result, endpoint⟩
      have heard : Session.SameBut hidden { left with endpoint, stage := .commands }
          { right with endpoint, stage := .commands } :=
        ⟨rfl, same.user, same.stranger, rfl, same.result, same.site⟩
      cases result with
      | error error => exact heard.finish _
      | ok line =>
          simp only [decoded] at barred
          simp only [Session.interpret]
          cases parsed : Command.parse? line with
          | none => exact (heard.say _).finish _
          | some command => exact heard.execute (barred _ (by rw [parsed]; rfl))

theorem Session.execute_untouched {session : Session} (stranger : session.user ≠ some hidden)
    (command : Command) :
    (session.execute command).site.mailboxes.box hidden = session.site.mailboxes.box hidden := by
  have requested (request : Request) : (session.execute request.command).site.mailboxes.box hidden =
      session.site.mailboxes.box hidden := by
    rw [execute_request, settle_mailboxes]
    exact Account.perform_untouched session.site.users stranger request
  cases command with
  | startSecure =>
      obtain ⟨keys, stage, lines, said⟩ := session.startSecure_said
      rw [execute, said, say_site]
  | quit => rw [execute, finish_site, say_site]
  | login user password => exact requested (.login user password)
  | list => exact requested .list
  | view id => exact requested (.view id)
  | delete id => exact requested (.delete id)
  | logout => exact requested .logout

theorem Session.take_untouched {session : Session} (stranger : session.user ≠ some hidden)
    (frame : Option Frame) :
    (session.take frame).site.mailboxes.box hidden = session.site.mailboxes.box hidden := by
  cases found : session.turn? frame with
  | none => rw [(take_idle found).2]
  | some turn =>
      obtain ⟨after, user, site⟩ := take_turn found
      rw [after, ← site]
      exact execute_untouched (by rw [user]; exact stranger) turn.command

end Sessions

def Watched.Barred (hidden : String) (watched : Watched) : Prop :=
  ∀ turn ∈ watched.turns, ¬ turn.SignsIn hidden

/-- What two runs have in common as long as the owner of a mailbox does not sign in. -/
structure Alike (hidden : String) (site other : Site) (watched : Watched) (session : Session) :
    Prop where
  same : watched.session.SameBut hidden session
  untouched : watched.session.site.mailboxes.box hidden = site.mailboxes.box hidden
  other_untouched : session.site.mailboxes.box hidden = other.mailboxes.box hidden

theorem Alike.take {site other : Site} {watched : Watched} {session : Session}
    (alike : Alike hidden site other watched session) (frame : Option Frame)
    (barred : (watched.take frame).Barred hidden) :
    Alike hidden site other (watched.take frame) (session.take frame) := by
  have stranger : session.user ≠ some hidden := alike.same.user ▸ alike.same.stranger
  refine ⟨alike.same.take frame fun turn found => barred turn ?_, ?_, ?_⟩
  · rw [Watched.take, found]
    exact List.mem_append_right _ (List.mem_singleton.mpr rfl)
  · rw [← alike.untouched]
    exact Session.take_untouched alike.same.stranger frame
  · rw [← alike.other_untouched]
    exact Session.take_untouched stranger frame

theorem run_alike (label : LogPrefix) {site other : Site} (same : site.SameBut hidden other)
    {input : Bytes}
    (barred : (Wire.Session.run ({ session := .greet label site } : Watched) input).Barred hidden) :
    Alike hidden site other (Wire.Session.run ({ session := .greet label site } : Watched) input)
      (Wire.Session.run (Session.greet label other) input) := by
  have opened : Session.SameBut hidden { endpoint := { label }, site }
      { endpoint := { label }, site := other } :=
    ⟨rfl, rfl, (Option.some_ne_none hidden).symm, rfl, rfl, same⟩
  have greeted : (Session.greet label site).SameBut hidden (Session.greet label other) :=
    opened.say [greeting]
  have start : Alike hidden site other { session := .greet label site } (.greet label other) :=
    ⟨greeted, by rw [Session.greet, Session.say_site], by rw [Session.greet, Session.say_site]⟩
  apply Wire.Session.run_related _ _ _ start barred
  · exact fun watched frame later turn member => later turn (List.mem_append_left _ member)
  · exact fun watched session alike => congrArg Option.isSome alike.same.result.symm
  · exact fun watched session frame alike later => alike.take frame later

/-- Two runs on stores that differ in one mailbox only say the same, and leave that mailbox as it was,
unless its owner signs in. At every turn it is the mailbox of whoever is signed in that is listed,
shown or deleted from, and nothing but turns changes the mailboxes. -/
theorem mailbox_isolation (label : LogPrefix) (site : Site) (input : Bytes) :
    (∀ hidden other, site.SameBut hidden other →
      (∀ turn ∈ (Session.greet label site).turns input, ¬ turn.SignsIn hidden) →
      let left := Wire.Session.run (Session.greet label site) input
      let right := Wire.Session.run (Session.greet label other) input
      left.endpoint.sent = right.endpoint.sent ∧ left.result? = right.result? ∧
        left.site.mailboxes.box hidden = site.mailboxes.box hidden ∧
        right.site.mailboxes.box hidden = other.mailboxes.box hidden ∧
        left.site.mailboxes.SameBut hidden right.site.mailboxes) ∧
    (∀ earlier turn later, (Session.greet label site).turns input = earlier ++ turn :: later →
      turn.before.user = signedIn site.users (earlier.map (·.command)) ∧
      ∀ request, turn.command = request.command →
        turn.after = turn.before.settle (Account.perform site.users
          ⟨signedIn site.users (earlier.map (·.command)), leftAfter site.mailboxes earlier⟩
          request)) ∧
    (Wire.Session.run (Session.greet label site) input).site.mailboxes =
      leftAfter site.mailboxes ((Session.greet label site).turns input) := by
  have attributed := run_attributed label site input
  have watched := Watched.run_session { session := .greet label site } input
  refine ⟨fun hidden other same barred => ?_, fun earlier turn later cut => ?_, ?_⟩
  · have alike := run_alike label same barred
    rw [← watched]
    exact ⟨congrArg Wire.Endpoint.sent alike.same.endpoint, alike.same.result, alike.untouched,
      alike.other_untouched, alike.same.site.mailboxes⟩
  · have meets := attributed.turns earlier turn later cut
    refine ⟨meets.user, fun request asked => ?_⟩
    rw [Turn.after, asked, Session.execute_request, meets.users, ← meets.user, ← meets.mailboxes]
    rfl
  · rw [← watched]
    exact attributed.now.mailboxes

def planet (mail : List (MessageId × Mail)) : Site where
  identity := "planet"
  users := .ofDomain "earth.planet" [("zim", "doom"), ("dib", "moose")]
  mailboxes := ⟨[("zim", ⟨1, mail⟩)]⟩
  keys := { root := [], rootName := "" }
  files := {}

theorem planet_isolation :
    let input := Text.utf8 "login zim moose\nlogin dib moose\nlogin zim doom\nlist\nquit\n"
    let left := Wire.Session.run (Session.greet (.ofProtocol "dmap") (planet [])) input
    let right := Wire.Session.run (Session.greet (.ofProtocol "dmap")
      (planet [(1, ⟨"dib@earth.planet", ["zim@earth.planet"], "doom", "", none⟩)])) input
    left.endpoint.sent = right.endpoint.sent ∧ right.site.mailboxes.list "zim" ≠ [] := by
  have same : (planet []).SameBut "zim"
      (planet [(1, ⟨"dib@earth.planet", ["zim@earth.planet"], "doom", "", none⟩)]) := by
    refine ⟨rfl, rfl, rfl, rfl, fun user other => ?_⟩
    have skipped : ("zim" == user) = false := beq_false_of_ne other.symm
    simp [planet, Mailboxes.box, skipped]
  have barred : ∀ turn ∈ (Session.greet (.ofProtocol "dmap") (planet [])).turns
      (Text.utf8 "login zim moose\nlogin dib moose\nlogin zim doom\nlist\nquit\n"),
      ¬ turn.SignsIn "zim" := by decide +kernel
  obtain ⟨sent, _, _, untouched, _⟩ := (mailbox_isolation _ _ _).1 "zim" _ same barred
  refine ⟨sent, ?_⟩
  rw [Mailboxes.list, untouched]
  exact List.cons_ne_nil _ _

end Access

end MailExchange
