import MailExchange.Proofs.Access.Calls

namespace MailExchange.Access.Client

open Text (Bytes)
open Wire (Channel Lane Live Peer Talk Wrote oneLine)

variable {π : Type} [Peer π]

section Writing

theorem command_writes (command : Command) :
    (Client.command command : Talk π Unit).Writes (oneLine command.line) := by
  apply (Talk.writes_request command.line).bind
  intro reply
  apply (Talk.writes_ofExcept (Wire.expectOk reply)).bind
  intro text
  cases text with
  | none => exact Talk.writes_pure ()
  | some text => exact Talk.writes_throw _

theorem readGreeting_writes : (readGreeting : Talk π Unit).Writes [] := by
  apply Talk.writes_readLine.bind
  intro line
  split
  · exact Talk.writes_throw _
  · exact Talk.writes_pure ()

theorem askIdentity_writes : (askIdentity : Talk π String).Writes ["startsecure"] :=
  (Talk.writes_request "startsecure").bind fun _ => Talk.writes_ofExcept _

theorem readList_wrote (found : List Summary) (line : String) (channel : Channel π) :
    Wrote channel.endpoint [] (readList found line channel).2.endpoint := by
  fun_induction readList found line channel with
  | case1 => exact Wrote.nothing _
  | case2 => exact Wrote.nothing _
  | case3 found line channel more summary read error after failed =>
      have wrote := channel.receive_wrote
      rw [failed] at wrote
      exact wrote
  | case4 found line channel more summary read next after received shorter ih =>
      have wrote := channel.receive_wrote
      rw [received] at wrote
      exact wrote.append ih

theorem list_writes : (list : Talk π (List Summary)).Writes (oneLine Command.list.line) := by
  apply (Talk.writes_request Command.list.line).bind
  intro line
  split
  · exact Talk.writes_pure []
  · exact fun channel => readList_wrote [] line channel

theorem nextField_writes (keyword : String) : (nextField keyword : Talk π String).Writes [] :=
  Talk.writes_readLine.bind fun _ => Talk.writes_ofExcept _

theorem view_writes (id : MessageId) :
    (view id : Talk π Mail).Writes (oneLine (Command.view id).line) := by
  refine (Talk.writes_request (Command.view id).line).bind fun line => ?_
  refine (Talk.writes_ofExcept _).bind fun sender => ?_
  refine (nextField_writes "to").bind fun recipients => ?_
  refine (nextField_writes "subject").bind fun subject => ?_
  refine (nextField_writes "data").bind fun body => ?_
  refine (nextField_writes "hash").bind fun tag => ?_
  refine Talk.writes_readLine.bind fun last => ?_
  by_cases ended : last = "ok"
  · simp only [ended, ne_eq, not_true_eq_false, if_false]
    exact Talk.writes_pure _
  · simp only [ended, ne_eq, not_false_eq_true, if_true]
    exact (Talk.writes_throw _).bind fun _ => Talk.writes_pure _

theorem quit_writes : (quit : Talk π Unit).Writes (oneLine Command.quit.line) := by
  apply (Talk.writes_request Command.quit.line).bind
  intro reply
  split
  · exact (Talk.writes_ofExcept _).bind fun _ => Talk.writes_throw _
  · exact Talk.writes_pure ()

theorem perform_writes (request : Request) :
    (perform request : Talk π Answer).Writes (oneLine request.command.line) := by
  cases request with
  | login user password =>
      exact (command_writes (.login user password)).bind fun _ => Talk.writes_pure _
  | list => exact list_writes.bind fun _ => Talk.writes_pure _
  | view id => exact (view_writes id).bind fun _ => Talk.writes_pure _
  | delete id => exact (command_writes (.delete id)).bind fun _ => Talk.writes_pure _
  | logout => exact (command_writes .logout).bind fun _ => Talk.writes_pure _

end Writing

inductive FollowUp where
  | request (request : Request)
  | quit

namespace FollowUp

def command : FollowUp → Command
  | .request asked => asked.command
  | .quit => .quit

def talk : FollowUp → Talk π Unit
  | .request asked => do let _ ← perform asked
  | .quit => Client.quit

theorem talk_writes (call : FollowUp) :
    (call.talk : Talk π Unit).Writes (oneLine call.command.line) := by
  cases call with
  | request asked => exact (perform_writes asked).bind fun _ => Talk.writes_pure ()
  | quit => exact quit_writes

end FollowUp

def followUp (calls : List FollowUp) (channel : Channel π) : Channel π :=
  calls.foldl (fun channel call => (call.talk.run channel).2) channel

theorem followUp_wrote (calls : List FollowUp) (channel : Channel π) :
    Wrote channel.endpoint (calls.flatMap fun call => oneLine call.command.line)
      (followUp calls channel).endpoint := by
  induction calls generalizing channel with
  | nil => exact Wrote.nothing _
  | cons call calls ih => exact (call.talk_writes channel).append (ih _)

variable (random : Randomness) (files : Files.Tree) (keys : Keys.Store)

def begin (channel : Channel π) : Except Error String × Channel π :=
  match readGreeting.run channel with
  | (.error error, channel) => (.error error, channel)
  | (.ok (), channel) =>
    ((startSecure random files keys channel).1.1, (startSecure random files keys channel).2)

def visit (user password : String) (calls : List FollowUp) (channel : Channel π) : Channel π :=
  match signIn true random files keys user password channel with
  | ((.error _, _), channel) => channel
  | ((.ok (), _), channel) => followUp calls channel

/-- What may be said in clear: that the session is to be secure, and an offer that is locked with a
key from the folder. -/
def InClear (lines : List String) : Prop :=
  lines = [] ∨ lines = ["startsecure"] ∨
    ∃ identity key offer, (keys.publicKey files identity).1 = .ok key ∧
      key.encrypt random.seed (Text.utf8 random.secrets.offer) = .ok offer ∧
      lines = ["startsecure", Base64.encode offer]

/-- A secure session that could not be started, and what has been said by then. -/
def Abandoned (before after : Channel π) : Prop :=
  ∃ clear acknowledged, InClear random files keys clear ∧
    (acknowledged = [] ∨ acknowledged = ["ok"]) ∧
    after.endpoint.sent = before.endpoint.sent ++ clear ++
      Lane.wires (some random.secrets.cipher.outgoing) acknowledged

/-- A secure session that has just been started, with the offer that was made for it. -/
structure Secured (identity : String) (offer : Bytes) (before after : Channel π) : Prop where
  offered : ∃ key asked, (keys.publicKey files identity).1 = .ok key ∧
    key.encrypt random.seed (Text.utf8 random.secrets.offer) = .ok offer ∧
    (Wire.Handshake.initiate random.secrets (key.encrypt random.seed)).run asked = (.ok (), after)
  said : after.endpoint.sent = before.endpoint.sent ++ ["startsecure", Base64.encode offer] ++
    Lane.wires (some random.secrets.cipher.outgoing) ["ok"]
  outbound : after.endpoint.outbound = Lane.afterAll (some random.secrets.cipher.outgoing) ["ok"]

section Starting

variable {random files keys} {store : Keys.Store} {channel middle after : Channel π}
  {identity : String} {key : Rsa.PublicKey} {error : Error} {result : Except Error Unit}
  {outcome : Except Error String}

theorem askIdentity_sent (clear : channel.endpoint.cipher = none)
    (asked : (askIdentity.run channel).2 = middle) :
    middle.endpoint.sent = channel.endpoint.sent ++ ["startsecure"] ∧
      middle.endpoint.cipher = none := by
  have wrote := askIdentity_writes channel
  rw [asked] at wrote
  refine ⟨?_, wrote.clear clear⟩
  rw [wrote.sent, Wire.Endpoint.outbound, clear, Option.map_none, Lane.wires_clear]

theorem shakeHands_wrote (clear : channel.endpoint.cipher = none)
    (asked : askIdentity.run channel = (.ok identity, middle))
    (looked : keys.publicKey files identity = (.ok key, store))
    (shaken : (shakeHands random key).run middle = (result, after)) :
    (∃ error, result = .error error ∧ Abandoned random files keys channel after) ∨
      ∃ offer, result = .ok () ∧ Secured random files keys identity offer channel after := by
  obtain ⟨sent, still_clear⟩ := askIdentity_sent clear (congrArg Prod.snd asked)
  have known : (keys.publicKey files identity).1 = .ok key := congrArg Prod.fst looked
  have initiated : (Wire.Handshake.initiate random.secrets (key.encrypt random.seed)).run middle =
      (result, after) := shaken
  cases locked : key.encrypt random.seed (Text.utf8 random.secrets.offer) with
  | error error =>
      rw [Wire.Handshake.initiate_locked_out locked middle] at initiated
      cases initiated
      refine Or.inl ⟨error, rfl, ["startsecure"], [], Or.inr (Or.inl rfl), Or.inl rfl, ?_⟩
      rw [sent, Lane.wires, List.append_nil]
  | ok offer =>
      obtain ⟨acknowledged, said, ended⟩ := Wire.Handshake.initiate_wrote still_clear locked
      rw [initiated, sent, List.append_assoc channel.endpoint.sent] at said
      rw [initiated] at ended
      rcases ended with ⟨⟨error, failed⟩, nothing⟩ | ⟨done, rfl, lane⟩
      · exact Or.inl ⟨error, failed, _, acknowledged,
          Or.inr (Or.inr ⟨identity, key, offer, known, locked, rfl⟩), nothing, said⟩
      · have finished : result = .ok () := done
        subst finished
        exact Or.inr ⟨offer, rfl, ⟨key, middle, known, locked, initiated⟩, said, lane⟩

theorem startSecure_wrote (random : Randomness) (files : Files.Tree) (keys : Keys.Store)
    (clear : channel.endpoint.cipher = none)
    (started : startSecure random files keys channel = ((outcome, store), after)) :
    (∃ error, outcome = .error error ∧ Abandoned random files keys channel after) ∨
    ∃ identity offer, outcome = .ok identity ∧
      Secured random files keys identity offer channel after := by
  rcases asked : askIdentity.run channel with ⟨reply, middle⟩
  obtain ⟨sent, _⟩ := askIdentity_sent clear (congrArg Prod.snd asked)
  have abandoned : Abandoned random files keys channel middle :=
    ⟨["startsecure"], [], Or.inr (Or.inl rfl), Or.inl rfl,
      by rw [sent, Lane.wires, List.append_nil]⟩
  cases reply with
  | error error =>
      rw [startSecure_unasked asked] at started
      cases started
      exact Or.inl ⟨error, rfl, abandoned⟩
  | ok identity =>
      rcases looked : keys.publicKey files identity with ⟨found, kept⟩
      cases found with
      | error error =>
          rw [startSecure_unknown asked looked] at started
          cases started
          exact Or.inl ⟨error, rfl, abandoned⟩
      | ok key =>
          rcases shaken : (shakeHands random key).run middle with ⟨result, done⟩
          rw [startSecure_shaken asked looked shaken] at started
          cases started
          rcases shakeHands_wrote clear asked looked shaken with
            ⟨error, rfl, abandoned⟩ | ⟨offer, rfl, secured⟩
          · exact Or.inl ⟨error, rfl, abandoned⟩
          · exact Or.inr ⟨identity, offer, rfl, secured⟩

theorem begin_wrote (random : Randomness) (files : Files.Tree) (keys : Keys.Store)
    (clear : channel.endpoint.cipher = none)
    (begun : begin random files keys channel = (outcome, after)) :
    (∃ error, outcome = .error error ∧ Abandoned random files keys channel after) ∨
    ∃ identity offer, outcome = .ok identity ∧
      Secured random files keys identity offer channel after := by
  have wrote := readGreeting_writes channel
  rcases greeted : readGreeting.run channel with ⟨greeting, middle⟩
  rw [greeted] at wrote
  have sent : middle.endpoint.sent = channel.endpoint.sent := by
    rw [wrote.sent, Lane.wires, List.append_nil]
  simp only [begin, greeted] at begun
  cases greeting with
  | error error =>
      cases begun
      refine Or.inl ⟨error, rfl, [], [], Or.inl rfl, Or.inl rfl, ?_⟩
      rw [sent, Lane.wires, List.append_nil, List.append_nil]
  | ok value =>
      cases begun
      rcases startSecure_wrote random files keys (wrote.clear clear) rfl with
        ⟨error, failed, clear_lines, acknowledged, harmless, nothing, said⟩ |
        ⟨identity, offer, started, secured⟩
      · refine Or.inl ⟨error, failed, clear_lines, acknowledged, harmless, nothing, ?_⟩
        rw [← sent]
        exact said
      · refine Or.inr ⟨identity, offer, started, secured.offered, ?_, secured.outbound⟩
        rw [← sent]
        exact secured.said

end Starting

theorem visit_failed {error : Error} {after : Channel π} {channel : Channel π}
    (begun : begin random files keys channel = (.error error, after))
    (user password : String) (calls : List FollowUp) :
    visit random files keys user password calls channel = after := by
  rcases greeted : readGreeting.run channel with ⟨greeting, middle⟩
  simp only [begin, greeted] at begun
  cases greeting with
  | error error =>
      simp only [visit, signIn, greeted]
      exact congrArg Prod.snd begun
  | ok value =>
      rcases started : startSecure random files keys middle with ⟨⟨outcome, store⟩, done⟩
      simp only [started] at begun
      cases begun
      simp only [visit, signIn, greeted, started, if_true]

theorem visit_begun {identity : String} {after : Channel π} {channel : Channel π}
    (begun : begin random files keys channel = (.ok identity, after))
    (user password : String) (calls : List FollowUp) :
    visit random files keys user password calls channel =
      match (login user password).run after with
      | (.error _, channel) => channel
      | (.ok (), channel) => followUp calls channel := by
  rcases greeted : readGreeting.run channel with ⟨greeting, middle⟩
  simp only [begin, greeted] at begun
  cases greeting with
  | error error => cases begun
  | ok value =>
      rcases started : startSecure random files keys middle with ⟨⟨outcome, store⟩, done⟩
      simp only [started] at begun
      cases begun
      simp only [visit, signIn, greeted, started, if_true]
      rcases (login user password).run after with ⟨result, signed⟩
      cases result with
      | error error => rfl
      | ok value => rfl

def visitLines (user password : String) (calls : List FollowUp) (channel : Channel π) :
    List String :=
  oneLine (Command.login user password).line ++
    match ((login user password).run channel).1 with
    | .error _ => []
    | .ok () => calls.flatMap fun call => oneLine call.command.line

/-- Opening a mailbox secretly, and what is said on it afterwards. If the secure session cannot be
started, nothing more is said; if it can, the login and all that follows go under its cipher. -/
theorem secret_session (user password : String) (calls : List FollowUp) (channel : Channel π)
    (clear : channel.endpoint.cipher = none) :
    (∀ error after, begin random files keys channel = (.error error, after) →
      visit random files keys user password calls channel = after ∧
        Abandoned random files keys channel after) ∧
    (∀ identity after, begin random files keys channel = (.ok identity, after) →
      ∃ offer, Secured random files keys identity offer channel after ∧
        (visit random files keys user password calls channel).endpoint.sent =
          channel.endpoint.sent ++ ["startsecure", Base64.encode offer] ++
            Lane.wires (some random.secrets.cipher.outgoing)
              ("ok" :: visitLines user password calls after)) := by
  constructor
  · intro error after begun
    refine ⟨visit_failed random files keys begun user password calls, ?_⟩
    rcases begin_wrote random files keys clear begun with
      ⟨_, _, abandoned⟩ | ⟨_, _, other, _⟩
    · exact abandoned
    · cases other
  · intro identity after begun
    rcases begin_wrote random files keys clear begun with ⟨_, other, _⟩ | ⟨_, offer, same, secured⟩
    · cases other
    cases same
    refine ⟨offer, secured, ?_⟩
    have under_cipher {lines : List String} {final : Channel π}
        (wrote : Wrote after.endpoint lines final.endpoint) : final.endpoint.sent =
          channel.endpoint.sent ++ ["startsecure", Base64.encode offer] ++
            Lane.wires (some random.secrets.cipher.outgoing) ("ok" :: lines) := by
      rw [wrote.sent, secured.said, secured.outbound, List.append_assoc, ← Lane.wires_append]
      rfl
    have wrote := command_writes (.login user password) after
    change Wrote _ _ ((login user password).run after).2.endpoint at wrote
    rw [visit_begun random files keys begun user password calls, visitLines]
    rcases logged : (login user password).run after with ⟨result, signed⟩
    rw [logged] at wrote
    cases result with
    | error error =>
        simp only [List.append_nil]
        exact under_cipher wrote
    | ok value => exact under_cipher (wrote.append (followUp_wrote calls signed))

def stranger : Channel Wire.Silent :=
  .ofBytes (.ofProtocol "dmap") (Text.utf8 "ok DMAP2.0\nok mallory\nok\n")

def noKeys : Keys.Store := { root := ["keys"], rootName := "keys" }

def neighbour : Channel (Live Session) :=
  Live.connect (.ofProtocol "near") (Session.greet (.ofProtocol "far") fortress)

/-- A server that cannot be reached secretly does not get to see the password. One whose key the
client has gets it, and the calls after it, under the cipher. -/
theorem rebuffed_and_guarded :
    Abandoned equalRandomness {} noKeys stranger
        (visit equalRandomness {} noKeys "dib" "moose" [.request .list, .quit] stranger) ∧
      ∃ offer after,
        begin equalRandomness {} (visitorKeys Rsa.mersenneKey.toPublicKey) neighbour =
          (.ok "planet", after) ∧
        Secured equalRandomness {} (visitorKeys Rsa.mersenneKey.toPublicKey) "planet" offer neighbour
          after ∧
        (visit equalRandomness {} (visitorKeys Rsa.mersenneKey.toPublicKey) "zim" "doom"
            [.request .list, .quit] neighbour).endpoint.sent =
          ["startsecure", Base64.encode offer] ++
            Lane.wires (some equalRandomness.secrets.cipher.outgoing)
              ["ok", "login zim doom", "list", "quit"] := by
  let keys := visitorKeys Rsa.mersenneKey.toPublicKey
  constructor
  · have failed : (begin equalRandomness {} noKeys stranger).1 = .error (.noSuchKey "mallory") := by
      decide +kernel
    rcases begun : begin equalRandomness {} noKeys stranger with ⟨outcome, after⟩
    rw [begun] at failed
    cases failed
    obtain ⟨same, abandoned⟩ := (secret_session equalRandomness {} noKeys "dib" "moose"
      [.request .list, .quit] stranger rfl).1 _ after begun
    rw [same]
    exact abandoned
  · obtain ⟨greeted, read, serving⟩ := serving_start (.ofProtocol "near") (.ofProtocol "far") keys
      fortress_holds
    obtain ⟨known, next, after, started, serving_after⟩ :=
      serving.startSecure_once rfl (fortress_agreed equalRandomness) (by decide +kernel)
    have begun : begin equalRandomness {} keys neighbour = (.ok "planet", after) := by
      simp only [begin, neighbour, read, started]
      rfl
    have formed : (Request.login "zim" "doom").command.WellFormed :=
      ⟨⟨by decide, by decide⟩, by decide, by decide⟩
    obtain ⟨_, signed, performed, _⟩ :=
      serving_after.request fortress_readable formed (by decide +kernel)
    have logged : ((login "zim" "doom").run after).1 = .ok () := by
      rcases asked : (login "zim" "doom").run after with ⟨result, heard⟩
      cases result with
      | error error =>
          have failed : (perform (.login "zim" "doom")).run after = (.error error, heard) :=
            Talk.run_error asked
          rw [failed] at performed
          cases congrArg Prod.fst performed
      | ok value => rfl
    obtain ⟨offer, secured, sent⟩ := (secret_session equalRandomness {} keys "zim" "doom"
      [.request .list, .quit] neighbour rfl).2 "planet" after begun
    rw [visitLines, logged] at sent
    exact ⟨offer, after, begun, secured, sent⟩

end MailExchange.Access.Client
