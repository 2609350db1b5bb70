import MailExchange.Proofs.Access.Direct
import MailExchange.Proofs.Access.Isolation
import MailExchange.Proofs.Wire.HonestHandshake

namespace MailExchange.Access

open Text (Bytes)
open Wire (Carriable Channel Endpoint Lane Linked Live Talk)

theorem Answer.lines_cons (outcome : Except String Answer) :
    ∃ reply replies, Answer.lines outcome = reply :: replies := by
  cases outcome with
  | error text => exact ⟨_, [], rfl⟩
  | ok answer =>
      cases answer with
      | done => exact ⟨_, [], rfl⟩
      | listed summaries =>
          cases summaries with
          | nil => exact ⟨_, [], rfl⟩
          | cons summary summaries => exact ⟨_, _, rfl⟩
      | shown mail => exact ⟨_, _, rfl⟩
      | secured identity => exact ⟨_, [], rfl⟩

theorem agreed_of_opens {files : Files.Tree} {keys : Keys.Store} {site : Site}
    {lock : Rsa.PublicKey} {key : Rsa.PrivateKey} (random : Client.Randomness)
    (known : (keys.publicKey files site.identity).1 = .ok lock)
    (held : (site.keys.privateKey site.files site.identity).1 = .ok key)
    (opens : Rsa.Opens key lock) (enough : Wire.Handshake.offerSize ≤ lock.size)
    (fits : 4 * ((lock.size + 2) / 3) < Wire.maxLine) : Agreed files keys site random := by
  obtain ⟨offer, offered, opened⟩ :=
    Wire.Handshake.offer_opens random.secrets opens random.seed_length enough
  exact ⟨lock, key, offer, known, held, offered, opened,
    Wire.Handshake.offer_carriable offered fits⟩

/-- A session that waits for the next command of a client, and is about the account of direct calls.
As long as it is in clear, the keys are those of the beginning. -/
structure Serving (site : Site) (keys : Keys.Store) (direct : Direct) (kept : Keys.Store)
    (session : Session) (channel : Channel (Live Session)) : Prop where
  linked : Linked session session.endpoint [] channel
  waiting : session.stage = .commands
  running : session.result? = none
  mirrors : session.account.Mirrors direct.account
  secure : session.endpoint.isEncrypted = direct.secure
  identity : session.site.identity = site.identity
  users : session.site.users = site.users
  files : session.site.files = site.files
  clear : direct.secure = false → kept = keys ∧ session.site.keys = site.keys

namespace Serving

variable {site : Site} {files : Files.Tree} {keys kept : Keys.Store} {direct : Direct}
  {session : Session} {channel : Channel (Live Session)}

theorem request (serving : Serving site keys direct kept session channel) {request : Request}
    (readable : direct.account.store.Readable) (formed : request.command.WellFormed)
    (carriable : ∀ line ∈ request.command.line ::
      Answer.lines (direct.account.perform site.users request).1, Carriable direct.secure line) :
    ∃ next after, (Client.perform request).run channel =
        ((direct.account.perform site.users request).1.mapError .remote, after) ∧
      Serving site keys { direct with account := (direct.account.perform site.users request).2 }
        kept next after := by
  obtain ⟨suits, _⟩ := Account.perform_readable readable site.users request
  obtain ⟨same, mirrors⟩ := serving.mirrors.perform site.users request
  obtain ⟨reply, replies, told⟩ := Answer.lines_cons (direct.account.perform site.users request).1
  rw [told, ← serving.secure] at carriable
  let heard := session.hearing request.command.line
  let turned := heard.turn (session.account.perform site.users request).2
  have executed : heard.execute request.command = turned.say (reply :: replies) := by
    rw [Session.execute_request]
    change heard.settle (session.account.perform session.site.users request) = _
    rw [serving.users, Session.settle, same, told]
  have lanes := heard.turn_lanes (session.account.perform site.users request).2
  obtain ⟨middle, asked, linked_middle⟩ := Session.request_linked serving.linked serving.waiting
    serving.running formed carriable executed lanes
  obtain ⟨after, ran, linked_after⟩ := Client.perform_answer suits told asked linked_middle
  have encrypted : (turned.saying (reply :: replies)).endpoint.isEncrypted = direct.secure := by
    rw [Session.saying, Endpoint.wroteAll_isEncrypted, lanes.isEncrypted, ← serving.secure]
    exact session.endpoint.took_isEncrypted request.command.line
  exact ⟨_, after, ran, linked_after, serving.waiting, serving.running, mirrors, encrypted,
    serving.identity, serving.users, serving.files, serving.clear⟩

theorem startSecure_again (serving : Serving site keys direct kept session channel)
    (secure : direct.secure = true) (random : Client.Randomness)
    (carriable : ∀ line ∈ [Command.startSecure.line, "error already secure"],
      Carriable direct.secure line) :
    ∃ next after, Client.startSecure random files kept channel =
        ((.error (.remote "already secure"), kept), after) ∧
      Serving site keys direct kept next after := by
  rw [← serving.secure] at carriable
  let heard := session.hearing Command.startSecure.line
  have encrypted : heard.endpoint.isEncrypted = session.endpoint.isEncrypted :=
    session.endpoint.took_isEncrypted Command.startSecure.line
  have executed : heard.execute .startSecure = heard.say ["error already secure"] :=
    Session.startSecure_again (by rw [encrypted, serving.secure, secure])
  obtain ⟨after, asked, linked_after⟩ := Session.request_linked serving.linked serving.waiting
    serving.running (show Command.startSecure.WellFormed from trivial) carriable executed
    ⟨rfl, rfl, rfl⟩
  have refused : Client.askIdentity.run channel = (.error (.remote "already secure"), after) := by
    rw [Client.askIdentity, Talk.run_ok asked]
    rfl
  refine ⟨_, after, Client.startSecure_unasked refused, linked_after, serving.waiting,
    serving.running, serving.mirrors, ?_, serving.identity, serving.users, serving.files,
    serving.clear⟩
  rw [Session.saying, Endpoint.wroteAll_isEncrypted, encrypted, serving.secure]

theorem startSecure_once (serving : Serving site keys direct kept session channel)
    (in_clear : direct.secure = false) {random : Client.Randomness}
    (agreed : Agreed files keys site random)
    (carriable : ∀ line ∈ [Command.startSecure.line, "ok " ++ site.identity],
      Carriable direct.secure line) :
    ∃ known next after, Client.startSecure random files kept channel =
        ((.ok site.identity, known), after) ∧
      Serving site keys { direct with secure := true } known next after := by
  obtain ⟨lock, key, offer, known, held, offered, opened, offer_carriable⟩ := agreed
  obtain ⟨rfl, same_keys⟩ := serving.clear in_clear
  rw [← serving.secure] at carriable
  rcases looked : kept.publicKey files site.identity with ⟨found, kept_after⟩
  rcases unlocked : site.keys.privateKey site.files site.identity with ⟨private_key, keys_after⟩
  rw [looked] at known
  rw [unlocked] at held
  cases known
  cases held
  let heard := session.hearing Command.startSecure.line
  let next : Session :=
    { heard with site.keys := keys_after, stage := .securing key .offer }
  have encrypted : heard.endpoint.isEncrypted = false := by
    rw [← in_clear, ← serving.secure]
    exact session.endpoint.took_isEncrypted Command.startSecure.line
  have executed : heard.execute .startSecure = next.say ["ok " ++ site.identity] := by
    rw [← serving.identity]
    apply Session.startSecure_first encrypted
    change session.site.keys.privateKey session.site.files session.site.identity = _
    rw [same_keys, serving.files, serving.identity, unlocked]
  obtain ⟨middle, asked, linked_middle⟩ := Session.request_linked serving.linked serving.waiting
    serving.running (show Command.startSecure.WellFormed from trivial) carriable executed
    ⟨rfl, rfl, rfl⟩
  have clear : (next.saying ["ok " ++ site.identity]).endpoint.cipher = none := by
    apply Endpoint.cipher_none
    rw [Session.saying, Endpoint.wroteAll_isEncrypted]
    exact encrypted
  obtain ⟨after, shaken, linked_after⟩ := Session.secure_linked linked_middle rfl serving.running
    clear offered opened offer_carriable
  have announced : Client.askIdentity.run channel = (.ok site.identity, middle) := by
    rw [Client.askIdentity, Talk.run_ok asked,
      Client.readIdentity_ok (Keys.Store.publicKey_named looked)]
    rfl
  exact ⟨kept_after, _, after, Client.startSecure_shaken announced looked shaken, linked_after, rfl,
    serving.running, serving.mirrors, rfl, serving.identity, serving.users, serving.files,
    fun unsecured => Bool.noConfusion unsecured⟩

theorem call (serving : Serving site keys direct kept session channel) {made : Call}
    (readable : direct.account.store.Readable) (formed : made.command.WellFormed)
    (carriable : ∀ line ∈ made.command.line ::
      Answer.lines (direct.call site.users site.identity made).1, Carriable direct.secure line)
    (agreed : ∀ random, made = .startSecure random → direct.secure = false →
      Agreed files keys site random) :
    ∃ known next after, Client.call files kept channel made =
        ((direct.call site.users site.identity made).1.mapError .remote, known, after) ∧
      Serving site keys (direct.call site.users site.identity made).2 known next after := by
  cases made with
  | request asked =>
      obtain ⟨next, after, ran, serving_after⟩ := serving.request readable formed carriable
      refine ⟨kept, next, after, ?_, serving_after⟩
      rw [Client.call, ran]
      rfl
  | startSecure random =>
      rw [Direct.call] at carriable ⊢
      cases secure : direct.secure with
      | true =>
          rw [secure, if_pos rfl, ← secure] at carriable
          obtain ⟨next, after, started, serving_after⟩ :=
            serving.startSecure_again secure random carriable
          refine ⟨kept, next, after, ?_, serving_after⟩
          rw [Client.call, started]
          rfl
      | false =>
          rw [secure, if_neg Bool.false_ne_true, ← secure] at carriable
          obtain ⟨known, next, after, started, serving_after⟩ :=
            serving.startSecure_once secure (agreed random rfl secure) carriable
          refine ⟨known, next, after, ?_, serving_after⟩
          rw [Client.call, started]
          rfl

theorem calls (serving : Serving site keys direct kept session channel) {made : List Call}
    (readable : direct.account.store.Readable) (possible : Possible files keys site direct made) :
    ∃ known next after, Client.calls files kept channel made =
        ((direct.calls site.users site.identity made).1.map (·.mapError .remote), after) ∧
      Serving site keys (direct.calls site.users site.identity made).2 known next after := by
  induction made generalizing direct kept session channel with
  | nil => exact ⟨kept, session, channel, rfl, serving⟩
  | cons first later ih =>
      obtain ⟨formed, carriable, agreed, possible_later⟩ := possible
      obtain ⟨middle_keys, middle, heard, called, serving_middle⟩ :=
        serving.call readable formed carriable agreed
      obtain ⟨known, next, after, called_later, serving_after⟩ :=
        ih serving_middle (direct.call_readable readable first) possible_later
      refine ⟨known, next, after, ?_, serving_after⟩
      simp only [Client.calls, called, called_later]
      rfl

end Serving

theorem serving_start (label far_label : LogPrefix) {site : Site} {shelves : Shelves}
    (keys : Keys.Store) (holds : site.mailboxes.Holds shelves) :
    ∃ greeted, Client.readGreeting.run (Live.connect label (Session.greet far_label site)) =
        (.ok (), greeted) ∧
      Serving site keys ⟨⟨none, shelves⟩, false⟩ keys (Session.greet far_label site) greeted := by
  obtain ⟨greeted, read, linked⟩ := Session.greet_linked label far_label site
  exact ⟨greeted, read, linked, rfl, rfl, ⟨rfl, holds⟩, rfl, rfl, rfl, rfl, fun _ => ⟨rfl, rfl⟩⟩

/-- The calls of a client on a connection that it has just opened are direct calls on the shelves:
each returns what the direct call returns, with a refusal as an error of the far end, and in the end
the mailboxes hold what the direct calls have left. -/
theorem calls_direct (label far_label : LogPrefix) {site : Site} {shelves : Shelves}
    {files : Files.Tree} {keys : Keys.Store} {calls : List Call}
    (holds : site.mailboxes.Holds shelves) (readable : shelves.Readable)
    (possible : Possible files keys site ⟨⟨none, shelves⟩, false⟩ calls) :
    let direct := Direct.calls site.users site.identity ⟨⟨none, shelves⟩, false⟩ calls
    ∃ greeted after,
      Client.readGreeting.run (Live.connect label (Session.greet far_label site)) =
        (.ok (), greeted) ∧
      Client.calls files keys greeted calls = (direct.1.map (·.mapError .remote), after) ∧
      after.peer.session.user = direct.2.account.user ∧
      after.peer.session.site.mailboxes.Holds direct.2.account.store ∧
      after.endpoint.isEncrypted = direct.2.secure ∧ after.unread = [] := by
  intro direct
  obtain ⟨greeted, read, serving⟩ := serving_start label far_label keys holds
  obtain ⟨_, next, after, called, serving_after⟩ := serving.calls readable possible
  have session : after.peer.session = next := by rw [serving_after.linked.peer]
  refine ⟨greeted, after, read, called, ?_, ?_, ?_, serving_after.linked.unread⟩
  · rw [session]
    exact serving_after.mirrors.user
  · rw [session]
    exact serving_after.mirrors.holds
  · rw [serving_after.linked.isEncrypted, serving_after.secure]

def doom : Mail := ⟨"dib@earth.planet", ["zim@earth.planet"], "doom", "Your planet is doomed", none⟩

def moreDoom : Mail := { doom with subject := "more doom", tag := some "AAAA" }

def Client.equalRandomness : Client.Randomness where
  secrets := Wire.Handshake.equalSecrets
  seed := List.replicate Rsa.Oaep.hashSize 4
  seed_length := List.length_replicate

def ownKeys (key : Rsa.PrivateKey) : Keys.Store :=
  { root := [], rootName := "", privateKeys := [("planet", key)] }

def visitorKeys (lock : Rsa.PublicKey) : Keys.Store :=
  { root := [], rootName := "", publicKeys := [("planet", lock)] }

def fortress : Site :=
  { planet [(1, doom), (2, moreDoom)] with keys := ownKeys Rsa.mersenneKey }

theorem fortress_list (user : String) : fortress.mailboxes.list user =
    if user = "zim" then [(1, doom), (2, moreDoom)] else [] := by
  by_cases same : user = "zim"
  · rw [same]
    rfl
  · have skipped : ("zim" == user) = false := beq_false_of_ne (Ne.symm same)
    simp [fortress, planet, Mailboxes.list, Mailboxes.box, skipped, same]

theorem fortress_holds : fortress.mailboxes.Holds fortress.mailboxes.shelves := by
  apply Mailboxes.holds_shelves
  intro user
  rw [fortress_list]
  split
  · exact List.pairwise_pair.mpr (by decide)
  · exact List.Pairwise.nil

theorem fortress_readable : fortress.mailboxes.shelves.Readable := by
  have both : Client.Readable doom ∧ Client.Readable moreDoom := by
    constructor <;> exact ⟨by decide, by decide, by decide, by decide⟩
  apply fortress_holds.readable
  intro user message member
  rw [fortress_list] at member
  split at member
  · simp only [List.mem_cons, List.not_mem_nil, or_false] at member
    rcases member with rfl | rfl
    · exact both.1
    · exact both.2
  · cases member

theorem fortress_agreed (random : Client.Randomness) :
    Agreed {} (visitorKeys Rsa.mersenneKey.toPublicKey) fortress random := by
  have enough : Wire.Handshake.offerSize ≤ Rsa.mersenneKey.size := by decide +kernel
  have fits : 4 * ((Rsa.mersenneKey.size + 2) / 3) < Wire.maxLine := by decide +kernel
  have known (lock : Rsa.PublicKey) :
      ((visitorKeys lock).publicKey {} "planet").1 = .ok lock := rfl
  have held (key : Rsa.PrivateKey) : ((ownKeys key).privateKey {} "planet").1 = .ok key := rfl
  exact agreed_of_opens random (known _) (held _) Rsa.mersenneKey_genuine.opens enough fits

theorem fortress_calls : ∃ greeted after,
    Client.readGreeting.run (Live.connect (.ofProtocol "near") (Session.greet (.ofProtocol "far")
      fortress)) = (.ok (), greeted) ∧
    Client.calls {} (visitorKeys Rsa.mersenneKey.toPublicKey) greeted
        [.request .list, .startSecure Client.equalRandomness,
          .startSecure Client.equalRandomness, .request (.login "zim" "doom"),
          .request (.delete 1), .request (.view 1), .request (.view 2), .request .list] =
      ([.error (.remote "not logged in"), .ok (.secured "planet"),
        .error (.remote "already secure"), .ok .done, .ok .done,
        .error (.remote "unknown message id"), .ok (.shown moreDoom),
        .ok (.listed [⟨2, "dib@earth.planet", "more doom"⟩])], after) := by
  have possible : Possible {} (visitorKeys Rsa.mersenneKey.toPublicKey) fortress
      ⟨⟨none, fortress.mailboxes.shelves⟩, false⟩
      [.request .list, .startSecure Client.equalRandomness,
        .startSecure Client.equalRandomness, .request (.login "zim" "doom"),
        .request (.delete 1), .request (.view 1), .request (.view 2), .request .list] := by
    have login : (Command.login "zim" "doom").WellFormed :=
      ⟨⟨by decide, by decide⟩, by decide, by decide⟩
    have first : (1 : MessageId).toNat < 10 ^ 19 := by decide
    have second : (2 : MessageId).toNat < 10 ^ 19 := by decide
    refine ⟨trivial, by decide +kernel, fun random _ _ => fortress_agreed random, ?_⟩
    refine ⟨trivial, by decide +kernel, fun random _ _ => fortress_agreed random, ?_⟩
    refine ⟨trivial, by decide +kernel, fun random _ _ => fortress_agreed random, ?_⟩
    refine ⟨login, by decide +kernel, fun random _ _ => fortress_agreed random, ?_⟩
    refine ⟨first, by decide +kernel, fun random _ _ => fortress_agreed random, ?_⟩
    refine ⟨first, by decide +kernel, fun random _ _ => fortress_agreed random, ?_⟩
    refine ⟨second, by decide +kernel, fun random _ _ => fortress_agreed random, ?_⟩
    exact ⟨trivial, by decide +kernel, fun random _ _ => fortress_agreed random, trivial⟩
  obtain ⟨greeted, after, read, called, _⟩ := calls_direct (.ofProtocol "near")
    (.ofProtocol "far") fortress_holds fortress_readable possible
  refine ⟨greeted, after, read, called.trans ?_⟩
  exact congrArg (·, after) (by decide +kernel)

end MailExchange.Access
