import MailExchange.Proofs.Access.Calls
import MailExchange.Proofs.Access.Said

namespace MailExchange.Access

open Text (Bytes)
open Wire (Cipher Endpoint Frame Lane Moment Wrote)
open Wire.Handshake (challenge step_responds)
open Wire.Session (Passes)

def spoken (moments : List (Moment Session)) : List String :=
  moments.flatMap fun moment => moment.before.said moment.frame

namespace Session

variable {session : Session} {frame : Option Frame}

section Staying

@[simp] theorem say_stage (session : Session) (lines : List String) :
    (session.say lines).stage = session.stage := by
  rw [say]
  split <;> rfl

theorem execute_stage (secret : session.endpoint.isEncrypted = true) (command : Command) :
    (session.execute command).stage = session.stage := by
  have requested (request : Request) :
      (session.execute request.command).stage = session.stage := by
    rw [execute_request, settle, say_stage, turn]
  cases command with
  | startSecure => rw [execute, startSecure_again secret, say_stage]
  | quit => exact say_stage { session with user := none } ["ok bye"]
  | login user password => exact requested (.login user password)
  | list => exact requested .list
  | view id => exact requested (.view id)
  | delete id => exact requested (.delete id)
  | logout => exact requested .logout

theorem interpret_stage (secret : session.endpoint.isEncrypted = true) (line : String) :
    (session.interpret line).stage = session.stage := by
  rw [interpret]
  cases Command.parse? line with
  | some command => exact execute_stage secret command
  | none => exact session.say_stage ["error protocol error"]

end Staying

def Secured (session : Session) : Prop :=
  session.result? = none →
    session.endpoint.isEncrypted = true ∧ ∀ key, session.stage ≠ .securing key .offer

theorem Secured.ordinary (secured : session.Secured) (running : session.result? = none)
    (frame : Option Frame) : session.accepted? frame = none := by
  cases accepted : session.accepted? frame with
  | none => rfl
  | some offer =>
      obtain ⟨key, _, waiting, _⟩ := take_challenged accepted
      exact absurd waiting ((secured running).2 key)

theorem Secured.take (secured : session.Secured) (frame : Option Frame)
    (running : session.result? = none) : (session.take frame).Secured := by
  obtain ⟨secret, no_offer⟩ := secured running
  cases stage : session.stage with
  | commands =>
      cases read : (session.endpoint.decode frame).1 with
      | error error =>
          rcases decoded : session.endpoint.decode frame with ⟨result, after⟩
          rw [decoded] at read
          cases read
          intro still_running
          simp only [Session.take, stage, decoded] at still_running
          cases still_running
      | ok line =>
          have heard : (session.hearing line).endpoint.isEncrypted = true := by
            rw [hearing, Endpoint.took_isEncrypted, secret]
          intro _
          rw [take_read stage read, ((session.hearing line).interpret_said line).isEncrypted,
            interpret_stage heard]
          exact ⟨heard, no_offer⟩
  | securing key awaited =>
      have responds := step_responds key.decrypt awaited session.endpoint frame
      intro still_running
      simp only [Session.take, stage, secure] at still_running ⊢
      generalize Wire.Handshake.step key.decrypt awaited session.endpoint frame = stepped
        at responds still_running ⊢
      cases responds with
      | failed sent clear => cases still_running
      | challenged read opened => exact absurd stage (no_offer key)
      | acknowledged read =>
          exact ⟨(session.endpoint.took_isEncrypted "ok").trans secret,
            fun other offer => Stage.noConfusion offer⟩

/-- A session whose handshake fails with this frame. -/
def FailsWith (session : Session) (frame : Option Frame) (error : Error) : Prop :=
  ∃ key awaited, session.stage = .securing key awaited ∧
    (Wire.Handshake.step key.decrypt awaited session.endpoint frame).1 = .error error

theorem take_failed {error : Error} (fails : session.FailsWith frame error)
    (running : session.result? = none) :
    (session.take frame).result? = some (.error error) ∧
      (session.take frame).endpoint.sent = session.endpoint.sent := by
  obtain ⟨key, awaited, stage, failed⟩ := fails
  have responds := step_responds key.decrypt awaited session.endpoint frame
  simp only [Session.take, stage, secure]
  generalize Wire.Handshake.step key.decrypt awaited session.endpoint frame = stepped
    at responds failed ⊢
  cases responds with
  | failed sent clear =>
      cases failed
      exact ⟨by simp only [finish, running, Option.getD_none], sent⟩
  | challenged read opened => cases failed
  | acknowledged read => cases failed

theorem take_startSecure_again {line : String} (waiting : session.stage = .commands)
    (secret : session.endpoint.isEncrypted = true)
    (read : (session.endpoint.decode frame).1 = .ok line)
    (asked : Command.parse? line = some .startSecure) :
    session.take frame =
      { session with
        endpoint := (session.endpoint.took line).wrote "error already secure" } := by
  have heard : (session.hearing line).endpoint.isEncrypted = true := by
    rw [hearing, Endpoint.took_isEncrypted, secret]
  have one_line : ∀ line ∈ ["error already secure"], '\n' ∉ line.toList := by decide
  rw [take_read waiting read, interpret, asked]
  change (session.hearing line).startSecure = _
  rw [startSecure_again heard, say_wrote _ one_line]
  rfl

end Session

section Trails

variable {start final : Session} {moments earlier later : List (Moment Session)}
  {moment : Moment Session} {nonce : Bytes} {cipher : Cipher}

theorem passes_said (passes : Passes start moments final)
    (ordinary : ∀ moment ∈ moments, moment.before.accepted? moment.frame = none) :
    final.endpoint.sent = start.endpoint.sent ++ start.endpoint.outbound.wires (spoken moments) := by
  induction moments generalizing start with
  | nil =>
      rw [show final = start from passes]
      exact (List.append_nil _).symm
  | cons moment later ih =>
      obtain ⟨rfl, _, passes_later⟩ := passes
      obtain ⟨sent, outbound⟩ := Session.take_said (ordinary moment List.mem_cons_self)
      have sent_later := ih passes_later fun other member =>
        ordinary other (List.mem_cons_of_mem moment member)
      have lane : moment.after.endpoint.outbound.wires (spoken later) =
          (moment.before.endpoint.outbound.afterAll (moment.before.said moment.frame)).wires
            (spoken later) := by
        cases finished : Wire.Session.isOver moment.after with
        | true =>
            rw [(passes_later.nothing_left finished).1]
            rfl
        | false => rw [← outbound (Wire.Session.isOver_iff.mp finished)]; rfl
      have sent_now : moment.after.endpoint.sent = moment.before.endpoint.sent ++
          moment.before.endpoint.outbound.wires (moment.before.said moment.frame) := sent
      have all : spoken (moment :: later) = moment.before.said moment.frame ++ spoken later :=
        List.flatMap_cons
      rw [sent_later, lane, sent_now, all, Lane.wires_append, List.append_assoc]

theorem passes_secured (passes : Passes start moments final) (secured : start.Secured) :
    ∀ moment ∈ moments, moment.before.accepted? moment.frame = none := by
  intro moment member
  obtain ⟨earlier, later, rfl⟩ := List.append_of_mem member
  obtain ⟨passes_earlier, running, _⟩ := passes.cut
  have still_secured : moment.before.Secured :=
    passes_earlier.induction (P := Session.Secured)
      (fun moment running secured =>
        secured.take moment.frame (Wire.Session.isOver_iff.mp running)) secured
  exact still_secured.ordinary (Wire.Session.isOver_iff.mp running) moment.frame

/-- A moment that accepts an offer begins a new lane with the challenge. -/
theorem accepted_challenge (accepted : moment.before.accepted? moment.frame = some (nonce, cipher)) :
    moment.after.Secured ∧
      moment.after.endpoint.sent =
        moment.before.endpoint.sent ++ [Lane.wire (some cipher.outgoing) (challenge nonce)] ∧
      moment.after.endpoint.outbound = Lane.after (some cipher.outgoing) (challenge nonce) := by
  obtain ⟨key, line, _, _, taken⟩ := Session.take_challenged accepted
  have after : moment.after = _ := taken
  rw [after]
  refine ⟨fun _ => ⟨?_, fun other offer => ?_⟩, rfl, ?_⟩
  · rw [Endpoint.wrote_isEncrypted]
    rfl
  · cases offer
  · rw [Endpoint.wrote_outbound]
    rfl

theorem accepted_once (passes : Passes start (earlier ++ moment :: later) final)
    (accepted : moment.before.accepted? moment.frame = some (nonce, cipher)) :
    ∀ other ∈ earlier ++ later, other.before.accepted? other.frame = none := by
  intro other member
  rcases List.mem_append.mp member with before | behind
  · cases also : other.before.accepted? other.frame with
    | none => rfl
    | some offer =>
        obtain ⟨first, second, rfl⟩ := List.append_of_mem before
        rw [List.append_assoc, List.cons_append] at passes
        have none_after := passes_secured passes.cut.2.2 (accepted_challenge also).1 moment
          (List.mem_append_right second List.mem_cons_self)
        rw [none_after] at accepted
        cases accepted
  · exact passes_secured passes.cut.2.2 (accepted_challenge accepted).1 other behind

/-- All that is said before an accepted offer goes out on the first lane, and all that is said after it
on the new one. -/
theorem passes_accepted (passes : Passes start (earlier ++ moment :: later) final)
    (accepted : moment.before.accepted? moment.frame = some (nonce, cipher)) :
    final.endpoint.sent =
      start.endpoint.sent ++ start.endpoint.outbound.wires (spoken earlier) ++
        Lane.wires (some cipher.outgoing) (challenge nonce :: spoken later) := by
  have once := accepted_once passes accepted
  obtain ⟨passes_earlier, _, passes_later⟩ := passes.cut
  obtain ⟨_, sent, lane⟩ := accepted_challenge accepted
  have before := passes_said passes_earlier fun other member =>
    once other (List.mem_append_left later member)
  have after := passes_said passes_later fun other member =>
    once other (List.mem_append_right earlier member)
  rw [after, sent, lane, before, List.append_assoc]
  rfl

end Trails

/-- Whatever a session is sent, it writes in clear up to the first offer that it accepts, and then
everything under the one cipher of that offer, the challenge first. If a handshake fails, nothing
follows; and a session that is secret stays under its cipher when it is asked to become so. -/
theorem never_downgraded (label : LogPrefix) (site : Site) (input : Bytes) :
    let trail := Wire.Session.trail (Session.greet label site) input
    let final := Wire.Session.run (Session.greet label site) input
    ((∀ moment ∈ trail, moment.before.accepted? moment.frame = none) →
      final.endpoint.sent = greeting :: spoken trail) ∧
    (∀ earlier moment later nonce cipher, trail = earlier ++ moment :: later →
      moment.before.accepted? moment.frame = some (nonce, cipher) →
      final.endpoint.sent = greeting :: spoken earlier ++
        Lane.wires (some cipher.outgoing) (challenge nonce :: spoken later) ∧
      (∃ key iv, key.length = 32 ∧ iv.length = 16 ∧ cipher = Cipher.start key iv .responder) ∧
      ∀ other ∈ earlier ++ later, other.before.accepted? other.frame = none) ∧
    (∀ earlier moment later error, trail = earlier ++ moment :: later →
      moment.before.FailsWith moment.frame error →
      later = [] ∧ final.result? = some (.error error) ∧
      final.endpoint.sent = moment.before.endpoint.sent) ∧
    (∀ (session : Session) (frame : Option Frame) (line : String),
      session.stage = .commands → session.endpoint.isEncrypted = true →
      (session.endpoint.decode frame).1 = .ok line → Command.parse? line = some .startSecure →
      session.take frame =
        { session with
          endpoint := (session.endpoint.took line).wrote "error already secure" }) := by
  intro trail final
  have passes : Passes (Session.greet label site) trail final :=
    Wire.Session.trail_passes (Session.greet label site) input
  have in_clear (lines : List String) :
      (Session.greet label site).endpoint.sent ++
        (Session.greet label site).endpoint.outbound.wires lines = greeting :: lines := by
    have clear : (Session.greet label site).endpoint.outbound = none := rfl
    rw [clear, Lane.wires_clear]
    rfl
  refine ⟨?_, ?_, ?_, ?_⟩
  · intro ordinary
    rw [passes_said passes ordinary, in_clear]
  · intro earlier moment later nonce cipher cut accepted
    rw [cut] at passes
    obtain ⟨key, line, _, opened, _⟩ := Session.take_challenged accepted
    refine ⟨?_, Wire.Handshake.openOffer_cipher opened, accepted_once passes accepted⟩
    rw [passes_accepted passes accepted, in_clear]
  · intro earlier moment later error cut fails
    rw [cut] at passes
    obtain ⟨_, running, passes_later⟩ := passes.cut
    have failed := Session.take_failed fails (Wire.Session.isOver_iff.mp running)
    have finished : Wire.Session.isOver moment.after = true := congrArg Option.isSome failed.1
    obtain ⟨nothing, same⟩ := passes_later.nothing_left finished
    rw [same]
    exact ⟨nothing, failed⟩
  · intro session frame line waiting secret read asked
    exact Session.take_startSecure_again waiting secret read asked

section Offered

variable {key : Rsa.PrivateKey} {keys : Keys.Store} {secrets : Wire.Handshake.Secrets}
  {locked : Bytes}

theorem trail_offered (label : LogPrefix) (site : Site)
    (held : site.keys.privateKey site.files site.identity = (.ok key, keys))
    (named : '\n' ∉ ("ok " ++ site.identity).toList)
    (carriable : Wire.Carriable false (Base64.encode locked))
    (opened : key.decrypt locked = .ok (Text.utf8 secrets.offer)) :
    let offer : Frame := .line (Text.utf8 (Base64.encode locked))
    ∃ asked, asked.accepted? (some offer) = some (secrets.nonce, secrets.mirror) ∧
      (asked.take (some offer)).FailsWith none .unexpectedEof ∧
      Wire.Session.trail (Session.greet label site)
        (Wire.lineBytes "startsecure" ++ Wire.lineBytes (Base64.encode locked)) =
        [⟨Session.greet label site, some (.line (Text.utf8 "startsecure"))⟩] ++
          ⟨asked, some offer⟩ :: [⟨asked.take (some offer), none⟩] := by
  intro offer
  let greeted := Session.greet label site
  let held_session : Session :=
    { greeted.hearing "startsecure" with site.keys := keys, stage := .securing key .offer }
  let asked := held_session.saying ["ok " ++ site.identity]
  have asking : Wire.Carriable false "startsecure" := by decide
  have heard : (greeted.endpoint.decode (some (.line (Text.utf8 "startsecure")))).1 =
      .ok "startsecure" := congrArg Prod.fst (greeted.endpoint.decode_wire asking)
  have one_line : ∀ line ∈ ["ok " ++ site.identity], '\n' ∉ line.toList := by
    intro line member
    rw [List.mem_singleton.mp member]
    exact named
  have announces : greeted.take (some (.line (Text.utf8 "startsecure"))) = asked := by
    rw [Session.take_read rfl heard]
    exact (Session.startSecure_first rfl held).trans (held_session.say_wrote one_line)
  have challenges : asked.take (some offer) =
      { asked with
        endpoint := secrets.challenging asked.endpoint locked
        stage := .securing key .acknowledgement } :=
    Session.take_offer rfl rfl carriable opened
  have accepts : asked.accepted? (some offer) = some (secrets.nonce, secrets.mirror) := by
    have read : (asked.endpoint.decode (some offer)).1 = .ok (Base64.encode locked) :=
      congrArg Prod.fst (asked.endpoint.decode_wire carriable)
    have stage : asked.stage = .securing key .offer := rfl
    simp only [Session.accepted?, stage, read, Wire.Handshake.Secrets.openOffer_offer opened]
    rfl
  refine ⟨asked, accepts, ?_, ?_⟩
  · rw [challenges]
    exact ⟨key, .acknowledgement, rfl, rfl⟩
  · have first_fits : Wire.Fits "startsecure" := @Wire.Carriable.fits none _ asking
    have second_fits : Wire.Fits (Base64.encode locked) := @Wire.Carriable.fits none _ carriable
    have running : Wire.Session.isOver greeted = false := rfl
    have still_running : Wire.Session.isOver asked = false := rfl
    have left : Wire.Session.isOver (Wire.Session.take asked (some offer)) = false :=
      congrArg (fun session => session.result?.isSome) challenges
    have taken : Wire.Session.take greeted (some (.line (Text.utf8 "startsecure"))) = asked :=
      announces
    change Wire.Session.trail greeted _ = _
    rw [Wire.Session.trail_frame running (Wire.takeFrame_fits first_fits _), taken,
      ← List.append_nil (Wire.lineBytes (Base64.encode locked)),
      Wire.Session.trail_frame still_running (Wire.takeFrame_fits second_fits []),
      Wire.Session.trail_pending left Wire.takeFrame_nil]
    rfl

end Offered

theorem fortress_challenged : ∃ input,
    (Wire.Session.run (Session.greet (.ofProtocol "far") fortress) input).endpoint.sent =
        [greeting, "ok planet"] ++
          Lane.wires (some Wire.Handshake.equalSecrets.mirror.outgoing)
            [challenge Wire.Handshake.equalSecrets.nonce] ∧
      (Wire.Session.run (Session.greet (.ofProtocol "far") fortress) input).result? =
        some (.error .unexpectedEof) := by
  have enough : Wire.Handshake.offerSize ≤ Rsa.mersenneKey.size := by decide +kernel
  have fits : 4 * ((Rsa.mersenneKey.size + 2) / 3) < Wire.maxLine := by decide +kernel
  obtain ⟨locked, offered, opened⟩ := Wire.Handshake.offer_opens Wire.Handshake.equalSecrets
    Rsa.mersenneKey_genuine.opens Client.equalRandomness.seed_length enough
  have held (key : Rsa.PrivateKey) : (ownKeys key).privateKey {} "planet" =
      (.ok key, ((ownKeys key).privateKey {} "planet").2) := rfl
  obtain ⟨asked, accepts, fails, trail⟩ := trail_offered (.ofProtocol "far") fortress
    (held Rsa.mersenneKey) (by decide) (Wire.Handshake.offer_carriable offered fits) opened
  have never := never_downgraded (.ofProtocol "far") fortress
    (Wire.lineBytes "startsecure" ++ Wire.lineBytes (Base64.encode locked))
  refine ⟨_, ?_, (never.2.2.1 [_, _] _ [] _ trail fails).2.1⟩
  obtain ⟨_, _, stage, _⟩ := fails
  rw [(never.2.1 _ _ _ _ _ trail accepts).1]
  simp only [spoken, List.flatMap_cons, List.flatMap_nil, Session.said, stage]
  rfl

end MailExchange.Access
