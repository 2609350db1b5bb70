import MailExchange.Proofs.Wire.Deciphering
import MailExchange.Proofs.Wire.HonestHandshake
import MailExchange.Proofs.Wire.Responding

/-!
The responder's side of a handshake, over all that an initiator may send. It goes from the offer to the
acknowledgement, or fails at either; whichever way it fails, it is in clear again and has not said more.
-/

namespace MailExchange.Wire.Handshake

open Text (Bytes)

/-- A stream whose next line is an offer. -/
def Offered (unlock : Bytes → Except Error Bytes) (input nonce key iv rest : Bytes) : Prop :=
  ∃ line, NextLine input line rest ∧ OfferLine unlock line nonce key iv

def Acknowledged (key iv input : Bytes) : Prop :=
  ∃ line rest, NextLine input line rest ∧ Deciphers key iv .initiator line "ok"

theorem Offered.iv_length {unlock : Bytes → Except Error Bytes} {input nonce key iv rest : Bytes}
    (offered : Offered unlock input nonce key iv rest) : iv.length = 16 := by
  rcases offered with ⟨_, _, _, _, _, _, offers⟩
  exact offers.iv_length

section Steps

variable {unlock : Bytes → Except Error Bytes} {endpoint after : Endpoint} {frame : Option Frame}
  {awaited : Awaited} {error : Error}

theorem step_failed (failed : step unlock awaited endpoint frame = (.error error, after)) :
    after.sent = endpoint.sent ∧ after.cipher = none := by
  have responds := step_responds unlock awaited endpoint frame
  rw [failed] at responds
  cases responds with
  | failed sent clear => exact ⟨sent, clear⟩

theorem step_label (failed : step unlock awaited endpoint frame = (.error error, after)) :
    after.label = endpoint.label := by
  have same := endpoint.decode_label frame
  rcases decoded : endpoint.decode frame with ⟨result, heard⟩
  rw [decoded] at same
  cases result with
  | error unread =>
      simp only [step, decoded] at failed
      cases failed
      exact same
  | ok line =>
      cases awaited with
      | offer =>
          cases opened : openOffer unlock line with
          | error unopened =>
              simp only [step, decoded, answerOffer, opened] at failed
              cases failed
              exact same
          | ok offer =>
              have read : (endpoint.decode frame).1 = .ok line := by rw [decoded]
              rw [step_challenged read opened] at failed
              cases failed
      | acknowledgement =>
          cases checked : checkAcknowledgement line with
          | error unacknowledged =>
              simp only [step, decoded, checked] at failed
              cases failed
              exact same
          | ok value =>
              simp only [step, decoded, checked] at failed
              cases failed

end Steps

namespace Responder

/-- A responder that has failed, and has not said anything since. -/
structure Failed (before : Endpoint) (responder : Responder) : Prop where
  result : ∃ error, responder.result? = some (.error error)
  sent : responder.endpoint.sent = before.sent
  clear : responder.endpoint.cipher = none
  label : responder.endpoint.label = before.label

structure Secured (before : Endpoint) (key iv : Bytes) (responder : Responder) : Prop where
  result : responder.result? = some (.ok ())
  sent : responder.endpoint.sent = before.sent
  cipher : ∃ cipher, responder.endpoint.cipher = some cipher ∧ cipher.key = key ∧ cipher.iv = iv
  label : responder.endpoint.label = before.label.withSecure true

theorem Failed.not_ok {before : Endpoint} {responder : Responder} (failed : Failed before responder) :
    responder.result? ≠ some (.ok ()) := by
  rcases failed.result with ⟨error, result⟩
  rw [result]
  simp only [ne_eq, Option.some.injEq, reduceCtorEq, not_false_eq_true]

/-- A responder that has come to a result: it is encrypted, and marked as secure, just if it succeeded. -/
structure Settled (responder : Responder) : Prop where
  result : ∃ result, responder.result? = some result
  encrypted : responder.endpoint.isEncrypted = true ↔ responder.result? = some (.ok ())
  marked : responder.endpoint.label.secure = true ↔ responder.result? = some (.ok ())

theorem Failed.settled {before : Endpoint} {responder : Responder} (failed : Failed before responder)
    (unmarked : before.label.secure = false) : Settled responder := by
  have plain : responder.endpoint.isEncrypted = false := by rw [Endpoint.isEncrypted, failed.clear]; rfl
  have open_label : responder.endpoint.label.secure = false := by rw [failed.label, unmarked]
  rcases failed.result with ⟨error, result⟩
  refine ⟨⟨_, result⟩, ?_, ?_⟩
  · simp only [plain, Bool.false_eq_true, failed.not_ok]
  · simp only [open_label, Bool.false_eq_true, failed.not_ok]

theorem Secured.settled {before : Endpoint} {key iv : Bytes} {responder : Responder}
    (secured : Secured before key iv responder) : Settled responder := by
  have encrypted : responder.endpoint.isEncrypted = true := by
    rcases secured.cipher with ⟨cipher, found, _⟩
    rw [Endpoint.isEncrypted, found]
    rfl
  have marked : responder.endpoint.label.secure = true := by
    rw [secured.label]
    rfl
  exact ⟨⟨_, secured.result⟩, iff_of_true encrypted secured.result,
    iff_of_true marked secured.result⟩

def challenged (unlocking : Rsa.PrivateKey) (far : Endpoint) (line : String)
    (nonce key iv : Bytes) : Responder where
  key := unlocking
  endpoint :=
    ((far.took line).withCipher (some (Cipher.start key iv .responder))).wrote (challenge nonce)
  awaited := .acknowledgement

section Running

variable {unlocking : Rsa.PrivateKey} {far : Endpoint} {line : String}
  {input nonce key iv rest : Bytes}

theorem run_failed {session : Responder} {error : Error} {after : Endpoint}
    (running : session.result? = none)
    (failed : step session.key.decrypt session.awaited session.endpoint
      ((takeFrame? input).map Prod.fst) = (.error error, after)) :
    Failed session.endpoint (Session.run session input) := by
  have not_over : Session.isOver session = false := Session.isOver_iff.mpr running
  have taken : Session.take session ((takeFrame? input).map Prod.fst) =
      { session with endpoint := after, result? := some (.error error) } := by
    change session.take _ = _
    rw [take, failed]
  have ended : Session.run session input =
      { session with endpoint := after, result? := some (.error error) } := by
    cases found : takeFrame? input with
    | none =>
        rw [found] at taken
        rw [Session.run_pending not_over found]
        exact taken
    | some cut =>
        rcases cut with ⟨frame, rest⟩
        rw [found, Option.map_some] at taken
        rw [Session.run_frame not_over found, taken]
        exact Session.run_over rfl rest
  rcases step_failed failed with ⟨sent, clear⟩
  rw [ended]
  exact ⟨⟨error, rfl⟩, sent, clear, step_label failed⟩

theorem run_offered (clear : far.cipher = none)
    (offered : Offered unlocking.decrypt input nonce key iv rest) :
    ∃ line, Session.run ({ key := unlocking, endpoint := far } : Responder) input =
      Session.run (challenged unlocking far line nonce key iv) rest := by
  rcases offered with ⟨line, next, offer⟩
  rcases nextLine_frame.mp next with ⟨bytes, found, _⟩
  have read : (far.decode (some (.line bytes))).1 = .ok line := by
    rw [Endpoint.decode_next found]
    exact ⟨line, next, by rw [Endpoint.decodeText, clear]⟩
  have opened := openOffer_ok.mpr ⟨key, iv, offer, rfl⟩
  have taken : Session.take ({ key := unlocking, endpoint := far } : Responder)
      (some (.line bytes)) = challenged unlocking far line nonce key iv := by
    change take _ _ = _
    rw [take, step_challenged read opened]
    rfl
  exact ⟨line, by rw [Session.run_frame rfl found, taken]⟩

theorem run_unoffered (clear : far.cipher = none)
    (unoffered : ¬ ∃ nonce key iv rest, Offered unlocking.decrypt input nonce key iv rest) :
    Failed far (Session.run ({ key := unlocking, endpoint := far } : Responder) input) := by
  have running : ({ key := unlocking, endpoint := far } : Responder).result? = none := rfl
  rcases stepped : step unlocking.decrypt .offer far ((takeFrame? input).map Prod.fst) with
    ⟨result, after⟩
  have responds := step_responds unlocking.decrypt .offer far ((takeFrame? input).map Prod.fst)
  rw [stepped] at responds
  cases responds with
  | failed sent in_clear => exact run_failed running stepped
  | challenged read opened =>
      rcases openOffer_ok.mp opened with ⟨key, iv, offer, _⟩
      rcases Endpoint.decode_input.mp read with ⟨line, rest, next, same⟩
      rw [Endpoint.decodeText, clear] at same
      cases same
      exact absurd ⟨_, key, iv, rest, _, next, offer⟩ unoffered

theorem challenged_inbound :
    (challenged unlocking far line nonce key iv).endpoint.inbound =
      some (Cipher.keystream key iv .initiator) := by
  rw [challenged, Endpoint.wrote_inbound]
  rfl

theorem challenged_sent (iv_length : iv.length = 16) :
    (challenged unlocking far line nonce key iv).endpoint.sent =
      far.sent ++ [enciphered key iv .responder (challenge nonce)] := by
  rw [← Lane.wire_fresh iv_length]
  rfl

theorem run_acknowledged (iv_length : iv.length = 16) (acknowledged : Acknowledged key iv input) :
    Secured (challenged unlocking far line nonce key iv).endpoint key iv
      (Session.run (challenged unlocking far line nonce key iv) input) := by
  rcases acknowledged with ⟨wire, rest, next, deciphers⟩
  rcases nextLine_frame.mp next with ⟨bytes, found, _⟩
  have read : ((challenged unlocking far line nonce key iv).endpoint.decode
      (some (.line bytes))).1 = .ok "ok" := by
    rw [Endpoint.decode_next found]
    exact ⟨wire, next, (Endpoint.decodeText_fresh iv_length challenged_inbound).mpr deciphers⟩
  have taken : Session.take (challenged unlocking far line nonce key iv) (some (.line bytes)) =
      { challenged unlocking far line nonce key iv with
        endpoint := ((challenged unlocking far line nonce key iv).endpoint.took "ok").withSecure
        result? := some (.ok ()) } := take_accepted (step_acknowledged read)
  rw [Session.run_frame rfl found, taken, Session.run_over rfl rest]
  exact ⟨rfl, rfl, ⟨_, rfl, rfl, rfl⟩, rfl⟩

theorem run_unacknowledged (iv_length : iv.length = 16)
    (unacknowledged : ¬ Acknowledged key iv input) :
    Failed (challenged unlocking far line nonce key iv).endpoint
      (Session.run (challenged unlocking far line nonce key iv) input) := by
  have running : (challenged unlocking far line nonce key iv).result? = none := rfl
  rcases stepped : step unlocking.decrypt .acknowledgement
    (challenged unlocking far line nonce key iv).endpoint ((takeFrame? input).map Prod.fst) with
    ⟨result, after⟩
  have responds := step_responds unlocking.decrypt .acknowledgement
    (challenged unlocking far line nonce key iv).endpoint ((takeFrame? input).map Prod.fst)
  rw [stepped] at responds
  cases responds with
  | failed sent in_clear => exact run_failed running stepped
  | acknowledged read =>
      rcases Endpoint.decode_input.mp read with ⟨wire, rest, next, same⟩
      have deciphers := (Endpoint.decodeText_fresh iv_length challenged_inbound).mp same
      exact absurd ⟨wire, rest, next, deciphers⟩ unacknowledged

theorem run_answered (clear : far.cipher = none)
    (offered : Offered unlocking.decrypt input nonce key iv rest) :
    let ended := Session.run ({ key := unlocking, endpoint := far } : Responder) input
    ∃ waiting : Endpoint, waiting.label = far.label ∧
      waiting.sent = far.sent ++ [enciphered key iv .responder (challenge nonce)] ∧
      (Acknowledged key iv rest → Secured waiting key iv ended) ∧
      (¬ Acknowledged key iv rest → Failed waiting ended) := by
  intro ended
  rcases run_offered clear offered with ⟨line, same⟩
  rw [show ended = _ from same]
  exact ⟨(challenged unlocking far line nonce key iv).endpoint, rfl,
    challenged_sent offered.iv_length, run_acknowledged offered.iv_length,
    run_unacknowledged offered.iv_length⟩

theorem run_settled (clear : far.cipher = none) (unmarked : far.label.secure = false) :
    Settled (Session.run ({ key := unlocking, endpoint := far } : Responder) input) := by
  by_cases offered : ∃ nonce key iv rest, Offered unlocking.decrypt input nonce key iv rest
  · rcases offered with ⟨nonce, key, iv, rest, offer⟩
    rcases run_answered clear offer with ⟨waiting, label, _, secured, failed⟩
    by_cases acknowledged : Acknowledged key iv rest
    · exact (secured acknowledged).settled
    · exact (failed acknowledged).settled (by rw [label, unmarked])
  · exact (run_unoffered clear offered).settled unmarked

end Running

end Responder

/-- Whatever bytes the initiator sends, the responder secures the session for an offer that is
acknowledged and for nothing else. -/
theorem acknowledgement_decides (unlocking : Rsa.PrivateKey) {far : Endpoint}
    (clear : far.cipher = none) (unmarked : far.label.secure = false) (input : Bytes) :
    let ended := Session.run ({ key := unlocking, endpoint := far } : Responder) input
    (∃ result, ended.result? = some result) ∧
    (ended.result? = some (.ok ()) ↔ ∃ nonce key iv rest,
      Offered unlocking.decrypt input nonce key iv rest ∧ Acknowledged key iv rest) ∧
    ((¬ ∃ nonce key iv rest, Offered unlocking.decrypt input nonce key iv rest) →
      ended.endpoint.sent = far.sent) ∧
    (∀ nonce key iv rest, Offered unlocking.decrypt input nonce key iv rest →
      (∃ line, ended.endpoint.sent = far.sent ++ [line] ∧
        Deciphers key iv .responder line ("ok " ++ Base64.encode nonce)) ∧
      (ended.result? = some (.ok ()) →
        ∃ cipher, ended.endpoint.cipher = some cipher ∧ cipher.key = key ∧ cipher.iv = iv)) ∧
    (ended.endpoint.isEncrypted = true ↔ ended.result? = some (.ok ())) ∧
    (ended.endpoint.label.secure = true ↔ ended.result? = some (.ok ())) := by
  intro ended
  have settled : Responder.Settled ended := Responder.run_settled clear unmarked
  refine ⟨settled.result, ⟨?_, ?_⟩, ?_, ?_, settled.encrypted, settled.marked⟩
  · intro done
    by_cases offered : ∃ nonce key iv rest, Offered unlocking.decrypt input nonce key iv rest
    · rcases offered with ⟨nonce, key, iv, rest, offer⟩
      rcases Responder.run_answered clear offer with ⟨waiting, _, _, _, failed⟩
      by_cases acknowledged : Acknowledged key iv rest
      · exact ⟨nonce, key, iv, rest, offer, acknowledged⟩
      · exact absurd done (failed acknowledged).not_ok
    · exact absurd done (Responder.run_unoffered clear offered).not_ok
  · rintro ⟨nonce, key, iv, rest, offered, acknowledged⟩
    rcases Responder.run_answered clear offered with ⟨waiting, _, _, secured, _⟩
    exact (secured acknowledged).result
  · intro unoffered
    exact (Responder.run_unoffered clear unoffered).sent
  · intro nonce key iv rest offered
    rcases Responder.run_answered clear offered with ⟨waiting, _, sent, secured, failed⟩
    -- Nothing is said after the challenge, so that the two outcomes differ in the cipher only.
    by_cases acknowledged : Acknowledged key iv rest
    · have outcome := secured acknowledged
      exact ⟨⟨_, outcome.sent.trans sent, deciphers_enciphered offered.iv_length key .responder _⟩,
        fun _ => outcome.cipher⟩
    · have outcome := failed acknowledged
      exact ⟨⟨_, outcome.sent.trans sent, deciphers_enciphered offered.iv_length key .responder _⟩,
        fun done => absurd done outcome.not_ok⟩

theorem Secrets.offered_line (secrets : Secrets) {unlock : Bytes → Except Error Bytes}
    {locked : Bytes} (unlocked : unlock locked = .ok (Text.utf8 secrets.offer))
    (carriable : Carriable false (Base64.encode locked)) (rest : Bytes) :
    Offered unlock (lineBytes (Base64.encode locked) ++ rest) secrets.nonce secrets.key secrets.iv
      rest := by
  let lane : Lane := none
  have carried : Carriable (Option.isSome lane) (Base64.encode locked) := carriable
  have next := lineBytes_next carried.fits rest
  rw [carried.chomp_wire] at next
  exact ⟨_, next, locked, _, Base64.encode_spells locked, unlocked, secrets.offers⟩

theorem Secrets.acknowledged_line (secrets : Secrets) (rest : Bytes) :
    Acknowledged secrets.key secrets.iv
      (lineBytes (enciphered secrets.key secrets.iv .initiator "ok") ++ rest) :=
  ⟨_, rest, enciphered_next secrets.iv_length secrets.key .initiator (by decide) rest,
    deciphers_enciphered secrets.iv_length secrets.key .initiator "ok"⟩

theorem mersenne_acknowledged :
    ∃ locked,
      Rsa.mersenneKey.toPublicKey.encrypt (List.replicate 20 4) (Text.utf8 equalSecrets.offer) =
        .ok locked ∧
      (Session.run ({ key := Rsa.mersenneKey, endpoint := { label := .ofProtocol "far" } } : Responder)
        (lineBytes (Base64.encode locked) ++ (lineBytes (enciphered equalSecrets.key equalSecrets.iv
          .initiator "ok") ++ lineBytes "more"))).result? = some (.ok ()) ∧
      (Session.run ({ key := Rsa.mersenneKey, endpoint := { label := .ofProtocol "far" } } : Responder)
        (lineBytes "error" ++ [])).endpoint.sent = [] := by
  have enough : offerSize ≤ Rsa.mersenneKey.size := by decide +kernel
  have fits : 4 * ((Rsa.mersenneKey.size + 2) / 3) < maxLine := by decide +kernel
  have seed_length : (List.replicate 20 4 : Bytes).length = Rsa.Oaep.hashSize :=
    List.length_replicate
  rcases offer_opens equalSecrets Rsa.mersenneKey_genuine.opens seed_length enough with
    ⟨locked, offered, unlocked⟩
  have decided := acknowledgement_decides Rsa.mersenneKey
    (show ({ label := .ofProtocol "far" } : Endpoint).cipher = none from rfl) rfl
  have unoffered : ¬ ∃ nonce key iv rest,
      Offered Rsa.mersenneKey.decrypt (lineBytes "error" ++ []) nonce key iv rest := by
    rintro ⟨nonce, key, iv, rest, line, next, locked, clear, spells, _⟩
    have fits : Fits "error" := ⟨by decide, by decide⟩
    rcases next.unique (lineBytes_next fits []) with ⟨rfl, _⟩
    have read := Base64.decode_spells.mpr spells
    have stray : Base64.decode? (chomp "error") = none := by decide
    rw [stray] at read
    cases read
  refine ⟨locked, offered, (decided _).2.1.mpr ?_, (decided _).2.2.1 unoffered⟩
  exact ⟨_, _, _, _, equalSecrets.offered_line unlocked (offer_carriable offered fits) _,
    equalSecrets.acknowledged_line _⟩

end MailExchange.Wire.Handshake
