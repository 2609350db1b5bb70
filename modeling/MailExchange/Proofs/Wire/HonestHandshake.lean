import MailExchange.Proofs.Wire.Duplex
import MailExchange.Proofs.Wire.Handshake

namespace MailExchange.Wire.Handshake

open Text (Bytes)

structure Responder where
  key : Rsa.PrivateKey
  endpoint : Endpoint
  awaited : Awaited := .offer
  result? : Option (Except Error Unit) := none

namespace Responder

def take (responder : Responder) (frame : Option Frame) : Responder :=
  match step responder.key.decrypt responder.awaited responder.endpoint frame with
  | (.ok (some awaited), endpoint) => { responder with endpoint, awaited }
  | (.ok none, endpoint) => { responder with endpoint, result? := some (.ok ()) }
  | (.error error, endpoint) => { responder with endpoint, result? := some (.error error) }

instance : Session Responder where
  take := take
  result? := Responder.result?
  sent responder := responder.endpoint.sent

section Taking

variable {key : Rsa.PrivateKey} {far : Endpoint} {secrets : Secrets} {locked : Bytes}

theorem take_offer (clear : far.cipher = none) (carriable : Carriable false (Base64.encode locked))
    (unlocked : key.decrypt locked = .ok (Text.utf8 secrets.offer)) :
    take { key, endpoint := far } (some (.line (Text.utf8 (Base64.encode locked)))) =
      { key, endpoint := secrets.challenging far locked, awaited := .acknowledgement } := by
  rw [take, step_offer clear carriable unlocked]

theorem take_accepted {frame : Option Frame} {secured : Endpoint}
    (accepted : step key.decrypt .acknowledgement far frame = (.ok none, secured)) :
    take { key, endpoint := far, awaited := .acknowledgement } frame =
      { key, endpoint := secured, awaited := .acknowledgement, result? := some (.ok ()) } := by
  rw [take, accepted]

end Taking

def channel (key : Rsa.PrivateKey) (near far : Endpoint) : Channel (Live Responder) :=
  ⟨near, [], ⟨{ key, endpoint := far }, [], far.sent.length⟩⟩

end Responder

/-- The bytes of an offer, with the padding: what a key must be able to encrypt. -/
def offerSize : Nat := 117 + Rsa.Oaep.overhead

section Keys

variable {seed locked : Bytes} {key : Rsa.PrivateKey} {lock : Rsa.PublicKey}

theorem offer_opens (secrets : Secrets) (opens : Rsa.Opens key lock)
    (seed_length : seed.length = Rsa.Oaep.hashSize)
    (enough : offerSize ≤ lock.size) :
    ∃ locked, lock.encrypt seed (Text.utf8 secrets.offer) = .ok locked ∧
      key.decrypt locked = .ok (Text.utf8 secrets.offer) :=
  opens seed (Text.utf8 secrets.offer) seed_length (by rw [secrets.offer_length]; exact enough)

theorem offer_refused (secrets : Secrets) (short : lock.size < offerSize) :
    lock.encrypt seed (Text.utf8 secrets.offer) = .error .crypto :=
  Rsa.PublicKey.encrypt_long (by rw [secrets.offer_length]; exact short)

theorem offer_carriable {message : Bytes} (offered : lock.encrypt seed message = .ok locked)
    (fits : 4 * ((lock.size + 2) / 3) < maxLine) : Carriable false (Base64.encode locked) := by
  refine ⟨Base64.encode_free _ (by decide) (by decide), ?_, fun _ last => ?_⟩
  · rw [wireSize, if_neg Bool.false_ne_true, Base64.encode_size,
      Rsa.PublicKey.encrypt_length offered]
    exact fits
  · exact absurd (List.mem_of_getLast? last) (Base64.encode_free _ (by decide) (by decide))

end Keys

/-- For a key of fewer than 159 bytes there is no offer; with any other that opens its own offers, the
two ends agree, and from then on each reads what the other writes, whatever the order. -/
theorem honest_handshake (secrets : Secrets) {seed : Bytes} {key : Rsa.PrivateKey}
    {lock : Rsa.PublicKey} {near far : Endpoint}
    (seed_length : seed.length = Rsa.Oaep.hashSize) (opens : Rsa.Opens key lock)
    (fits : 4 * ((lock.size + 2) / 3) < maxLine) (near_clear : near.cipher = none)
    (far_clear : far.cipher = none) :
    (159 ≤ lock.size → ∃ after,
      (initiate secrets (lock.encrypt seed)).run (Responder.channel key near far) =
        (.ok (), after) ∧
      after.peer.session.result? = some (.ok ()) ∧
      after.endpoint.isEncrypted = true ∧ after.peer.session.endpoint.isEncrypted = true ∧
      after.endpoint.label = near.label.withSecure true ∧
      after.peer.session.endpoint.label = far.label.withSecure true ∧
      after.unread = [] ∧ after.peer.unread = [] ∧
      ∀ actions, (∀ role line, (role, .write line) ∈ actions → Carriable true line) →
        (Duplex.ofEnds after.endpoint after.peer.session.endpoint).reports actions =
          Queues.empty.reports actions) ∧
    (lock.size < 159 →
      (initiate secrets (lock.encrypt seed)).run (Responder.channel key near far) =
        (.error .crypto, Responder.channel key near far)) := by
  refine ⟨fun enough => ?_, fun short => initiate_locked_out (offer_refused secrets short) _⟩
  obtain ⟨locked, offered, unlocked⟩ := offer_opens secrets opens seed_length enough
  have carriable := offer_carriable offered fits
  have linked : Linked ({ key, endpoint := far } : Responder) far []
      (Responder.channel key near far) :=
    Linked.of_inStep rfl rfl (InStep.clear near_clear far_clear)
  obtain ⟨after, done, linked_after, label⟩ := initiate_linked linked far_clear offered carriable
    rfl (Responder.take_offer far_clear carriable unlocked) (secrets.challenging_sent far locked) rfl
    (Responder.take_accepted (secrets.step_secured key.decrypt far locked)) rfl
  have session := congrArg Live.session linked_after.peer
  have encrypted : after.endpoint.isEncrypted = true := by
    rw [linked_after.isEncrypted]
    rfl
  refine ⟨after, done, ?_, encrypted, ?_, label, ?_, linked_after.unread, ?_, ?_⟩
  · rw [session]
  · rw [session]
    rfl
  · rw [session]
    rfl
  · rw [linked_after.peer]
  · intro actions lines_carriable
    rw [session]
    exact (Duplex.ofEnds_carries linked_after.in_step encrypted).reports actions lines_carriable

theorem mersenne_handshake :
    ∃ after : Channel (Live Responder),
      (initiate equalSecrets (Rsa.mersenneKey.toPublicKey.encrypt (List.replicate 20 4))).run
        (Responder.channel Rsa.mersenneKey { label := .ofProtocol "near" }
          { label := .ofProtocol "far" }) = (.ok (), after) ∧
      (Duplex.ofEnds after.endpoint after.peer.session.endpoint).reports
          [(.responder, .write "one"), (.initiator, .write "two"), (.responder, .read),
            (.initiator, .read)] =
        [.wrote (.ok ()), .wrote (.ok ()), .read (some (.ok "two")), .read (some (.ok "one"))] := by
  have opens := Rsa.mersenneKey_genuine.opens
  have fits : 4 * ((Rsa.mersenneKey.size + 2) / 3) < maxLine := by decide +kernel
  have enough : 159 ≤ Rsa.mersenneKey.size := by decide +kernel
  have seed_length : (List.replicate 20 4 : Bytes).length = Rsa.Oaep.hashSize :=
    List.length_replicate
  have agreed := honest_handshake equalSecrets seed_length opens fits
    (show ({ label := .ofProtocol "near" } : Endpoint).cipher = none from rfl)
    (show ({ label := .ofProtocol "far" } : Endpoint).cipher = none from rfl)
  obtain ⟨after, done, _, _, _, _, _, _, _, talk⟩ := agreed.1 enough
  refine ⟨after, done, (talk _ ?_).trans (by decide)⟩
  intro role line member
  simp only [List.mem_cons, Prod.mk.injEq, Action.write.injEq, reduceCtorEq, and_false,
    List.not_mem_nil, or_false] at member
  rcases member with ⟨_, rfl⟩ | ⟨_, rfl⟩
  · decide
  · decide

end MailExchange.Wire.Handshake
