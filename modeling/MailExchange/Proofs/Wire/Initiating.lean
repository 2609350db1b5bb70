import MailExchange.Proofs.Wire.Deciphering
import MailExchange.Proofs.Wire.HonestHandshake
import MailExchange.Proofs.Wire.Responding
import MailExchange.Proofs.Wire.Writing

namespace MailExchange.Wire.Handshake

open Text (Bytes)

def Reachable (π : Type) [Peer π] : Prop :=
  ∀ (peer : π) (bytes : Bytes), ∃ more after, Peer.hear peer bytes = (.ok more, after)

theorem Reachable.send {π : Type} [Peer π] (reachable : Reachable π) (channel : Channel π)
    {line : String} (one_line : '\n' ∉ line.toList) :
    ∃ after, channel.send line = (.ok (), after) ∧ after.endpoint = channel.endpoint.wrote line := by
  rcases reachable channel.peer (lineBytes (channel.endpoint.outbound.wire line)) with
    ⟨more, peer, heard⟩
  simp only [Channel.send, Endpoint.encode_wrote channel.endpoint one_line, heard]
  exact ⟨_, rfl, rfl⟩

def Secrets.acknowledging (secrets : Secrets) (near : Endpoint) (locked : Bytes) : Endpoint :=
  ((((near.wrote (Base64.encode locked)).withCipher (some secrets.cipher)).took
    secrets.challenge).wrote "ok").withSecure

theorem Secrets.acknowledging_sent (secrets : Secrets) {near : Endpoint} (clear : near.cipher = none)
    (locked : Bytes) : (secrets.acknowledging near locked).sent =
      near.sent ++ [Base64.encode locked, enciphered secrets.key secrets.iv .initiator "ok"] := by
  have offer := Endpoint.wrote_in_clear clear (Base64.encode locked)
  have lane : (((near.wrote (Base64.encode locked)).withCipher (some secrets.cipher)).took
      secrets.challenge).outbound =
        some (Cipher.keystream secrets.key secrets.iv .initiator) := Endpoint.took_outbound _ _
  have acknowledgement := Lane.wire_fresh secrets.iv_length secrets.key .initiator "ok"
  calc (secrets.acknowledging near locked).sent
    _ = (near.wrote (Base64.encode locked)).sent ++
          [Lane.wire (((near.wrote (Base64.encode locked)).withCipher (some secrets.cipher)).took
            secrets.challenge).outbound "ok"] := rfl
    _ = _ := by rw [lane, acknowledgement, offer, List.append_assoc]; rfl

section Steps

variable {π : Type} [Peer π] {secrets : Secrets} {channel heard : Channel π}

theorem awaitChallenge_accepted (reachable : Reachable π)
    (read : channel.receive = (.ok secrets.challenge, heard)) :
    ∃ after, (awaitChallenge secrets).run channel = (.ok (), after) ∧
      after.endpoint = (channel.endpoint.took secrets.challenge).wrote "ok" := by
  rcases reachable.send heard (show '\n' ∉ "ok".toList by decide) with ⟨after, sent, wrote⟩
  have received : Talk.readLine.run channel = (.ok secrets.challenge, heard) := read
  have checked : checkChallenge secrets.nonce secrets.challenge = .ok () :=
    secrets.challenge_read
  refine ⟨after, ?_, ?_⟩
  · rw [awaitChallenge, Talk.run_ok received, checked,
      Talk.run_ok (Talk.run_ofExcept (.ok ()) heard), Talk.run_writeLine, sent]
  · rw [wrote, Channel.receive_took read]

theorem awaitChallenge_refused (refused : channel.receive.1 ≠ .ok secrets.challenge) :
    ∃ error after, (awaitChallenge secrets).run channel = (.error error, after) ∧
      after.endpoint.sent = channel.endpoint.sent ∧
      after.endpoint.label = channel.endpoint.label := by
  have wrote := channel.receive_wrote.sent
  have label := channel.receive_label
  rcases received : channel.receive with ⟨result, heard⟩
  have read : Talk.readLine.run channel = (result, heard) := received
  rw [received] at refused wrote label
  rw [Lane.wires, List.append_nil] at wrote
  cases result with
  | error error => exact ⟨error, heard, by rw [awaitChallenge, Talk.run_error read], wrote, label⟩
  | ok reply =>
      cases checked : checkChallenge secrets.nonce reply with
      | error error =>
          refine ⟨error, heard, ?_, wrote, label⟩
          rw [awaitChallenge, Talk.run_ok read, checked,
            Talk.run_error (Talk.run_ofExcept (.error error) heard)]
      | ok value =>
          have same := (checkChallenge_ok secrets.nonce_length).mp checked
          exact absurd (congrArg Except.ok same) refused

variable {lock : Bytes → Except Error Bytes} {locked : Bytes} {waiting : Channel π}

theorem challenge_next (secrets : Secrets) (waiting : Channel π) :
    (Channel.receive
        { waiting with endpoint := waiting.endpoint.withCipher (some secrets.cipher) }).1 =
        .ok secrets.challenge ↔
      ∃ line rest, NextLine waiting.unread line rest ∧
        Deciphers secrets.key secrets.iv .responder line secrets.challenge := by
  have fresh : (waiting.endpoint.withCipher (some secrets.cipher)).inbound =
      some (Cipher.keystream secrets.key secrets.iv .responder) := rfl
  rw [Channel.receive_next]
  simp only [Endpoint.decodeText_fresh secrets.iv_length fresh]

theorem initiate_accepted (reachable : Reachable π)
    (offered : lock (Text.utf8 secrets.offer) = .ok locked)
    (sent : channel.send (Base64.encode locked) = (.ok (), waiting))
    (answered : ∃ line rest, NextLine waiting.unread line rest ∧
      Deciphers secrets.key secrets.iv .responder line secrets.challenge) :
    ∃ after, (initiate secrets lock).run channel = (.ok (), after) ∧
      after.endpoint = secrets.acknowledging channel.endpoint locked := by
  have read := (challenge_next secrets waiting).mpr answered
  rcases received : Channel.receive
    { waiting with endpoint := waiting.endpoint.withCipher (some secrets.cipher) } with
    ⟨result, heard⟩
  rw [received] at read
  cases read
  rcases awaitChallenge_accepted reachable received with ⟨after, accepted, wrote⟩
  refine ⟨_, initiate_done offered sent accepted, ?_⟩
  rw [wrote, Channel.send_written sent]
  rfl

theorem initiate_refused (clear : channel.endpoint.cipher = none)
    (offered : lock (Text.utf8 secrets.offer) = .ok locked)
    (sent : channel.send (Base64.encode locked) = (.ok (), waiting))
    (unanswered : ¬ ∃ line rest, NextLine waiting.unread line rest ∧
      Deciphers secrets.key secrets.iv .responder line secrets.challenge) :
    ∃ error after, (initiate secrets lock).run channel = (.error error, after) ∧
      after.endpoint.sent = channel.endpoint.sent ++ [Base64.encode locked] ∧
      after.endpoint.cipher = none ∧ after.endpoint.label = channel.endpoint.label := by
  have refused := mt (challenge_next secrets waiting).mp unanswered
  rcases awaitChallenge_refused refused with ⟨error, after, failed, same, label⟩
  refine ⟨error, _, initiate_failed offered sent failed, ?_, rfl, ?_⟩
  · have wrote : waiting.endpoint.sent = channel.endpoint.sent ++ [Base64.encode locked] := by
      rw [Channel.send_written sent, Endpoint.wrote_in_clear clear]
    exact same.trans wrote
  · have wrote : waiting.endpoint.label = channel.endpoint.label := by
      rw [Channel.send_written sent]
      rfl
    exact label.trans wrote

end Steps

def Secrets.Answered (secrets : Secrets) (input : Bytes) : Prop :=
  ∃ line rest, NextLine input line rest ∧
    Deciphers secrets.key secrets.iv .responder line ("ok " ++ Base64.encode secrets.nonce)

theorem Secrets.answered_line (secrets : Secrets) (rest : Bytes) :
    secrets.Answered (lineBytes (enciphered secrets.key secrets.iv .responder secrets.challenge) ++
      rest) :=
  ⟨_, rest, enciphered_next secrets.iv_length secrets.key .responder secrets.challenge_carriable rest,
    deciphers_enciphered secrets.iv_length secrets.key .responder _⟩

/-- Whatever bytes the responder sends, the initiator takes nothing but the challenge for an answer.
Then it has acknowledged it under the new cipher. Otherwise it has said nothing but its offer, and
is in clear again. -/
theorem challenge_decides (secrets : Secrets) {lock : Bytes → Except Error Bytes} {locked : Bytes}
    (offered : lock (Text.utf8 secrets.offer) = .ok locked) {near : Endpoint}
    (clear : near.cipher = none) (unmarked : near.label.secure = false) (input : Bytes) :
    let ended := (initiate secrets lock).run (⟨near, input, {}⟩ : Channel Silent)
    (ended.1 = .ok () ↔ secrets.Answered input) ∧
    (secrets.Answered input ↔ ∃ line rest, NextLine input line rest ∧
      Base64.Spells line (CounterMode.encrypt secrets.key (Cipher.firstBlock secrets.iv .responder)
        (Text.utf8 ("ok " ++ Base64.encode secrets.nonce)))) ∧
    (secrets.Answered input →
      ended.2.endpoint.sent =
        near.sent ++ [Base64.encode locked, enciphered secrets.key secrets.iv .initiator "ok"] ∧
      (∃ cipher, ended.2.endpoint.cipher = some cipher ∧ cipher.key = secrets.key ∧
        cipher.iv = secrets.iv) ∧
      ended.2.endpoint.label = near.label.withSecure true) ∧
    (¬ secrets.Answered input →
      (∃ error, ended.1 = .error error) ∧
      ended.2.endpoint.sent = near.sent ++ [Base64.encode locked] ∧
      ended.2.endpoint.cipher = none ∧ ended.2.endpoint.label.secure = false) := by
  intro ended
  have reachable : Reachable Silent := fun peer bytes => ⟨[], peer, rfl⟩
  have one_line : '\n' ∉ (Base64.encode locked).toList :=
    Base64.encode_free _ (by decide) (by decide)
  have sent : Channel.send ⟨near, input, Silent.mk⟩ (Base64.encode locked) =
      (.ok (), ⟨near.wrote (Base64.encode locked), input, Silent.mk⟩) := by
    simp only [Channel.send, near.encode_wrote one_line, Peer.hear, List.append_nil]
  have accepted (answered : secrets.Answered input) :=
    initiate_accepted reachable offered sent answered
  have refused (unanswered : ¬ secrets.Answered input) :=
    initiate_refused clear offered sent unanswered
  refine ⟨⟨?_, ?_⟩, ?_, ?_, ?_⟩
  · intro done
    by_contra unanswered
    rcases refused unanswered with ⟨error, after, failed, _⟩
    rw [show ended = _ from failed] at done
    cases done
  · intro answered
    rcases accepted answered with ⟨after, done, _⟩
    rw [show ended = _ from done]
  · simp only [Secrets.Answered, deciphers_iff secrets.iv_length]
  · intro answered
    rcases accepted answered with ⟨after, done, same⟩
    rw [show ended = _ from done, same]
    exact ⟨secrets.acknowledging_sent clear locked, ⟨_, rfl, rfl, rfl⟩, rfl⟩
  · intro unanswered
    rcases refused unanswered with ⟨error, after, failed, said, plain, label⟩
    rw [show ended = _ from failed]
    exact ⟨⟨error, rfl⟩, said, plain, by rw [label]; exact unmarked⟩

theorem mersenne_challenged :
    ∃ locked,
      Rsa.mersenneKey.toPublicKey.encrypt (List.replicate 20 4) (Text.utf8 equalSecrets.offer) =
        .ok locked ∧
      ((initiate equalSecrets (Rsa.mersenneKey.toPublicKey.encrypt (List.replicate 20 4))).run
        (⟨{ label := .ofProtocol "near" }, lineBytes (enciphered equalSecrets.key equalSecrets.iv
          .responder equalSecrets.challenge) ++ lineBytes "more", {}⟩ : Channel Silent)).1 = .ok () ∧
      ∃ error, ((initiate equalSecrets
          (Rsa.mersenneKey.toPublicKey.encrypt (List.replicate 20 4))).run
        (⟨{ label := .ofProtocol "near" }, lineBytes "error no" ++ [], {}⟩ : Channel Silent)).1 =
          .error error := by
  have enough : offerSize ≤ Rsa.mersenneKey.size := by decide +kernel
  have seed_length : (List.replicate 20 4 : Bytes).length = Rsa.Oaep.hashSize :=
    List.length_replicate
  rcases offer_opens equalSecrets Rsa.mersenneKey_genuine.opens seed_length enough with
    ⟨locked, offered, _⟩
  have decided := challenge_decides equalSecrets offered
    (show ({ label := .ofProtocol "near" } : Endpoint).cipher = none from rfl) rfl
  have unanswered : ¬ equalSecrets.Answered (lineBytes "error no" ++ []) := by
    rintro ⟨line, rest, next, bytes, spells, _⟩
    have fits : Fits "error no" := ⟨by decide, by decide⟩
    have refusal := lineBytes_next fits []
    rcases next.unique refusal with ⟨rfl, _⟩
    have read := Base64.decode_spells.mpr spells
    have stray : Base64.decode? (chomp "error no") = none := by decide
    rw [stray] at read
    cases read
  exact ⟨locked, offered, (decided _).1.mpr (equalSecrets.answered_line _),
    ((decided _).2.2.2 unanswered).1⟩

end MailExchange.Wire.Handshake
