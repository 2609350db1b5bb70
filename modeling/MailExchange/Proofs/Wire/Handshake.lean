import MailExchange.Proofs.Crypto.Rsa
import MailExchange.Proofs.Wire.Writing
import MailExchange.Wire.Handshake

/-!
An honest handshake. The offer is read back as what it was made of, the challenge is the one that is
expected, and each end takes up its cipher between the same two lines, so that the ends are in step
afterwards.
-/

namespace MailExchange.Wire.Handshake

open Text (Bytes)

theorem echoes_iff {nonce : Bytes} (nonce_length : nonce.length = nonceLength) {echoed : String} :
    echoes nonce echoed = true ↔ echoed = Base64.encode nonce := by
  simp only [echoes, Bool.and_eq_true, beq_iff_eq]
  constructor
  · exact fun same => same.1.1
  · rintro rfl
    rw [Base64.decode_encode, Option.getD_some]
    exact ⟨⟨rfl, nonce_length⟩, rfl⟩

theorem checkChallenge_ok {nonce : Bytes} (nonce_length : nonce.length = nonceLength)
    {reply : String} : checkChallenge nonce reply = .ok () ↔ reply = "ok " ++ Base64.encode nonce := by
  constructor
  · intro accepted
    unfold checkChallenge at accepted
    split at accepted
    · rename_i echoed cut
      split at accepted
      · rename_i same
        have text : reply.toList = "ok".toList ++ ' ' :: echoed.toList := Text.splitAtFirst_text cut
        rw [← (echoes_iff nonce_length).mp same]
        apply String.toList_inj.mp
        rw [text, String.toList_append]
        rfl
      · cases accepted
    · cases accepted
    · cases accepted
  · intro same
    have space : " ".toList = [' '] := by decide
    have word : ' ' ∉ "ok".toList := by decide
    have cut : splitCommand reply = ("ok", some (Base64.encode nonce)) := by
      rw [same]
      exact Text.splitAtFirst_append space word (Base64.encode nonce)
    simp only [checkChallenge, cut, (echoes_iff nonce_length).mpr rfl, if_true]

theorem secret_ok {text : String} {bytes : Bytes} :
    secret? text = .ok bytes ↔ Base64.Spells text bytes := by
  rw [← Base64.decode_spells, secret?]
  cases Base64.decode? text with
  | none => simp only [reduceCtorEq]
  | some other => simp only [Except.ok.injEq, Option.some.injEq]

/-- A text in which a nonce, a key and an IV are offered. -/
structure Offers (clear nonce key iv : Bytes) : Prop where
  words : ∃ first second third,
    clear = Text.utf8 ("ok" ++ " " ++ first ++ " " ++ second ++ " " ++ third) ∧
    Base64.Spells first nonce ∧ Base64.Spells second key ∧ Base64.Spells third iv
  nonce_length : nonce.length = nonceLength
  key_length : key.length = 32
  iv_length : iv.length = 16

theorem join_words (first second third : String) :
    Text.join " " ["ok", first, second, third] =
      "ok" ++ " " ++ first ++ " " ++ second ++ " " ++ third := by
  simp only [Text.join, String.intercalate_cons_cons, String.intercalate_singleton,
    String.append_assoc]

theorem Offers.readOffer {clear nonce key iv : Bytes} (offers : Offers clear nonce key iv) :
    Handshake.readOffer clear = .ok (nonce, Cipher.start key iv .responder) := by
  obtain ⟨⟨first, second, third, rfl, nonce_spelled, key_spelled, iv_spelled⟩, nonce_length,
    key_length, iv_length⟩ := offers
  have pieces : Text.splitAtEach ' ' ("ok" ++ " " ++ first ++ " " ++ second ++ " " ++ third) =
      ["ok", first, second, third] := by
    rw [← join_words]
    apply Text.splitAtEach_join (by decide) (List.cons_ne_nil _ _)
    intro piece member
    simp only [List.mem_cons, List.not_mem_nil, or_false] at member
    rcases member with rfl | rfl | rfl | rfl
    · decide
    · exact Base64.spells_free nonce_spelled (by decide) (by decide)
    · exact Base64.spells_free key_spelled (by decide) (by decide)
    · exact Base64.spells_free iv_spelled (by decide) (by decide)
  have lengths : key.length = 32 ∧ iv.length = 16 := ⟨key_length, iv_length⟩
  simp only [Handshake.readOffer, Text.ofUtf8_utf8, pieces, secret_ok.mpr nonce_spelled,
    secret_ok.mpr key_spelled, secret_ok.mpr iv_spelled, bind, Except.bind, nonce_length, ne_eq,
    not_true_eq_false, if_false, Cipher.ofParts, lengths, and_self, if_true]
  rfl

def challenge (nonce : Bytes) : String := "ok " ++ Base64.encode nonce

theorem challenge_writable (nonce : Bytes) : '\n' ∉ (challenge nonce).toList := by
  rw [challenge, String.toList_append, List.mem_append]
  rintro (start | later)
  · revert start
    decide
  · exact Base64.encode_free _ (by decide) (by decide) later

namespace Secrets

variable (secrets : Secrets)

def mirror : Cipher := Cipher.start secrets.key secrets.iv .responder

def challenge : String := "ok " ++ Base64.encode secrets.nonce

theorem offers : Offers (Text.utf8 secrets.offer) secrets.nonce secrets.key secrets.iv where
  words := ⟨Base64.encode secrets.nonce, Base64.encode secrets.key, Base64.encode secrets.iv,
    congrArg Text.utf8 (join_words _ _ _), Base64.encode_spells _, Base64.encode_spells _,
    Base64.encode_spells _⟩
  nonce_length := secrets.nonce_length
  key_length := secrets.key_length
  iv_length := secrets.iv_length

/-- What has to be encrypted: `ok` and 32, 32 and 16 bytes in base64, with spaces between them. -/
theorem offer_length : (Text.utf8 secrets.offer).length = 117 := by
  have text : secrets.offer = "ok" ++ (" " ++ (Base64.encode secrets.nonce ++ (" " ++
      (Base64.encode secrets.key ++ (" " ++ Base64.encode secrets.iv))))) := by
    simp only [offer, Text.join, String.intercalate_cons_cons, String.intercalate_singleton,
      String.append_assoc]
  have word : (Text.utf8 "ok").length = 2 := by decide
  have space : (Text.utf8 " ").length = 1 := by decide
  simp only [text, Text.utf8_append, List.length_append, Base64.encode_size, secrets.nonce_length,
    secrets.key_length, secrets.iv_length, word, space, nonceLength]

theorem readOffer_offer :
    readOffer (Text.utf8 secrets.offer) = .ok (secrets.nonce, secrets.mirror) :=
  secrets.offers.readOffer

theorem challenge_read : checkChallenge secrets.nonce secrets.challenge = .ok () :=
  (checkChallenge_ok secrets.nonce_length).mpr rfl

theorem challenge_carriable : Carriable true secrets.challenge := by
  have word : (Text.utf8 "ok ").length = 3 := by decide
  refine ⟨challenge_writable secrets.nonce, ?_, fun clear => absurd clear (by decide)⟩
  simp only [wireSize, if_true, challenge, Text.utf8_append, List.length_append,
    Base64.encode_size, secrets.nonce_length, word, nonceLength]
  decide

def challenging (far : Endpoint) (locked : Bytes) : Endpoint :=
  ((far.took (Base64.encode locked)).withCipher (some secrets.mirror)).wrote secrets.challenge

theorem challenging_inbound (far : Endpoint) (locked : Bytes) :
    (secrets.challenging far locked).inbound = some secrets.cipher.outgoing := by
  rw [challenging, Endpoint.wrote_inbound]
  rfl

theorem challenging_outbound (far : Endpoint) (locked : Bytes) :
    (secrets.challenging far locked).outbound =
      Lane.after (some secrets.cipher.incoming) secrets.challenge := by
  rw [challenging, Endpoint.wrote_outbound]
  rfl

theorem challenging_sent (far : Endpoint) (locked : Bytes) :
    (secrets.challenging far locked).sent =
      far.sent ++ [Lane.wire (some secrets.cipher.incoming) secrets.challenge] := by
  have lane : ((far.took (Base64.encode locked)).withCipher (some secrets.mirror)).outbound =
      some secrets.cipher.incoming := rfl
  rw [challenging, Endpoint.wrote, lane]
  rfl

theorem challenging_encrypted (far : Endpoint) (locked : Bytes) :
    (secrets.challenging far locked).isEncrypted = true := by
  rw [← Endpoint.inbound_isSome, challenging_inbound, Option.isSome_some]

def secured (far : Endpoint) (locked : Bytes) : Endpoint :=
  ((secrets.challenging far locked).took "ok").withSecure

end Secrets

theorem Secrets.openOffer_offer {unlock : Bytes → Except Error Bytes} {secrets : Secrets}
    {locked : Bytes} (unlocked : unlock locked = .ok (Text.utf8 secrets.offer)) :
    openOffer unlock (Base64.encode locked) = .ok (secrets.nonce, secrets.mirror) := by
  simp only [openOffer, Base64.decode_encode, unlocked, Except.bind, secrets.readOffer_offer]

section Responder

variable {unlock : Bytes → Except Error Bytes}

section Steps

variable {endpoint : Endpoint} {frame : Option Frame} {line : String} {nonce : Bytes}
  {cipher : Cipher}

theorem step_challenged (read : (endpoint.decode frame).1 = .ok line)
    (opened : openOffer unlock line = .ok (nonce, cipher)) :
    step unlock .offer endpoint frame = (.ok (some .acknowledgement),
      ((endpoint.took line).withCipher (some cipher)).wrote (challenge nonce)) := by
  rcases decoded : endpoint.decode frame with ⟨result, after⟩
  rw [decoded] at read
  cases read
  cases Endpoint.decode_took decoded
  have written := Endpoint.write_wrote ((endpoint.took line).withCipher (some cipher))
    (challenge_writable nonce)
  rw [challenge] at written
  simp only [step, decoded, answerOffer, opened, written]
  rfl

theorem step_acknowledged (read : (endpoint.decode frame).1 = .ok "ok") :
    step unlock .acknowledgement endpoint frame = (.ok none, (endpoint.took "ok").withSecure) := by
  rcases decoded : endpoint.decode frame with ⟨result, after⟩
  rw [decoded] at read
  cases read
  cases Endpoint.decode_took decoded
  simp only [step, decoded, checkAcknowledgement, if_true]

end Steps

variable {far : Endpoint} {secrets : Secrets} {locked : Bytes}

theorem step_offer (clear : far.cipher = none) (carriable : Carriable false (Base64.encode locked))
    (unlocked : unlock locked = .ok (Text.utf8 secrets.offer)) :
    step unlock .offer far (some (.line (Text.utf8 (Base64.encode locked)))) =
      (.ok (some .acknowledgement), secrets.challenging far locked) := by
  have lane : far.inbound = none := by rw [Endpoint.inbound, clear, Option.map_none]
  have carried : Carriable far.inbound.isSome (Base64.encode locked) := by
    rw [lane]
    exact carriable
  have read := congrArg Prod.fst (far.decode_wire carried)
  rw [lane] at read
  exact step_challenged read (Secrets.openOffer_offer unlocked)

theorem step_acknowledgement (unlock : Bytes → Except Error Bytes) {far : Endpoint}
    (encrypted : far.isEncrypted = true) :
    step unlock .acknowledgement far (some (.line (Text.utf8 (far.inbound.wire "ok")))) =
      (.ok none, (far.took "ok").withSecure) := by
  have carriable : Carriable far.inbound.isSome "ok" := by
    rw [Endpoint.inbound_isSome, encrypted]
    decide
  exact step_acknowledged (congrArg Prod.fst (far.decode_wire carriable))

theorem Secrets.step_secured (secrets : Secrets) (unlock : Bytes → Except Error Bytes)
    (far : Endpoint) (locked : Bytes) :
    step unlock .acknowledgement (secrets.challenging far locked)
        (some (.line (Text.utf8 (Lane.wire (some secrets.cipher.outgoing) "ok")))) =
      (.ok none, secrets.secured far locked) := by
  have accepted := step_acknowledgement unlock (secrets.challenging_encrypted far locked)
  rw [secrets.challenging_inbound] at accepted
  rw [accepted, secured]

end Responder

section Initiator

variable {secrets : Secrets} {lock : Bytes → Except Error Bytes} {locked : Bytes}

section Steps

variable {π : Type} [Peer π] {channel after waiting : Channel π} {error : Error}

theorem initiate_locked_out (refused : lock (Text.utf8 secrets.offer) = .error error)
    (channel : Channel π) : (initiate secrets lock).run channel = (.error error, channel) := by
  rw [initiate, refused]
  rfl

theorem initiate_unsent (offered : lock (Text.utf8 secrets.offer) = .ok locked)
    (unsent : channel.send (Base64.encode locked) = (.error error, after)) :
    (initiate secrets lock).run channel = (.error error, after) := by
  have written : (Talk.writeLine (Base64.encode locked)).run channel = _ := unsent
  rw [initiate, offered, Talk.run_ok (Talk.run_ofExcept _ channel)]
  exact Talk.run_error written

theorem initiate_done (offered : lock (Text.utf8 secrets.offer) = .ok locked)
    (sent : channel.send (Base64.encode locked) = (.ok (), waiting))
    (awaited : (awaitChallenge secrets).run
      { waiting with endpoint := waiting.endpoint.withCipher (some secrets.cipher) } =
        (.ok (), after)) :
    (initiate secrets lock).run channel =
      (.ok (), { after with endpoint := after.endpoint.withSecure }) := by
  have written : (Talk.writeLine (Base64.encode locked)).run channel = _ := sent
  rw [initiate, offered, Talk.run_ok (Talk.run_ofExcept _ channel), Talk.run_ok written,
    Talk.run_ok (Talk.run_alter _ waiting), Talk.run_bind, Talk.run_try, awaited]
  rfl

theorem initiate_failed (offered : lock (Text.utf8 secrets.offer) = .ok locked)
    (sent : channel.send (Base64.encode locked) = (.ok (), waiting))
    (failed : (awaitChallenge secrets).run
      { waiting with endpoint := waiting.endpoint.withCipher (some secrets.cipher) } =
        (.error error, after)) :
    (initiate secrets lock).run channel =
      (.error error, { after with endpoint := after.endpoint.withCipher none }) := by
  have written : (Talk.writeLine (Base64.encode locked)).run channel = _ := sent
  rw [initiate, offered, Talk.run_ok (Talk.run_ofExcept _ channel), Talk.run_ok written,
    Talk.run_ok (Talk.run_alter _ waiting), Talk.run_bind, Talk.run_try, failed]
  rfl

theorem awaitChallenge_wrote (secrets : Secrets) (channel : Channel π) :
    ∃ acknowledged, Wrote channel.endpoint acknowledged
        ((awaitChallenge secrets).run channel).2.endpoint ∧
      (acknowledged = ["ok"] ∨
        acknowledged = [] ∧ ∃ error, ((awaitChallenge secrets).run channel).1 = .error error) := by
  rcases received : Talk.readLine.run channel with ⟨result, heard⟩
  have wrote : Wrote channel.endpoint [] heard.endpoint := by
    have read := Talk.writes_readLine channel
    rw [received] at read
    exact read
  rw [awaitChallenge]
  cases result with
  | error error =>
      rw [Talk.run_error received]
      exact ⟨[], wrote, Or.inr ⟨rfl, error, rfl⟩⟩
  | ok reply =>
      rw [Talk.run_ok received]
      cases checked : checkChallenge secrets.nonce reply with
      | error error =>
          rw [Talk.run_error (Talk.run_ofExcept (.error error) heard)]
          exact ⟨[], wrote, Or.inr ⟨rfl, error, rfl⟩⟩
      | ok value =>
          rw [Talk.run_ok (Talk.run_ofExcept (.ok value) heard)]
          exact ⟨["ok"], wrote.append (Talk.writes_writeLine "ok" heard), Or.inl rfl⟩

/-- What an initiator in clear has written when it is done: the offer, and under the new cipher nothing
but the acknowledgement. -/
theorem initiate_wrote (clear : channel.endpoint.cipher = none)
    (offered : lock (Text.utf8 secrets.offer) = .ok locked) :
    ∃ acknowledged,
      ((initiate secrets lock).run channel).2.endpoint.sent =
        channel.endpoint.sent ++ [Base64.encode locked] ++
          Lane.wires (some secrets.cipher.outgoing) acknowledged ∧
      ((∃ error, ((initiate secrets lock).run channel).1 = .error error) ∧
          (acknowledged = [] ∨ acknowledged = ["ok"]) ∨
        ((initiate secrets lock).run channel).1 = .ok () ∧ acknowledged = ["ok"] ∧
          ((initiate secrets lock).run channel).2.endpoint.outbound =
            Lane.afterAll (some secrets.cipher.outgoing) ["ok"]) := by
  have one_line : '\n' ∉ (Base64.encode locked).toList :=
    Base64.encode_free _ (by decide) (by decide)
  have said := channel.send_endpoint one_line
  have offer_sent : (channel.endpoint.wrote (Base64.encode locked)).sent =
      channel.endpoint.sent ++ [Base64.encode locked] := Endpoint.wrote_in_clear clear _
  rcases sent : channel.send (Base64.encode locked) with ⟨result, waiting⟩
  rw [sent] at said
  cases result with
  | error error =>
      rw [initiate_unsent offered sent, said, offer_sent]
      exact ⟨[], (List.append_nil _).symm, Or.inl ⟨⟨error, rfl⟩, Or.inl rfl⟩⟩
  | ok value =>
      obtain ⟨acknowledged, wrote, ended⟩ := awaitChallenge_wrote secrets
        { waiting with endpoint := waiting.endpoint.withCipher (some secrets.cipher) }
      rcases awaited : (awaitChallenge secrets).run
        { waiting with endpoint := waiting.endpoint.withCipher (some secrets.cipher) } with
        ⟨result, after⟩
      rw [awaited] at wrote ended
      have whole : after.endpoint.sent = channel.endpoint.sent ++ [Base64.encode locked] ++
          Lane.wires (some secrets.cipher.outgoing) acknowledged := by
        rw [wrote.sent, ← offer_sent, ← said]
        rfl
      cases result with
      | error error =>
          rw [initiate_failed offered sent awaited]
          refine ⟨acknowledged, whole, Or.inl ⟨⟨error, rfl⟩, ?_⟩⟩
          exact ended.elim Or.inr fun nothing => Or.inl nothing.1
      | ok value =>
          rw [initiate_done offered sent awaited]
          rcases ended with rfl | ⟨_, error, failed⟩
          · exact ⟨["ok"], whole, Or.inr ⟨rfl, rfl, wrote.outbound⟩⟩
          · cases failed

end Steps

variable {σ : Type} [Session σ] {session challenging secured : σ} {far : Endpoint}
  {channel : Channel (Live σ)}

/-- The initiator against a session that answers the offer with the challenge, and takes the
acknowledgement in silence. -/
theorem initiate_linked (linked : Linked session far [] channel) (clear : far.cipher = none)
    (offered : lock (Text.utf8 secrets.offer) = .ok locked)
    (carriable : Carriable false (Base64.encode locked))
    (running : Session.isOver session = false)
    (answers : Session.take session (some (.line (Text.utf8 (Base64.encode locked)))) = challenging)
    (said : Session.sent challenging =
      Session.sent session ++ [Lane.wire (some secrets.cipher.incoming) secrets.challenge])
    (waiting : Session.isOver challenging = false)
    (acknowledges : Session.take challenging
      (some (.line (Text.utf8 (Lane.wire (some secrets.cipher.outgoing) "ok")))) = secured)
    (silent : Session.sent secured = Session.sent challenging) :
    ∃ after, (initiate secrets lock).run channel = (.ok (), after) ∧
      Linked secured (secrets.secured far locked) [] after ∧
      after.endpoint.label = channel.endpoint.label.withSecure true := by
  have lane : channel.endpoint.outbound = none := by
    rw [linked.outbound, Endpoint.inbound, clear, Option.map_none]
  have fits : Fits (Lane.wire none (Base64.encode locked)) := Carriable.fits carriable
  have sent := Channel.send_live linked.unread linked.peer running carriable.one_line
    (by rw [lane]; exact fits) (by rw [lane]; exact answers) said
  let opened : Channel (Live σ) :=
    { endpoint := (channel.endpoint.wrote (Base64.encode locked)).withCipher (some secrets.cipher)
      unread := [Lane.wire (some secrets.cipher.incoming) secrets.challenge].flatMap lineBytes
      peer := ⟨challenging, [], (Session.sent challenging).length⟩ }
  have linked_opened :
      Linked challenging (secrets.challenging far locked) [secrets.challenge] opened := by
    refine ⟨⟨rfl, ?_⟩, rfl, ?_, ?_⟩
    · intro line member
      rw [List.mem_singleton.mp member]
      exact secrets.challenge_carriable
    · rw [secrets.challenging_inbound]
      rfl
    · rw [secrets.challenging_outbound]
      rfl
  obtain ⟨heard, received, linked_heard, heard_end⟩ := linked_opened.receive
  have acknowledgement : Carriable (secrets.challenging far locked).isEncrypted "ok" := by
    rw [secrets.challenging_encrypted]
    decide
  obtain ⟨after, acknowledged, linked_after, after_end⟩ := linked_heard.tell waiting
    acknowledgement (by rw [secrets.challenging_inbound]; exact acknowledges) silent
  have awaited : (awaitChallenge secrets).run opened = (.ok (), after) := by
    have read : Talk.readLine.run opened = (.ok secrets.challenge, heard) :=
      (Talk.run_readLine opened).trans received
    rw [awaitChallenge, Talk.run_ok read, secrets.challenge_read,
      Talk.run_ok (Talk.run_ofExcept _ heard), Talk.run_writeLine, acknowledged]
  refine ⟨_, initiate_done offered sent awaited, ?_, ?_⟩
  · exact ⟨⟨linked_after.unread, fun line member => absurd member List.not_mem_nil⟩,
      linked_after.peer, linked_after.outbound, linked_after.inbound⟩
  · rw [after_end, heard_end]
    rfl

end Initiator

def equalSecrets : Secrets where
  nonce := List.replicate nonceLength 1
  key := List.replicate 32 2
  iv := List.replicate 16 3
  nonce_length := List.length_replicate
  key_length := List.length_replicate
  iv_length := List.length_replicate

end MailExchange.Wire.Handshake
