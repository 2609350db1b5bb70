import MailExchange.Proofs.Wire.Handshake

namespace MailExchange.Wire.Handshake

open Text (Bytes)

theorem bind_ok {α β : Type} {first : Except Error α} {next : α → Except Error β} {result : β}
    (done : first.bind next = .ok result) : ∃ value, first = .ok value ∧ next value = .ok result := by
  cases first with
  | error error => cases done
  | ok value => exact ⟨value, rfl, done⟩

theorem Offers.of_readOffer {clear nonce : Bytes} {cipher : Cipher}
    (read : Handshake.readOffer clear = .ok (nonce, cipher)) :
    ∃ key iv, Offers clear nonce key iv ∧ cipher = Cipher.start key iv .responder := by
  rw [Handshake.readOffer] at read
  split at read
  · cases read
  · rename_i text clear_text
    split at read
    · rename_i first second third pieces
      obtain ⟨found, nonce_found, checked⟩ := bind_ok read
      split at checked
      · cases checked
      · rename_i right_length
        obtain ⟨key, key_found, with_key⟩ := bind_ok checked
        obtain ⟨iv, iv_found, with_iv⟩ := bind_ok with_key
        obtain ⟨started, parts, same⟩ := bind_ok with_iv
        rw [Cipher.ofParts] at parts
        split at parts
        · rename_i lengths
          cases parts
          cases same
          have joined : Text.join " " (Text.splitAtEach ' ' text) = text :=
            Text.join_splitAtEach (by decide) text
          rw [pieces, join_words] at joined
          refine ⟨key, iv, ⟨⟨first, second, third, ?_, secret_ok.mp nonce_found,
            secret_ok.mp key_found, secret_ok.mp iv_found⟩, ?_, lengths.1, lengths.2⟩, rfl⟩
          · rw [joined]
            exact (Text.utf8_ofUtf8 clear_text).symm
          · exact not_not.mp right_length
        · cases parts
    · cases read

def OfferLine (unlock : Bytes → Except Error Bytes) (line : String) (nonce key iv : Bytes) : Prop :=
  ∃ locked clear, Base64.Spells line locked ∧ unlock locked = .ok clear ∧ Offers clear nonce key iv

theorem openOffer_ok {unlock : Bytes → Except Error Bytes} {line : String} {nonce : Bytes}
    {cipher : Cipher} : openOffer unlock line = .ok (nonce, cipher) ↔
      ∃ key iv, OfferLine unlock line nonce key iv ∧ cipher = Cipher.start key iv .responder := by
  constructor
  · intro opened
    cases decoded : Base64.decode? line with
    | none =>
        simp only [openOffer, decoded] at opened
        cases opened
    | some locked =>
        simp only [openOffer, decoded] at opened
        obtain ⟨clear, unlocked, read⟩ := bind_ok opened
        obtain ⟨key, iv, offers, same⟩ := Offers.of_readOffer read
        exact ⟨key, iv, ⟨locked, clear, Base64.decode_spells.mp decoded, unlocked, offers⟩, same⟩
  · rintro ⟨key, iv, ⟨locked, clear, spells, unlocked, offers⟩, rfl⟩
    simp only [openOffer, Base64.decode_spells.mpr spells, unlocked, Except.bind, offers.readOffer]

theorem openOffer_cipher {unlock : Bytes → Except Error Bytes} {line : String} {nonce : Bytes}
    {cipher : Cipher} (opened : openOffer unlock line = .ok (nonce, cipher)) :
    ∃ key iv, key.length = 32 ∧ iv.length = 16 ∧ cipher = Cipher.start key iv .responder := by
  obtain ⟨key, iv, ⟨_, _, _, _, offers⟩, same⟩ := openOffer_ok.mp opened
  exact ⟨key, iv, offers.key_length, offers.iv_length, same⟩

/-- What one step of the responder can come to. -/
inductive Responds (unlock : Bytes → Except Error Bytes) (endpoint : Endpoint)
    (frame : Option Frame) : Awaited → Except Error (Option Awaited) × Endpoint → Prop where
  | failed {awaited : Awaited} {error : Error} {after : Endpoint}
      (sent : after.sent = endpoint.sent) (clear : after.cipher = none) :
      Responds unlock endpoint frame awaited (.error error, after)
  | challenged {line : String} {nonce : Bytes} {cipher : Cipher}
      (read : (endpoint.decode frame).1 = .ok line)
      (opened : openOffer unlock line = .ok (nonce, cipher)) :
      Responds unlock endpoint frame .offer (.ok (some .acknowledgement),
        ((endpoint.took line).withCipher (some cipher)).wrote (challenge nonce))
  | acknowledged (read : (endpoint.decode frame).1 = .ok "ok") :
      Responds unlock endpoint frame .acknowledgement (.ok none, (endpoint.took "ok").withSecure)

section Steps

variable {unlock : Bytes → Except Error Bytes} {endpoint : Endpoint} {frame : Option Frame}
  {line : String} {nonce : Bytes} {cipher : Cipher}

theorem step_responds (unlock : Bytes → Except Error Bytes) (awaited : Awaited)
    (endpoint : Endpoint) (frame : Option Frame) :
    Responds unlock endpoint frame awaited (step unlock awaited endpoint frame) := by
  rcases decoded : endpoint.decode frame with ⟨result, after⟩
  cases result with
  | error error =>
      have unchanged := (endpoint.decode_wrote frame).sent
      rw [decoded, Lane.wires, List.append_nil] at unchanged
      cases awaited with
      | offer =>
          simp only [step, decoded]
          exact .failed unchanged rfl
      | acknowledgement =>
          simp only [step, decoded]
          exact .failed unchanged rfl
  | ok line =>
      cases Endpoint.decode_took decoded
      have read : (endpoint.decode frame).1 = .ok line := by rw [decoded]
      cases awaited with
      | offer =>
          cases opened : openOffer unlock line with
          | error error =>
              simp only [step, decoded, answerOffer, opened]
              exact .failed rfl rfl
          | ok offer =>
              rcases offer with ⟨nonce, cipher⟩
              rw [step_challenged read opened]
              exact .challenged read opened
      | acknowledgement =>
          cases checked : checkAcknowledgement line with
          | error error =>
              simp only [step, decoded, checked]
              exact .failed rfl rfl
          | ok value =>
              have ok_line : line = "ok" := by
                rw [checkAcknowledgement] at checked
                split at checked
                · assumption
                · cases checked
              rw [ok_line] at read decoded
              simp only [step, decoded, checkAcknowledgement, if_true]
              exact .acknowledged read

end Steps

end MailExchange.Wire.Handshake
