import MailExchange.Mail.Integrity
import MailExchange.Proofs.Bytes.Encoding
import MailExchange.Proofs.Transfer.Sequence
import MailExchange.Proofs.Transfer.Stock

/-!
What an integrity tag vouches for. What is hashed has no escapes in it, but no field that has come over
the wire holds what stands between two of them, so that it can be read in one way only. Nothing is
vouched for under an empty key.
-/

namespace MailExchange.Mail

open Text (Bytes)

/-- Two mails that differ in their tags at most. -/
structure Agrees (mail other : Mail) : Prop where
  sender : mail.sender = other.sender
  recipients : mail.recipients = other.recipients
  subject : mail.subject = other.subject
  body : mail.body = other.body

section Fields

variable {mail other : Mail}

theorem Presentable.recipients_free (presentable : mail.Presentable) :
    '\n' ∉ mail.joinedRecipients.toList := Text.join_free (by decide) presentable.one_line.2.1

theorem Presentable.fields_free (presentable : mail.Presentable) :
    ∀ field ∈ [mail.sender, mail.joinedRecipients, mail.subject, mail.body],
      '\n' ∉ field.toList := by
  have one_line := presentable.one_line
  intro field member
  simp only [List.mem_cons, List.not_mem_nil, or_false] at member
  rcases member with rfl | rfl | rfl | rfl
  · exact one_line.1
  · exact presentable.recipients_free
  · exact one_line.2.2.1
  · exact one_line.2.2.2.1

theorem joinedRecipients_injective (presentable : mail.Presentable) (also : other.Presentable)
    (same : mail.joinedRecipients = other.joinedRecipients) : mail.recipients = other.recipients := by
  have comma : ",".toList = [','] := by decide
  apply Text.join_injective comma presentable.some_recipient also.some_recipient _ _ same
  · intro address present
    exact Address.valid_free (presentable.recipients address present) (by decide) (by decide)
  · intro address present
    exact Address.valid_free (also.recipients address present) (by decide) (by decide)

theorem integrityInput_injective (presentable : mail.Presentable) (also : other.Presentable)
    (same : mail.integrityInput = other.integrityInput) : mail.Agrees other := by
  have line_feed : "\n".toList = ['\n'] := by decide
  have fields := Text.join_injective line_feed (List.cons_ne_nil _ _) (List.cons_ne_nil _ _)
    presentable.fields_free also.fields_free same
  simp only [List.cons.injEq, and_true] at fields
  rcases fields with ⟨sender, recipients, subject, body⟩
  exact ⟨sender, joinedRecipients_injective presentable also recipients, subject, body⟩

end Fields

section Tags

variable {key hash : Bytes} {mail signed : Mail}

theorem keyedHash_filled (filled : key ≠ []) (message : Bytes) :
    keyedHash key message = .ok (Sha256.hmac key message) := if_neg filled

theorem sign_filled (filled : key ≠ []) (mail : Mail) : sign key mail = .ok { mail with
    tag := some (Base64.encode (Sha256.hmac key (Text.utf8 mail.integrityInput))) } := by
  rw [sign, keyedHash_filled filled]
  rfl

theorem sign_ok (made : sign key mail = .ok signed) : key ≠ [] ∧ signed = { mail with
    tag := some (Base64.encode (Sha256.hmac key (Text.utf8 mail.integrityInput))) } := by
  have filled : key ≠ [] := by
    rintro rfl
    cases made
  rw [sign_filled filled, Except.ok.injEq] at made
  exact ⟨filled, made.symm⟩

theorem verify_true : verify key mail = .ok true ↔ key ≠ [] ∧
    ∃ tag, mail.tag = some tag ∧
      Base64.decode? tag = some (Sha256.hmac key (Text.utf8 mail.integrityInput)) := by
  have claimed_iff (hash : Bytes) : mail.claimedHash? = some hash ↔
      ∃ tag, mail.tag = some tag ∧ Base64.decode? tag = some hash := Option.bind_eq_some_iff
  rw [← claimed_iff, verify]
  cases mail.claimedHash? with
  | none => simp only [Except.ok.injEq, Bool.false_eq_true, reduceCtorEq, and_false]
  | some claimed =>
      by_cases filled : key ≠ []
      · simp only [keyedHash_filled filled, Except.map, Except.ok.injEq, beq_iff_eq,
          Option.some.injEq]
        exact (and_iff_right filled).symm
      · simp only [keyedHash, not_not.mp filled, if_true, Except.map, reduceCtorEq, ne_eq,
          not_true_eq_false, false_and]

theorem verify_transplanted {other : Mail} (made : sign key mail = .ok signed) :
    verify key { other with tag := signed.tag } = .ok true ↔
      Sha256.hmac key (Text.utf8 mail.integrityInput) =
        Sha256.hmac key (Text.utf8 other.integrityInput) := by
  rcases sign_ok made with ⟨filled, rfl⟩
  rw [verify_true]
  constructor
  · intro ⟨_, tag, found, decoded⟩
    cases found
    rw [Base64.decode_encode] at decoded
    exact Option.some.inj decoded
  · intro same
    exact ⟨filled, _, rfl, (Base64.decode_encode _).trans (congrArg some same)⟩

end Tags

/-- A tag that is made under a key vouches for every field: on another mail it is right only if the
hash makes no difference between two texts. -/
theorem tag_vouches :
    (∀ mail other : Mail, mail.Handed → other.Handed →
      mail.integrityInput = other.integrityInput → mail.Agrees other) ∧
    (∀ (key : Bytes) (mail other signed : Mail), mail.Handed → other.Handed →
      sign key mail = .ok signed → ¬ mail.Agrees other →
      Text.utf8 mail.integrityInput ≠ Text.utf8 other.integrityInput ∧
      (verify key { other with tag := signed.tag } = .ok true ↔
        Sha256.hmac key (Text.utf8 mail.integrityInput) =
          Sha256.hmac key (Text.utf8 other.integrityInput))) ∧
    (∀ key : Bytes, key ≠ [] → ∀ mail : Mail,
      (∃ signed, sign key mail = .ok signed ∧ mail.Agrees signed ∧ verify key signed = .ok true) ∧
      (verify key mail = .ok true ↔ ∃ tag, mail.tag = some tag ∧
        Base64.decode? tag = some (Sha256.hmac key (Text.utf8 mail.integrityInput)))) ∧
    (∀ mail : Mail, sign [] mail = .error .crypto ∧ verify [] mail ≠ .ok true) := by
  have agreed (mail other : Mail) (handed : mail.Handed) (also : other.Handed)
      (same : mail.integrityInput = other.integrityInput) : mail.Agrees other :=
    integrityInput_injective handed.sound.presentable also.sound.presentable same
  refine ⟨agreed, ?_, ?_, ?_⟩
  · intro key mail other signed handed also made different
    refine ⟨fun same => different (agreed mail other handed also ?_), verify_transplanted made⟩
    have texts := congrArg Text.ofUtf8? same
    rw [Text.ofUtf8_utf8, Text.ofUtf8_utf8] at texts
    exact Option.some.inj texts
  · intro key filled mail
    have made := sign_filled filled mail
    constructor
    · exact ⟨_, made, ⟨rfl, rfl, rfl, rfl⟩, (verify_transplanted made).mpr rfl⟩
    · rw [verify_true]
      exact and_iff_right filled
  · intro mail
    refine ⟨rfl, fun verified => ?_⟩
    exact (verify_true.mp verified).1 rfl

theorem signed_vouched : ∃ tagged, sign [1] Transfer.signed = .ok tagged ∧
    verify [1] tagged = .ok true ∧
    (verify [1] { Transfer.unsigned with tag := tagged.tag } = .ok true ↔
      Sha256.hmac [1] (Text.utf8 Transfer.signed.integrityInput) =
        Sha256.hmac [1] (Text.utf8 Transfer.unsigned.integrityInput)) := by
  have different : ¬ Transfer.signed.Agrees Transfer.unsigned := by
    intro agrees
    exact absurd agrees.body (by decide)
  have handed : Transfer.signed.Handed := (Transfer.signed_clean ⟨0⟩).handed
  have also : Transfer.unsigned.Handed := (Transfer.unsigned_clean ⟨0⟩).handed
  rcases (tag_vouches.2.2.1 [1] (List.cons_ne_nil _ _) Transfer.signed).1 with
    ⟨tagged, made, _, verified⟩
  have transplanted := tag_vouches.2.1 [1] Transfer.signed Transfer.unsigned tagged handed also made
    different
  exact ⟨tagged, made, verified, transplanted.2⟩

/-- Without a key nothing is signed, and the tag that an empty key would give is not accepted. -/
theorem unkeyed_refused :
    ¬ (∃ signed, sign [] Transfer.unsigned = .ok signed ∧ verify [] signed = .ok true) ∧
    ¬ (verify [] { Transfer.unsigned with
          tag := some (Base64.encode (Sha256.hmac [] (Text.utf8 Transfer.unsigned.integrityInput))) } =
        .ok true ↔
      ∃ tag, some (Base64.encode (Sha256.hmac [] (Text.utf8 Transfer.unsigned.integrityInput))) =
          some tag ∧
        Base64.decode? tag =
          some (Sha256.hmac [] (Text.utf8 Transfer.unsigned.integrityInput))) := by
  constructor
  · intro ⟨signed, made, _⟩
    exact (sign_ok made).1 rfl
  · intro same
    have verified := same.mpr ⟨_, rfl, Base64.decode_encode _⟩
    exact (verify_true.mp verified).1 rfl

end MailExchange.Mail
