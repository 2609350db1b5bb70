import MailExchange.Proofs.Transfer.Server

/-!
Whatever stands in a draft came on a line, so that it can be put on a line again. A complete mail
consists of valid addresses and of texts without line breaks.
-/

namespace MailExchange

open Transfer (Command Desk)

/-- A draft that commands on the wire have made. -/
structure Draft.Sound (draft : Draft) : Prop where
  sender : ∀ address, draft.sender = some address →
    Address.isValid address = true ∧ (Command.sender address).Carried
  recipients : ∀ addresses, draft.recipients = some addresses →
    (∀ address ∈ addresses, Address.isValid address = true) ∧
      (Command.recipients addresses).Carried
  subject : ∀ text, draft.subject = some text → (Command.subject text).Carried
  body : ∀ text, draft.body = some text → (Command.body text).Carried
  tag : ∀ text, draft.tag = some text → (Command.tag text).Carried

/-- A mail that the wire has carried. -/
def Mail.Sound (mail : Mail) : Prop := (Draft.ofMail mail).Sound

/-- What anyone may rely on who is given a mail. -/
structure Mail.Presentable (mail : Mail) : Prop where
  sender : Address.isValid mail.sender = true
  some_recipient : mail.recipients ≠ []
  recipients : ∀ address ∈ mail.recipients, Address.isValid address = true
  one_line : '\n' ∉ mail.sender.toList ∧ (∀ address ∈ mail.recipients, '\n' ∉ address.toList) ∧
    '\n' ∉ mail.subject.toList ∧ '\n' ∉ mail.body.toList ∧
    ∀ tag, mail.tag = some tag → '\n' ∉ tag.toList

def Field.order : List Field := [sender, recipients, subject, body]

/-- A mail with a tag that may be left from an earlier one. -/
def Mail.retagged (mail : Mail) (left : Option String) : Mail :=
  { mail with tag := mail.tag.or left }

def Mail.arrived (mail : Mail) (left : Option String) : Mail :=
  { mail.retagged left with
    subject := Wire.chomp mail.subject, body := Wire.chomp mail.body }

theorem Mail.retagged_eq {mail : Mail} {left : Option String} :
    mail.retagged left = mail ↔ (mail.tag = none → left = none) := by
  rcases mail with ⟨sender, recipients, subject, body, tag⟩
  cases tag with
  | none => simp only [Mail.retagged, Option.none_or, Mail.mk.injEq, true_and, forall_const]
  | some text => simp only [Mail.retagged, Option.some_or, reduceCtorEq, false_implies]

namespace Draft

def has (draft : Draft) : Field → Bool
  | .sender => draft.sender.isSome
  | .recipients => draft.recipients.isSome
  | .subject => draft.subject.isSome
  | .body => draft.body.isSome

theorem complete_missing {draft : Draft} (listed : draft.recipients ≠ some []) :
    Field.order.find? (!draft.has ·) = match draft.complete with
      | .error field => some field
      | .ok _ => none := by
  rcases draft with ⟨_ | sender, _ | _ | ⟨first, others⟩, _ | subject, _ | body, tag⟩ <;>
    first
    | rfl
    | exact absurd rfl listed

theorem sound_empty : ({} : Draft).Sound := by
  constructor <;> intro _ found <;> cases found

theorem complete_ok {draft : Draft} {mail : Mail} (complete : draft.complete = .ok mail) :
    draft = ofMail mail := by
  rcases draft with ⟨sender, recipients, subject, body, tag⟩
  unfold Draft.complete at complete
  split at complete <;> cases complete
  simp_all only [ofMail]

theorem complete_ofMail {mail : Mail} (some_recipient : mail.recipients ≠ []) :
    (ofMail mail).complete = .ok mail := by
  obtain ⟨first, others, listed⟩ := List.exists_cons_of_ne_nil some_recipient
  rcases mail with ⟨sender, recipients, subject, body, tag⟩
  subst listed
  rfl

end Draft

theorem Mail.Sound.presentable {mail : Mail} (sound : mail.Sound) : mail.Presentable := by
  obtain ⟨sender_valid, _⟩ := sound.sender mail.sender rfl
  obtain ⟨recipients_valid, listed⟩ := sound.recipients mail.recipients rfl
  have text_free {start text : String} (fits : Wire.Fits (start ++ text)) : '\n' ∉ text.toList := by
    intro broken
    apply fits.one_line
    rw [String.toList_append]
    exact List.mem_append_right _ broken
  refine ⟨sender_valid, listed.formed.1, recipients_valid, ?_, ?_, ?_, ?_, ?_⟩
  · exact Address.valid_free sender_valid (by decide) (by decide)
  · intro address present
    exact Address.valid_free (recipients_valid address present) (by decide) (by decide)
  · exact text_free (sound.subject mail.subject rfl).fits
  · exact text_free (sound.body mail.body rfl).fits
  · intro tag found
    exact text_free (sound.tag tag found).fits

namespace Transfer.Desk

variable {κ : Type} [Consumer κ] {desk after : Desk κ} {command : Command} {reply : String}

theorem Response.sound (response : Response desk command reply after) (sound : desk.draft.Sound)
    (carried : command.Carried) : after.draft.Sound := by
  cases response with
  | admitted addresses valid =>
      exact { sound with recipients := fun _ set => Option.some.inj set ▸ ⟨valid, carried⟩ }
  | sender address valid =>
      exact { sound with sender := fun _ set => Option.some.inj set ▸ ⟨valid, carried⟩ }
  | subject text => exact { sound with subject := fun _ set => Option.some.inj set ▸ carried }
  | body text => exact { sound with body := fun _ set => Option.some.inj set ▸ carried }
  | tag text => exact { sound with tag := fun _ set => Option.some.inj set ▸ carried }
  | invalid_recipient => exact sound
  | invalid_sender => exact sound
  | incomplete => exact sound
  | handed mail complete =>
      cases (Consumer.consume desk.consumer mail).1 with
      | ok _ => exact Draft.sound_empty
      | error _ => exact sound

end Transfer.Desk

end MailExchange
