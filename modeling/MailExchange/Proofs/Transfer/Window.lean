import MailExchange.Proofs.Mail.Journal
import MailExchange.Proofs.Transfer.Draft
import MailExchange.Proofs.Wire.Session

/-!
What a session hands to its consumer, told from the conversation alone. The turns since `begin` or
the last mail that was taken are a window; a `send` hands over what was said last, and accepted, in
it.
-/

namespace MailExchange.Transfer

structure Turn where
  command : Command
  reply : String

namespace Command

def acceptedSender? : Command → Option String
  | sender address => if Address.isValid address then some address else none
  | _ => none

def acceptedRecipients? : Command → Option (List String)
  | recipients addresses => if addresses.all Address.isValid then some addresses else none
  | _ => none

def subject? : Command → Option String
  | subject text => some text
  | _ => none

def body? : Command → Option String
  | body text => some text
  | _ => none

def hash? : Command → Option String
  | tag text => some text
  | _ => none

def fills (command : Command) : Field → Bool
  | .sender => command.acceptedSender?.isSome
  | .recipients => command.acceptedRecipients?.isSome
  | .subject => command.subject?.isSome
  | .body => command.body?.isSome

end Command

/-- Whether a new mail begins after a turn. -/
def Turn.opens (turn : Turn) : Bool :=
  turn.command == .begin || (turn.command == .send && turn.reply == "ok")

/-- The turns since `begin` or the last mail that was taken. -/
def window (turns : List Turn) : List Turn :=
  (turns.reverse.takeWhile fun turn => !turn.opens).reverse

def lastSaid {α : Type} (read : Command → Option α) (turns : List Turn) : Option α :=
  (turns.filterMap fun turn => read turn.command).getLast?

def missing? (turns : List Turn) : Option Field :=
  Field.order.find? fun field => !turns.any (·.command.fills field)

/-- A mail of what was said last of each field. -/
structure Composes (turns : List Turn) (mail : Mail) : Prop where
  sender : lastSaid Command.acceptedSender? turns = some mail.sender
  recipients : lastSaid Command.acceptedRecipients? turns = some mail.recipients
  subject : lastSaid Command.subject? turns = some mail.subject
  body : lastSaid Command.body? turns = some mail.body
  tag : lastSaid Command.hash? turns = mail.tag

/-- The calls of a consumer that a conversation accounts for. -/
inductive Dealt : List Turn → List (Mail × Except Error Unit) → Prop
  | start : Dealt [] []
  | other {turns : List Turn} {calls : List (Mail × Except Error Unit)} (dealt : Dealt turns calls)
      (turn : Turn) (no_send : turn.command ≠ .send) : Dealt (turns ++ [turn]) calls
  /-- A `send` that stands before `begin`. -/
  | early {turns : List Turn} {calls : List (Mail × Except Error Unit)} (dealt : Dealt turns calls)
      (idle : ∀ turn ∈ turns, turn.command ≠ .begin) :
      Dealt (turns ++ [⟨.send, "error protocol error"⟩]) calls
  | incomplete {turns : List Turn} {calls : List (Mail × Except Error Unit)}
      (dealt : Dealt turns calls) (begun : ∃ turn ∈ turns, turn.command = .begin) {field : Field}
      (lacking : missing? (window turns) = some field) :
      Dealt (turns ++ [⟨.send, "error no " ++ field.name⟩]) calls
  | handed {turns : List Turn} {calls : List (Mail × Except Error Unit)}
      (dealt : Dealt turns calls) (begun : ∃ turn ∈ turns, turn.command = .begin) {mail : Mail}
      (full : missing? (window turns) = none) (composed : Composes (window turns) mail)
      (result : Except Error Unit) :
      Dealt (turns ++ [⟨.send, Desk.verdict result⟩]) (calls ++ [(mail, result)])

def said (turns : List Turn) : Draft :=
  ⟨lastSaid Command.acceptedSender? turns, lastSaid Command.acceptedRecipients? turns,
    lastSaid Command.subject? turns, lastSaid Command.body? turns, lastSaid Command.hash? turns⟩

theorem window_append (turns : List Turn) (turn : Turn) :
    window (turns ++ [turn]) = if turn.opens then [] else window turns ++ [turn] := by
  unfold window
  rw [List.reverse_append, List.reverse_singleton, List.singleton_append, List.takeWhile_cons]
  cases turn.opens with
  | true => rfl
  | false => exact List.reverse_cons

theorem lastSaid_append {α : Type} (read : Command → Option α) (turns : List Turn) (turn : Turn) :
    lastSaid read (turns ++ [turn]) = (read turn.command).or (lastSaid read turns) := by
  unfold lastSaid
  rw [List.filterMap_append, List.getLast?_append, List.filterMap_cons]
  cases read turn.command with
  | none => rfl
  | some value => rfl

theorem lastSaid_mem {α : Type} {read : Command → Option α} {turns : List Turn} {value : α}
    (found : lastSaid read turns = some value) : ∃ turn ∈ turns, read turn.command = some value :=
  List.mem_filterMap.mp (List.mem_of_getLast? found)

theorem lastSaid_isSome {α : Type} (read : Command → Option α) (turns : List Turn) :
    turns.any (fun turn => (read turn.command).isSome) = (lastSaid read turns).isSome := by
  cases found : lastSaid read turns with
  | some value =>
      obtain ⟨turn, present, reads⟩ := lastSaid_mem found
      rw [Option.isSome_some, List.any_eq_true]
      exact ⟨turn, present, by rw [reads]; rfl⟩
  | none =>
      rw [lastSaid, List.getLast?_eq_none_iff, List.filterMap_eq_nil_iff] at found
      rw [Option.isSome_none, List.any_eq_false]
      intro turn present
      rw [found turn present]
      exact Bool.false_ne_true

theorem missing_said (turns : List Turn) : missing? turns =
    Field.order.find? fun field => !(said turns).has field := by
  unfold missing?
  congr 1
  funext field
  cases field with
  | sender => exact congrArg not (lastSaid_isSome Command.acceptedSender? turns)
  | recipients => exact congrArg not (lastSaid_isSome Command.acceptedRecipients? turns)
  | subject => exact congrArg not (lastSaid_isSome Command.subject? turns)
  | body => exact congrArg not (lastSaid_isSome Command.body? turns)

theorem said_recipients {turns : List Turn} (formed : ∀ turn ∈ turns, turn.command.WellFormed)
    {addresses : List String} (found : (said turns).recipients = some addresses) :
    addresses ≠ [] := by
  obtain ⟨turn, present, reads⟩ := lastSaid_mem found
  have listed := formed turn present
  revert reads listed
  cases turn.command with
  | recipients others =>
      intro reads listed
      rw [Command.acceptedRecipients?] at reads
      split at reads
      · rw [← Option.some.inj reads]
        exact listed.1
      · cases reads
  | _ => intro reads; cases reads

theorem complete_said {turns : List Turn} (formed : ∀ turn ∈ turns, turn.command.WellFormed) :
    (∃ field, missing? turns = some field ∧ (said turns).complete = .error field) ∨
      ∃ mail, missing? turns = none ∧ Composes turns mail ∧ (said turns).complete = .ok mail := by
  have listed : (said turns).recipients ≠ some [] := fun found => said_recipients formed found rfl
  have lacking := Draft.complete_missing listed
  rw [← missing_said] at lacking
  cases complete : (said turns).complete with
  | error field =>
      rw [complete] at lacking
      exact Or.inl ⟨field, lacking, rfl⟩
  | ok mail =>
      rw [complete] at lacking
      have same := Draft.complete_ok complete
      exact Or.inr ⟨mail, lacking, ⟨congrArg Draft.sender same, congrArg Draft.recipients same,
        congrArg Draft.subject same, congrArg Draft.body same, congrArg Draft.tag same⟩, rfl⟩

def Command.amend (command : Command) (draft : Draft) : Draft :=
  ⟨command.acceptedSender?.or draft.sender, command.acceptedRecipients?.or draft.recipients,
    command.subject?.or draft.subject, command.body?.or draft.body, command.hash?.or draft.tag⟩

theorem said_append (turns : List Turn) (turn : Turn) :
    said (turns ++ [turn]) = turn.command.amend (said turns) := by
  simp only [said, lastSaid_append, Command.amend]

theorem said_window_append {turns : List Turn} {turn : Turn} (same : turn.opens = false) :
    said (window (turns ++ [turn])) = turn.command.amend (said (window turns)) := by
  rw [window_append, same, if_neg Bool.false_ne_true, said_append]

theorem opens_other {turn : Turn} (no_begin : turn.command ≠ .begin)
    (no_send : turn.command ≠ .send) : turn.opens = false := by
  rw [Turn.opens, beq_false_of_ne no_begin, beq_false_of_ne no_send]
  rfl

namespace Desk

section Amending

variable {κ : Type} [Consumer κ] {desk after : Desk κ} {command : Command} {reply : String}

theorem Response.amends (response : Response desk command reply after) (no_send : command ≠ .send) :
    after = ⟨desk.consumer, command.amend desk.draft⟩ := by
  cases response with
  | admitted addresses valid =>
      rw [Command.amend, Command.acceptedRecipients?, if_pos (List.all_eq_true.mpr valid)]
      rfl
  | invalid_recipient addresses address present invalid =>
      rw [Command.amend, Command.acceptedRecipients?,
        if_neg (fun all => invalid (List.all_eq_true.mp all address present))]
      rfl
  | sender address valid =>
      rw [Command.amend, Command.acceptedSender?, if_pos valid]
      rfl
  | invalid_sender address invalid =>
      rw [Command.amend, Command.acceptedSender?, if_neg invalid]
      rfl
  | subject text => rfl
  | body text => rfl
  | tag text => rfl
  | incomplete => exact absurd rfl no_send
  | handed => exact absurd rfl no_send

end Amending

variable {κ : Type} [Consumer κ] {desk after : Desk (Journal κ)} {command : Command}
  {reply : String} {turns : List Turn}

theorem Response.send_dealt (response : Response desk .send reply after)
    (begun : ∃ turn ∈ turns, turn.command = .begin)
    (formed : ∀ turn ∈ turns, turn.command.WellFormed) (dealt : Dealt turns desk.consumer.calls)
    (kept : desk.draft = said (window turns)) :
    Dealt (turns ++ [⟨.send, reply⟩]) after.consumer.calls ∧
      after.draft = said (window (turns ++ [⟨.send, reply⟩])) := by
  have within : ∀ turn ∈ window turns, turn.command.WellFormed := by
    intro turn member
    rw [window, List.mem_reverse] at member
    exact formed turn (List.mem_reverse.mp ((List.takeWhile_prefix _).mem member))
  have whole := complete_said within
  rw [← kept] at whole
  cases response with
  | incomplete missing complete =>
      rw [complete] at whole
      obtain ⟨field, lacking, same⟩ | ⟨_, _, _, impossible⟩ := whole
      · cases same
        have closed : Turn.opens ⟨.send, "error no " ++ missing.name⟩ = false := by
          cases missing <;> decide
        rw [said_window_append closed, ← kept]
        exact ⟨.incomplete dealt begun lacking, rfl⟩
      · cases impossible
  | handed mail complete =>
      rw [complete] at whole
      obtain ⟨_, _, impossible⟩ | ⟨_, full, composed, same⟩ := whole
      · cases impossible
      · cases same
        refine ⟨.handed dealt begun full composed _, ?_⟩
        cases (Consumer.consume desk.consumer mail).1 with
        | ok _ =>
            change {} = said (window (turns ++ [⟨.send, "ok"⟩]))
            rw [window_append, if_pos (by decide)]
            rfl
        | error _ =>
            change desk.draft = said (window (turns ++ [⟨.send, "error consuming email"⟩]))
            rw [said_window_append (by decide), ← kept]
            rfl

theorem Response.dealt (response : Response desk command reply after)
    (begun : ∃ turn ∈ turns, turn.command = .begin)
    (formed : ∀ turn ∈ turns, turn.command.WellFormed) (dealt : Dealt turns desk.consumer.calls)
    (kept : desk.draft = said (window turns)) :
    Dealt (turns ++ [⟨command, reply⟩]) after.consumer.calls ∧
      after.draft = said (window (turns ++ [⟨command, reply⟩])) := by
  by_cases send : command = .send
  · subst send
    exact response.send_dealt begun formed dealt kept
  · have no_begin : command ≠ .begin := by
      rintro rfl
      cases response
    rw [response.amends send, said_window_append (opens_other no_begin send), kept]
    exact ⟨.other dealt ⟨command, reply⟩ send, rfl⟩

end Desk

end MailExchange.Transfer
