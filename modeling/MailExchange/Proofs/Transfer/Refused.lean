import MailExchange.Proofs.Transfer.Confirmed
import MailExchange.Proofs.Wire.Exchange
import MailExchange.Proofs.Wire.Hearing
import Mathlib.Data.List.Basic

namespace MailExchange.Transfer

open Wire (Channel Embeds Fits Heard Live Peer Talk)

/-- Who is refused: the users of the addresses that are not accepted. -/
theorem refuses_mem {κ : Type} [Consumer κ] {consumer : κ} {addresses : List String}
    {refused : Option (List String)} (refuses : Refuses consumer addresses refused) (user : String) :
    user ∈ refused.getD [] ↔ ∃ address ∈ addresses, Consumer.accepts consumer address = false ∧
      Address.user? address = some user := by
  cases refused with
  | none =>
      refine iff_of_false List.not_mem_nil ?_
      rintro ⟨address, member, unaccepted, _⟩
      rw [refuses address member] at unaccepted
      cases unaccepted
  | some users =>
      have listed : some user ∈ users.map some ↔ user ∈ users :=
        List.mem_map_of_injective (Option.some_injective String)
      rw [Option.getD_some, ← listed, ← refuses.2, List.mem_map]
      simp only [List.mem_filter, Bool.not_eq_true', and_assoc]

namespace Client

theorem readRefusal_ok {count : Nat} {reply : String} {refused : Option (List String)}
    (read : readRefusal count reply = .ok refused) :
    (∃ text, reply = "ok " ++ text ∧ (Text.word64? text).map UInt64.toNat = some count ∧
      refused = none) ∨
    ∃ users, reply = "error unknown recipient " ++ users ∧
      refused = some (Text.splitAtEach ',' users) := by
  rw [readRefusal] at read
  split at read
  · rename_i text cut
    split at read
    · rename_i counted
      cases read
      refine Or.inl ⟨text, ?_, counted, rfl⟩
      apply String.toList_inj.mp
      rw [Wire.splitCommand_text cut, String.toList_append]
      rfl
    · cases read
  · rename_i text cut
    split at read
    · rename_i begins
      obtain ⟨rest, whole⟩ := List.isPrefixOf_iff_prefix.mp begins
      refine Or.inr ⟨String.ofList rest, ?_, ?_⟩
      · apply String.toList_inj.mp
        rw [Wire.splitCommand_text cut, ← whole]
        simp only [String.toList_append, String.toList_ofList]
        rfl
      · cases read
        rw [← whole, ← String.length_toList, List.drop_left]
    · cases read
  · cases accepted : Wire.expectOk reply with
    | error error =>
        rw [accepted] at read
        cases read
    | ok text =>
        rw [accepted] at read
        cases read

theorem readRefusal_some {count : Nat} {reply : String} {users : List String} :
    readRefusal count reply = .ok (some users) ↔
      ∃ text, reply = "error unknown recipient " ++ text ∧ users = Text.splitAtEach ',' text := by
  constructor
  · intro read
    rcases readRefusal_ok read with ⟨_, _, _, unrefused⟩ | ⟨text, same, refused⟩
    · cases unrefused
    · exact ⟨text, same, Option.some.inj refused⟩
  · rintro ⟨text, rfl, rfl⟩
    exact refusal_read text count

theorem readRefusal_told {count : Nat} {told : Option String} {users : List String} :
    (told.bind fun reply => (readRefusal count reply).toOption.join) = some users ↔
      ∃ text, told = some ("error unknown recipient " ++ text) ∧
        users = Text.splitAtEach ',' text := by
  have read_some (reply : String) : (readRefusal count reply).toOption.join = some users ↔
      readRefusal count reply = .ok (some users) := by
    cases readRefusal count reply with
    | error error => exact iff_of_false nofun nofun
    | ok refused =>
        rw [Except.ok.injEq]
        rfl
  rw [Option.bind_eq_some_iff]
  simp only [read_some, readRefusal_some]
  constructor
  · rintro ⟨_, replied, text, rfl, named⟩
    exact ⟨text, replied, named⟩
  · rintro ⟨text, replied, named⟩
    exact ⟨_, replied, text, rfl, named⟩

variable {π : Type} [Peer π]

theorem command_hears (command : Command) : (Client.command command : Talk π Unit).Hears 1 := by
  apply (Talk.hears_request command.line).alone
  intro reply
  apply (Talk.hears_ofExcept (Wire.expectOk reply)).alone
  intro text
  cases text with
  | none => exact Talk.hears_pure ()
  | some text => exact Talk.hears_throw _

theorem begin_hears : (begin : Talk π Unit).Hears 2 := by
  change (begin : Talk π Unit).Hears (1 + 1)
  apply Talk.hears_readLine.bind
  intro line
  split
  · exact fun channel => (Talk.hears_throw _ channel).mono (Nat.zero_le 1)
  · exact command_hears .begin

theorem sendContent_hears (mail : Mail) :
    (sendContent mail : Talk π Unit).Hears (content mail).length := by
  rw [sendContent_forM]
  induction content mail with
  | nil => exact Talk.hears_pure _
  | cons command commands ih =>
      rw [List.length_cons, Nat.add_comm]
      exact (command_hears command).bind fun _ => ih

theorem quit_hears : (quit : Talk π Unit).Hears 1 := by
  apply (Talk.hears_request Command.quit.line).alone
  intro reply
  split
  · exact (Talk.hears_ofExcept _).alone fun _ => Talk.hears_throw _
  · exact Talk.hears_pure ()

theorem deliver_listed {mail : Mail} {channel first second : Channel π}
    {refused : Option (List String)} (begun : begin.run channel = (.ok (), first))
    (listed : (sendRecipients mail).run first = (.ok refused, second)) :
    (deliver mail channel).1.refused = refused ∧
      Heard second.endpoint ((content mail).length + 1) (deliver mail channel).2.endpoint := by
  have filled := sendContent_hears mail second
  rcases ran : (sendContent mail).run second with ⟨result, third⟩
  rw [ran] at filled
  simp only [deliver, begun, sendMail, listed, ran]
  cases result with
  | error error => exact ⟨rfl, filled.mono (Nat.le_add_right _ 1)⟩
  | ok value => exact ⟨rfl, filled.append (quit_hears third)⟩

/-- On a new connection, the third line that is heard tells who is refused. -/
theorem deliver_refused {channel : Channel π} (unheard : channel.endpoint.heard = []) (mail : Mail) :
    (deliver mail channel).1.refused = (deliver mail channel).2.endpoint.heard[2]?.bind
      fun reply => (readRefusal mail.recipients.length reply).toOption.join := by
  have few := (begin_hears channel).length_le
  rcases begun : begin.run channel with ⟨result, first⟩
  rw [begun, unheard] at few
  cases result with
  | error error =>
      have late : first.endpoint.heard[2]? = none := List.getElem?_eq_none few
      simp only [deliver, begun, late, Option.bind_none]
  | ok value =>
      have greeted : first.endpoint.heard = [greeting, "ok"] := by
        rw [begin_exchanged begun, Wire.Endpoint.exchanged_heard, Wire.Endpoint.took, unheard]
        rfl
      have asked := Talk.request_heard (Command.recipients mail.recipients).line first
      rcases replied : (Talk.request (Command.recipients mail.recipients).line).run first with
        ⟨answer, second⟩
      rw [replied, greeted] at asked
      cases answer with
      | error error =>
          have listed : (sendRecipients mail).run first = (.error error, second) :=
            Talk.run_error replied
          simp only [deliver, begun, sendMail, listed]
          rw [asked]
          rfl
      | ok reply =>
          have listed : (sendRecipients mail).run first =
              (readRefusal mail.recipients.length reply, second) := Talk.run_ok replied
          have third : second.endpoint.heard[2]? = some reply := by
            rw [asked]
            rfl
          cases read : readRefusal mail.recipients.length reply with
          | error error =>
              rw [read] at listed
              simp only [deliver, begun, sendMail, listed, third, Option.bind_some, read]
              rfl
          | ok refused =>
              rw [read] at listed
              obtain ⟨same, kept⟩ := deliver_listed begun listed
              rw [same, kept.getElem (by rw [asked]; exact Nat.lt_add_one 2), third,
                Option.bind_some, read]
              rfl

theorem deliver_refused_some {channel : Channel π} (unheard : channel.endpoint.heard = [])
    {mail : Mail} {users : List String} : (deliver mail channel).1.refused = some users ↔
      ∃ text, (deliver mail channel).2.endpoint.heard[2]? =
        some ("error unknown recipient " ++ text) ∧ users = Text.splitAtEach ',' text := by
  rw [deliver_refused unheard]
  exact readRefusal_told

theorem deliver_refuses {κ : Type} [Consumer κ] (label client_label : LogPrefix) (consumer : κ)
    {mail : Mail} (carried : (Command.recipients mail.recipients).Carried)
    (valid : ∀ address ∈ mail.recipients, Address.isValid address = true)
    (reply_short :
      (Wire.lineBytes (Desk.admission consumer mail.recipients)).length ≤ Wire.maxLine) :
    Refuses consumer mail.recipients
      (deliver mail (Live.connect client_label (Session.greet label consumer))).1.refused := by
  obtain ⟨first, session, begun, ready, fresh⟩ := begin_ready label client_label consumer
  have reply_fits : Fits (Desk.admission session.desk.consumer mail.recipients) := by
    rw [fresh]
    exact ⟨Desk.admission_one_line consumer mail.recipients, reply_short⟩
  obtain ⟨second, _, refused, listed, refuses, _⟩ :=
    ready.send_recipients valid carried reply_fits
  rw [(deliver_listed begun listed).1]
  rwa [fresh] at refuses

end Client

end MailExchange.Transfer
