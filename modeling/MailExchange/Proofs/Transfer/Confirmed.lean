import MailExchange.Proofs.Transfer.RoundTrip
import MailExchange.Proofs.Wire.Exchange
import MailExchange.Proofs.Wire.Link
import MailExchange.Proofs.Wire.Writing

/-!
A delivery to a server of which nothing is known. If it succeeds, the client has sent its whole script
and every command has been answered as it should: what the server said to `send` and to `quit` is known,
and with it that the mail is the server's business now.
-/

namespace MailExchange.Transfer

open Wire (Channel Embeds Endpoint Peer Talk)

/-- The client's end after a server has taken a mail. The reply to the recipients tells whom the server
refuses; every other, the one to `send` among them, is a bare `ok`, and the last is `ok bye`. -/
structure TakenOver (mail : Mail) (refused : Option (List String)) (endpoint : Endpoint) : Prop where
  sent : endpoint.sent = (Client.script mail).map Command.line
  heard : ∃ admission, Client.readRefusal mail.recipients.length admission = .ok refused ∧
    endpoint.heard =
      greeting :: "ok" :: admission :: (Client.content mail).map (fun _ => "ok") ++ ["ok bye"]

namespace Client

variable {π : Type} [Peer π] {channel after : Channel π} {mail : Mail}

section Succeeding

theorem command_exchanged {command : Command}
    (done : (Client.command command).run channel = (.ok (), after)) :
    after.endpoint = channel.endpoint.exchanged [(command.line, "ok")] := by
  obtain ⟨reply, middle, asked, checked⟩ := Talk.bind_ok done
  obtain ⟨text, _, accepted, rest⟩ := Talk.bind_ok checked
  rw [Talk.run_ofExcept] at accepted
  obtain ⟨bare, rfl⟩ := Prod.mk.inj accepted
  cases text with
  | some text => cases rest
  | none =>
      cases rest
      rw [Talk.request_exchanged asked, Wire.expectOk_bare bare]

theorem sendContent_forM (mail : Mail) :
    (sendContent mail : Talk π Unit) = forM (content mail) Client.command := by
  unfold sendContent content
  cases mail.tag with
  | none =>
      simp only [Option.toList_none, List.map_nil, List.append_nil, List.cons_append,
        List.nil_append, List.forM_cons, List.forM_nil, bind_pure_unit]
  | some tag =>
      simp only [Option.toList_some, List.map_cons, List.map_nil, List.cons_append,
        List.nil_append, List.forM_cons, List.forM_nil, bind_pure_unit]

theorem commands_exchanged {commands : List Command}
    (done : (forM commands Client.command : Talk π Unit).run channel = (.ok (), after)) :
    after.endpoint =
      channel.endpoint.exchanged (commands.map fun command => (command.line, "ok")) := by
  induction commands generalizing channel with
  | nil =>
      cases done
      rfl
  | cons command commands ih =>
      obtain ⟨_, middle, first, rest⟩ := Talk.bind_ok done
      rw [ih rest, command_exchanged first]
      rfl

theorem begin_exchanged (done : begin.run channel = (.ok (), after)) :
    after.endpoint =
      (channel.endpoint.took greeting).exchanged [(Command.begin.line, "ok")] := by
  obtain ⟨line, middle, read, checked⟩ := Talk.bind_ok done
  by_cases greeted : line = greeting
  · rw [if_neg (not_not.mpr greeted)] at checked
    rw [command_exchanged checked, Wire.Channel.receive_took read, greeted]
  · rw [if_pos greeted] at checked
    cases checked

theorem sendRecipients_exchanged {refused : Option (List String)}
    (done : (sendRecipients mail).run channel = (.ok refused, after)) :
    ∃ admission, readRefusal mail.recipients.length admission = .ok refused ∧
      after.endpoint =
        channel.endpoint.exchanged [((Command.recipients mail.recipients).line, admission)] := by
  obtain ⟨reply, middle, asked, read⟩ := Talk.bind_ok done
  rw [Talk.run_ofExcept] at read
  obtain ⟨admitted, rfl⟩ := Prod.mk.inj read
  exact ⟨reply, admitted, Talk.request_exchanged asked⟩

theorem quit_exchanged (done : quit.run channel = (.ok (), after)) :
    after.endpoint = channel.endpoint.exchanged [(Command.quit.line, "ok bye")] := by
  obtain ⟨reply, middle, asked, checked⟩ := Talk.bind_ok done
  by_cases bye : reply = "ok bye"
  · rw [if_neg (not_not.mpr bye)] at checked
    cases checked
    rw [Talk.request_exchanged asked, bye]
  · rw [if_pos bye] at checked
    obtain ⟨_, _, _, thrown⟩ := Talk.bind_ok checked
    cases thrown

def conversation (mail : Mail) (admission : String) : List (String × String) :=
  (Command.begin.line, "ok") :: ((Command.recipients mail.recipients).line, admission) ::
    ((content mail).map fun command => (command.line, "ok")) ++ [(Command.quit.line, "ok bye")]

theorem deliver_exchanged {refused : Option (List String)}
    (done : deliver mail channel = (⟨.ok (), refused⟩, after)) :
    ∃ admission, readRefusal mail.recipients.length admission = .ok refused ∧
      after.endpoint =
        (channel.endpoint.took greeting).exchanged (conversation mail admission) := by
  rcases begun : begin.run channel with ⟨result, first⟩
  rw [deliver, begun] at done
  cases result with
  | error error => cases done
  | ok value =>
      rcases listed : (sendRecipients mail).run first with ⟨result, second⟩
      simp only [sendMail, listed] at done
      cases result with
      | error error => cases done
      | ok refusal =>
          rcases filled : (sendContent mail).run second with ⟨result, third⟩
          simp only [filled] at done
          cases result with
          | error error => cases done
          | ok value =>
              rcases left : quit.run third with ⟨result, last⟩
              simp only [left] at done
              cases done
              obtain ⟨admission, admitted, recipients⟩ := sendRecipients_exchanged listed
              rw [sendContent_forM] at filled
              refine ⟨admission, admitted, ?_⟩
              rw [quit_exchanged left, commands_exchanged filled, recipients, begin_exchanged begun,
                ← Endpoint.exchanged_append, ← Endpoint.exchanged_append,
                ← Endpoint.exchanged_append]
              rfl

theorem deliver_takenOver {refused : Option (List String)} (clear : channel.endpoint.cipher = none)
    (unsaid : channel.endpoint.sent = []) (unheard : channel.endpoint.heard = [])
    (done : deliver mail channel = (⟨.ok (), refused⟩, after)) :
    TakenOver mail refused after.endpoint := by
  obtain ⟨admission, admitted, exchanged⟩ := deliver_exchanged done
  have still_clear : (channel.endpoint.took greeting).cipher = none := by
    rw [Endpoint.took, clear]
    rfl
  refine ⟨?_, admission, admitted, ?_⟩
  · rw [exchanged, Endpoint.exchanged_sent still_clear, Endpoint.took_sent, unsaid]
    simp only [conversation, script, commands, List.map_cons, List.map_append, List.map_map,
      List.map_nil, List.nil_append, List.cons_append]
    rfl
  · rw [exchanged, Endpoint.exchanged_heard, Endpoint.took, unheard]
    simp only [conversation, List.map_cons, List.map_append, List.map_map, List.map_nil,
      List.nil_append, List.cons_append]
    rfl

end Succeeding

section Transporting

variable {ρ : Type} [Peer ρ] {embed : π → ρ}

theorem command_alike (embeds : Embeds embed) (command : Command) :
    Talk.Alike embed (Client.command command) (Client.command command) := by
  apply (Talk.alike_request embeds command.line).bind
  intro reply
  apply (Talk.alike_ofExcept (Wire.expectOk reply)).bind
  intro text
  cases text with
  | none => exact Talk.alike_pure ()
  | some text => exact Talk.alike_throw _

theorem begin_alike (embeds : Embeds embed) : Talk.Alike embed begin begin := by
  apply (Talk.alike_readLine embeds).bind
  intro line
  split
  · exact Talk.alike_throw _
  · exact command_alike embeds .begin

theorem sendRecipients_alike (embeds : Embeds embed) (mail : Mail) :
    Talk.Alike embed (sendRecipients mail) (sendRecipients mail) :=
  (Talk.alike_request embeds _).bind fun _ => Talk.alike_ofExcept _

theorem sendContent_alike (embeds : Embeds embed) (mail : Mail) :
    Talk.Alike embed (sendContent mail) (sendContent mail) := by
  rw [sendContent_forM, sendContent_forM]
  induction content mail with
  | nil => exact Talk.alike_pure _
  | cons command commands ih => exact (command_alike embeds command).bind fun _ => ih

theorem quit_alike (embeds : Embeds embed) : Talk.Alike embed quit quit := by
  apply (Talk.alike_request embeds Command.quit.line).bind
  intro reply
  split
  · exact (Talk.alike_ofExcept _).bind fun _ => Talk.alike_throw _
  · exact Talk.alike_pure ()

theorem sendMail_map (embeds : Embeds embed) (mail : Mail) (channel : Channel π) :
    sendMail mail (channel.map embed) =
      ((sendMail mail channel).1, (sendMail mail channel).2.map embed) := by
  have listed := sendRecipients_alike embeds mail channel
  rcases ran : (sendRecipients mail).run channel with ⟨result, middle⟩
  rw [ran] at listed
  simp only [sendMail, ran, listed]
  cases result with
  | error error => rfl
  | ok refused =>
      simp only [sendContent_alike embeds mail middle]
      rfl

theorem deliver_map (embeds : Embeds embed) (mail : Mail) (channel : Channel π) :
    deliver mail (channel.map embed) =
      ((deliver mail channel).1, (deliver mail channel).2.map embed) := by
  have begun := begin_alike embeds channel
  rcases ran : begin.run channel with ⟨result, first⟩
  rw [ran] at begun
  simp only [deliver, ran, begun]
  cases result with
  | error error => rfl
  | ok value =>
      have sent := sendMail_map embeds mail first
      rcases submitted : sendMail mail first with ⟨⟨result, refused⟩, middle⟩
      rw [submitted] at sent
      simp only [submitted, sent]
      cases result with
      | error error => rfl
      | ok value =>
          simp only [quit_alike embeds middle]
          rfl

end Transporting

end Client

end MailExchange.Transfer
