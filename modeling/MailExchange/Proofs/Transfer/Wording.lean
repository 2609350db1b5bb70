import MailExchange.Proofs.Transfer.Reading
import MailExchange.Proofs.Transfer.Refused
import MailExchange.Proofs.Wire.Wording

namespace MailExchange.Transfer.Client

open Wire (Channel Legible Peer Plain Talk Tells expectOk splitCommand splitCommand_text)

theorem rest_one_line {reply head text : String} (cut : splitCommand reply = (head, some text))
    (one_line : '\n' ∉ reply.toList) : '\n' ∉ text.toList := by
  rw [splitCommand_text cut, List.mem_append, List.mem_cons, not_or, not_or] at one_line
  exact one_line.2.2

theorem expectOk_tells {reply : String} (one_line : '\n' ∉ reply.toList) :
    Tells (fun _ => True) (expectOk reply) := by
  rw [expectOk]
  split
  · trivial
  · rename_i text cut
    apply Error.OneLine.remote
    cases text with
    | none => exact List.not_mem_nil
    | some text => exact rest_one_line cut one_line
  · exact Error.OneLine.unexpectedReply one_line

theorem readRefusal_tells (count : Nat) {reply : String} (one_line : '\n' ∉ reply.toList) :
    Tells (fun _ => True) (readRefusal count reply) := by
  have unexpected : (Error.unexpectedReplyTo "to" reply).OneLine :=
    Error.OneLine.unexpectedReplyTo (by decide) one_line
  rw [readRefusal]
  split
  · split
    · trivial
    · exact unexpected
  · rename_i text cut
    split
    · trivial
    · exact Error.OneLine.remote (rest_one_line cut one_line)
  · have told := expectOk_tells one_line
    cases said : expectOk reply with
    | error error =>
        rw [said] at told
        exact told
    | ok text => exact unexpected

section Yielding

variable {π : Type} [Peer π] {calm : π → Prop}

theorem yields_command (legible : Legible calm) (asked : Command) :
    Talk.Yields calm (command asked) fun _ => True := by
  apply (Talk.yields_request legible asked.line).bind
  intro reply one_line
  apply (Talk.yields_ofExcept (expectOk_tells one_line)).bind
  intro text _
  cases text with
  | none => exact Talk.yields_pure trivial
  | some text => exact Talk.yields_throw (Error.OneLine.unexpectedReply one_line)

theorem yields_commands (legible : Legible calm) (commands : List Command) :
    Talk.Yields calm (forM commands command) fun _ => True := by
  induction commands with
  | nil => exact Talk.yields_pure trivial
  | cons asked commands ih => exact (yields_command legible asked).bind fun _ _ => ih

theorem yields_begin (legible : Legible calm) : Talk.Yields calm begin fun _ => True := by
  apply (Talk.yields_readLine legible).bind
  intro line one_line
  have refused : Talk.Yields calm (throw (Error.unexpectedGreeting line) : Talk π Unit)
      fun _ => True := Talk.yields_throw (Error.OneLine.unexpectedGreeting one_line)
  split
  · exact refused.bind fun _ _ => yields_command legible .begin
  · exact yields_command legible .begin

theorem yields_sendRecipients (legible : Legible calm) (mail : Mail) :
    Talk.Yields calm (sendRecipients mail) fun _ => True :=
  (Talk.yields_request legible (Command.recipients mail.recipients).line).bind
    fun _ one_line => Talk.yields_ofExcept (readRefusal_tells mail.recipients.length one_line)

theorem yields_quit (legible : Legible calm) : Talk.Yields calm quit fun _ => True := by
  apply (Talk.yields_request legible Command.quit.line).bind
  intro reply one_line
  split
  · apply (Talk.yields_ofExcept (expectOk_tells one_line)).bind
    intro _ _
    exact Talk.yields_throw (Error.OneLine.unexpectedReplyTo (by decide) one_line)
  · exact Talk.yields_pure trivial

theorem yields_sendMail (legible : Legible calm) (mail : Mail) :
    Talk.Yields calm (sendRecipients mail >>= fun _ => sendContent mail) fun _ => True := by
  rw [sendContent_forM]
  exact (yields_sendRecipients legible mail).bind fun _ _ => yields_commands legible (content mail)

theorem deliver_tells (legible : Legible calm) (mail : Mail) {channel : Channel π}
    (plain : Plain calm channel) :
    Plain calm (deliver mail channel).2 ∧
      Tells (fun _ => True) (deliver mail channel).1.result := by
  have begun := yields_begin legible channel plain
  rcases greeted : begin.run channel with ⟨result, opened⟩
  rw [greeted] at begun
  cases result with
  | error error =>
      simp only [deliver, greeted]
      exact begun
  | ok value =>
      have submitted := yields_sendMail legible mail opened begun.1
      rw [sendMail_run] at submitted
      rcases sent : sendMail mail opened with ⟨⟨result, refused⟩, middle⟩
      rw [sent] at submitted
      cases result with
      | error error =>
          simp only [deliver, greeted, sent]
          exact submitted
      | ok value =>
          simp only [deliver, greeted, sent]
          exact yields_quit legible middle submitted.1

end Yielding

end MailExchange.Transfer.Client
