import MailExchange.Network.Dial
import MailExchange.Proofs.Text.Split
import MailExchange.Proofs.Wire.Link
import MailExchange.Proofs.Wire.Writing

/-!
The words for the errors that a client meets in clear. What it reads has no line break in it, and so
no error has, as long as the peer itself, or the way to it, reports errors on one line.
-/

namespace MailExchange

open Text (Bytes)

def Error.OneLine (error : Error) : Prop := '\n' ∉ error.message.toList

namespace Error.OneLine

variable {text : String}

theorem protocol (one_line : '\n' ∉ text.toList) : (Error.protocol text).OneLine :=
  Text.append_free.mpr ⟨by decide, one_line⟩

theorem remote (one_line : '\n' ∉ text.toList) : (Error.remote text).OneLine :=
  Text.append_free.mpr ⟨by decide, one_line⟩

theorem unexpectedReply (one_line : '\n' ∉ text.toList) : (Error.unexpectedReply text).OneLine :=
  protocol (Text.append_free.mpr ⟨by decide, one_line⟩)

theorem unexpectedGreeting (one_line : '\n' ∉ text.toList) :
    (Error.unexpectedGreeting text).OneLine :=
  protocol (Text.append_free.mpr ⟨by decide, one_line⟩)

theorem unexpectedReplyTo {command : String} (command_one_line : '\n' ∉ command.toList)
    (one_line : '\n' ∉ text.toList) : (Error.unexpectedReplyTo command text).OneLine := by
  apply protocol
  change '\n' ∉ ("unexpected reply to " ++ command ++ ": " ++ text).toList
  simp only [Text.append_free]
  exact ⟨⟨⟨by decide, command_one_line⟩, by decide⟩, one_line⟩

end Error.OneLine

namespace Wire

/-- States that a peer keeps to, and in which it reports errors on one line. -/
structure Legible {π : Type} [Peer π] (calm : π → Prop) : Prop where
  hear : ∀ peer bytes, calm peer → calm (Peer.hear peer bytes).2
  hear_error : ∀ peer bytes error, calm peer → (Peer.hear peer bytes).1 = .error error →
    error.OneLine
  ending : ∀ peer : π, calm peer → calm (Peer.ending peer).2
  ending_error : ∀ peer : π, calm peer → (Peer.ending peer).1.OneLine

structure Plain {π : Type} (calm : π → Prop) (channel : Channel π) : Prop where
  clear : channel.endpoint.cipher = none
  calm : calm channel.peer

/-- A value of this kind, or an error that can be told on one line. -/
def Tells {α : Type} (holds : α → Prop) : Except Error α → Prop
  | .ok value => holds value
  | .error error => error.OneLine

section Channels

variable {π : Type} [Peer π] {calm : π → Prop} {channel : Channel π}

theorem Endpoint.decode_tells {endpoint : Endpoint} (clear : endpoint.cipher = none) {frame : Frame}
    (cut : frame.Cut) :
    Tells (fun line : String => '\n' ∉ line.toList) (endpoint.decode (some frame)).1 := by
  cases frame with
  | overlong => exact Error.OneLine.protocol (by decide)
  | line bytes =>
      cases read : Text.ofUtf8? (withoutCr bytes) with
      | none =>
          simp only [decode, read]
          exact (by decide : '\n' ∉ Error.framing.message.toList)
      | some line =>
          simp only [decode, read, decodeText, clear]
          exact cut_one_line cut (Text.utf8_ofUtf8 read)

theorem Plain.receive (plain : Plain calm channel) (legible : Legible calm) :
    Plain calm channel.receive.2 ∧
      Tells (fun line : String => '\n' ∉ line.toList) channel.receive.1 := by
  have clear := channel.receive_wrote.clear plain.clear
  rw [Channel.receive] at clear ⊢
  cases found : takeFrame? channel.unread with
  | none =>
      rw [found] at clear
      exact ⟨⟨clear, legible.ending _ plain.calm⟩, legible.ending_error _ plain.calm⟩
  | some cut =>
      rw [found] at clear
      exact ⟨⟨clear, plain.calm⟩, Endpoint.decode_tells plain.clear (takeFrame_cut found)⟩

theorem Plain.send (plain : Plain calm channel) (legible : Legible calm) (line : String) :
    Plain calm (channel.send line).2 ∧ Tells (fun _ => True) (channel.send line).1 := by
  by_cases broken : '\n' ∈ line.toList
  · rw [channel.send_broken broken]
    exact ⟨plain, Error.OneLine.protocol (by decide)⟩
  · have clear := (channel.send_wrote line).clear plain.clear
    rw [Channel.send, Endpoint.encode_wrote channel.endpoint broken] at clear ⊢
    rcases heard : Peer.hear channel.peer (lineBytes (channel.endpoint.outbound.wire line)) with
      ⟨result, peer⟩
    have kept := legible.hear channel.peer (lineBytes (channel.endpoint.outbound.wire line))
      plain.calm
    have told := legible.hear_error channel.peer (lineBytes (channel.endpoint.outbound.wire line))
    rw [heard] at kept told
    simp only [heard] at clear ⊢
    cases result with
    | ok more => exact ⟨⟨clear, kept⟩, trivial⟩
    | error error => exact ⟨⟨clear, kept⟩, told error plain.calm rfl⟩

end Channels

namespace Talk

variable {π α β : Type} {calm : π → Prop} {holds : α → Prop}

def Yields (calm : π → Prop) (talk : Talk π α) (holds : α → Prop) : Prop :=
  ∀ channel, Plain calm channel →
    Plain calm (talk.run channel).2 ∧ Tells holds (talk.run channel).1

theorem yields_pure {value : α} (held : holds value) : Yields calm (pure value) holds :=
  fun _ plain => ⟨plain, held⟩

theorem yields_ofExcept {result : Except Error α} (tells : Tells holds result) :
    Yields calm (ofExcept result) holds := fun _ plain => ⟨plain, tells⟩

theorem yields_throw {error : Error} (one_line : error.OneLine) :
    Yields calm (throw error) holds := fun _ plain => ⟨plain, one_line⟩

theorem Yields.bind {talk : Talk π α} {next : α → Talk π β} {result : β → Prop}
    (yields : Yields calm talk holds)
    (more : ∀ value, holds value → Yields calm (next value) result) :
    Yields calm (talk >>= next) result := by
  intro channel plain
  have begun := yields channel plain
  rcases ran : talk.run channel with ⟨outcome, middle⟩
  rw [ran] at begun
  cases outcome with
  | error error =>
      rw [run_error ran]
      exact begun
  | ok value =>
      rw [run_ok ran]
      exact more value begun.2 middle begun.1

variable [Peer π]

theorem yields_readLine (legible : Legible calm) :
    Yields calm readLine fun line : String => '\n' ∉ line.toList :=
  fun _ plain => plain.receive legible

theorem yields_request (legible : Legible calm) (line : String) :
    Yields calm (request line) fun reply : String => '\n' ∉ reply.toList :=
  Yields.bind (fun _ plain => plain.send legible line) fun _ _ => yields_readLine legible

end Talk

end Wire

end MailExchange
