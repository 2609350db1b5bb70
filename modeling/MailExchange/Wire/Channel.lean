import MailExchange.Error
import MailExchange.Text.Basic
import MailExchange.Wire.Endpoint

/-!
A client's view of a connection: its own end, the bytes that have arrived, and the peer at the far
end. A conversation is a computation on such a channel, which keeps its changes when it fails.
-/

namespace MailExchange.Wire

open Text (Bytes)

class Peer (π : Type) where
  /-- Bytes reach the peer, or fail to. The peer answers with bytes of its own. -/
  hear : π → Bytes → Except Error Bytes × π
  /-- What a read reports when nothing is left of what the peer has sent. -/
  ending : π → Error × π := fun peer => (.unexpectedEof, peer)

/-- A peer that has sent all it ever sends. -/
structure Silent where

instance : Peer Silent where
  hear peer _ := (.ok [], peer)

structure Channel (π : Type) where
  endpoint : Endpoint
  unread : Bytes
  peer : π

abbrev Talk (π : Type) := ExceptT Error (StateM (Channel π))

namespace Channel

def ofBytes (label : LogPrefix) (input : Bytes) : Channel Silent := ⟨{ label }, input, {}⟩

variable {π : Type} [Peer π]

def receive (channel : Channel π) : Except Error String × Channel π :=
  match takeFrame? channel.unread with
  | none =>
    let (error, peer) := Peer.ending channel.peer
    (.error error, { channel with unread := [], peer })
  | some (frame, unread) =>
    let (line, endpoint) := channel.endpoint.decode (some frame)
    (line, { channel with endpoint, unread })

theorem receive_shortens {channel after : Channel π} {line : String}
    (h : channel.receive = (.ok line, after)) : after.unread.length < channel.unread.length := by
  unfold receive at h
  split at h
  · simp at h
  · rename_i frame unread hframe
    simp only [Prod.mk.injEq] at h
    rw [← h.2]
    exact takeFrame_length hframe

def send (channel : Channel π) (line : String) : Except Error Unit × Channel π :=
  match channel.endpoint.encode line with
  | .error error => (.error error, channel)
  | .ok (wire, endpoint) =>
    match Peer.hear channel.peer (lineBytes wire) with
    | (.ok more, peer) => (.ok (), ⟨endpoint, channel.unread ++ more, peer⟩)
    | (.error error, peer) => (.error error, ⟨endpoint, channel.unread, peer⟩)

end Channel

namespace Talk

variable {π : Type}

def ofExcept {α : Type} (result : Except Error α) : Talk π α := ExceptT.mk (pure result)

def alter (change : Endpoint → Endpoint) : Talk π Unit :=
  modify fun channel => { channel with endpoint := change channel.endpoint }

variable [Peer π]

def readLine : Talk π String := ExceptT.mk fun channel => pure channel.receive

def writeLine (line : String) : Talk π Unit := ExceptT.mk fun channel => pure (channel.send line)

def writeLines (lines : List String) : Talk π Unit := lines.forM writeLine

def request (line : String) : Talk π String := do
  writeLine line
  readLine

end Talk

def splitCommand (line : String) : String × Option String := Text.splitAtFirst ' ' line

def expectOk (reply : String) : Except Error (Option String) :=
  match splitCommand reply with
  | ("ok", text) => .ok text
  | ("error", text) => .error (.remote (text.getD ""))
  | _ => .error (.unexpectedReply reply)

end MailExchange.Wire
