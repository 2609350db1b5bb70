import MailExchange.Wire.Channel

/-!
The server's side of a connection, as a machine that takes in one line after another until it ends
with a result. `run` gives it a whole stream of bytes; `Live` gives it bytes as they come.
-/

namespace MailExchange.Wire

open Text (Bytes)

class Session (σ : Type) where
  take : σ → Option Frame → σ
  result? : σ → Option (Except Error Unit)
  sent : σ → List String

namespace Session

variable {σ : Type} [Session σ]

def isOver (session : σ) : Bool := (result? session).isSome

/-- Takes in all complete lines until the session is over. The bytes that are left come back. -/
def feed (session : σ) (input : Bytes) : σ × Bytes :=
  if isOver session then (session, input)
  else match h : takeFrame? input with
    | none => (session, input)
    | some (frame, rest) =>
      have := takeFrame_length h
      feed (take session (some frame)) rest
termination_by input.length

def run (session : σ) (input : Bytes) : σ :=
  let (session, _) := feed session input
  if isOver session then session else take session none

end Session

/-- A session at the far end of a channel. -/
structure Live (σ : Type) where
  session : σ
  unread : Bytes := []
  passed : Nat := 0

namespace Live

variable {σ : Type} [Session σ]

def feed (live : Live σ) (bytes : Bytes) : Live σ :=
  let (session, unread) := Session.feed live.session (live.unread ++ bytes)
  { live with session, unread }

def collect (live : Live σ) : List String × Live σ :=
  let sent := Session.sent live.session
  (sent.drop live.passed, { live with passed := sent.length })

def answer (live : Live σ) : Bytes × Live σ :=
  let (lines, live) := live.collect
  (lines.flatMap lineBytes, live)

def hangUp (live : Live σ) : σ :=
  if Session.isOver live.session then live.session else Session.take live.session none

instance : Peer (Live σ) where
  hear live bytes :=
    let (more, live) := (live.feed bytes).answer
    (.ok more, live)

def connect (label : LogPrefix) (session : σ) : Channel (Live σ) :=
  let (greeting, live) := ({ session } : Live σ).answer
  ⟨{ label }, greeting, live⟩

end Live

end MailExchange.Wire
