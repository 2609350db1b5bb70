/-!
What can go wrong, and the words for it. `Error.message` is the only place where an error gets its
text; the named errors below it carry their details.
-/

namespace MailExchange

inductive IoKind where
  | unexpectedEof
  | connectionReset
  | connectionAborted
  | brokenPipe
  | connectionRefused
  | notFound
  | other
  deriving DecidableEq, Repr

inductive Error where
  /-- A line that is not text, or that does not decrypt to text. -/
  | framing
  | protocol (detail : String)
  | unexpectedEof
  | handshake (detail : String)
  /-- The peer answered `error` with this text. -/
  | remote (text : String)
  | unknownDomain (domain : String)
  | noSuchKey (identity : String)
  | config (detail : String)
  | queueClosed
  | io (kind : IoKind) (text : String)
  /-- A key or a cryptographic operation was refused. -/
  | crypto
  deriving DecidableEq, Repr

namespace Error

def message : Error → String
  | framing => "Malformed or undecryptable line"
  | protocol detail => s!"Protocol error: {detail}"
  | unexpectedEof => "Connection closed before the session was complete"
  | handshake detail => s!"Handshake failed: {detail}"
  | remote text => s!"Peer reported error: {text}"
  | unknownDomain domain => s!"Unknown domain {domain}"
  | noSuchKey identity => s!"No key for identity '{identity}'"
  | config detail => s!"Configuration error: {detail}"
  | queueClosed => "Relay queue closed"
  | io _ text => text
  | crypto => "cryptographic operation failed"

def isDisconnect : Error → Bool
  | unexpectedEof => true
  | io kind _ =>
    kind == .unexpectedEof || kind == .connectionReset || kind == .connectionAborted
      || kind == .brokenPipe
  | _ => false

def lineTooLong : Error := .protocol "line too long"

def lineBreakInLine : Error := .protocol "attempted to send a line containing a line break"

def unexpectedReply (reply : String) : Error := .protocol s!"unexpected reply: {reply}"

def unexpectedReplyTo (command reply : String) : Error :=
  .protocol s!"unexpected reply to {command}: {reply}"

def unexpectedGreeting (greeting : String) : Error :=
  .protocol s!"unexpected greeting: {greeting}"

def badCiphertext : Error := .handshake "bad RSA ciphertext"

def badCipherLengths (key iv : Nat) : Error := .handshake s!"bad key/IV length {key}/{iv}"

def connectionRefused : Error := .io .connectionRefused "Connection refused (os error 111)"

def connectionReset : Error := .io .connectionReset "Connection reset by peer (os error 104)"

def addressInUse : Error := .io .other "Address already in use (os error 98)"

def addressUnavailable : Error := .io .other "Cannot assign requested address (os error 99)"

def networkUnreachable : Error := .io .other "Network is unreachable (os error 101)"

end Error

end MailExchange
