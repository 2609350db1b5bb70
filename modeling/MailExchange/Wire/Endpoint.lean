import MailExchange.Text.Basic
import MailExchange.Wire.Cipher
import MailExchange.Wire.Frame

namespace MailExchange

structure LogPrefix where
  protocol : String
  peer : Option String
  user : Option String
  secure : Bool
  deriving DecidableEq, Repr

namespace LogPrefix

def isControl (c : Char) : Bool :=
  decide (c.toNat < 0x20 ∨ 0x7f ≤ c.toNat ∧ c.toNat < 0xa0)

/-- Text of a stranger's choosing: without control characters, and of at most 64 characters. -/
def sanitise (text : String) : String :=
  String.ofList ((text.toList.filter fun c => !isControl c).take 64)

def ofProtocol (protocol : String) : LogPrefix := ⟨protocol, none, none, false⟩

def forPeer (protocol peer : String) : LogPrefix := ⟨protocol, some (sanitise peer), none, false⟩

def withUser (label : LogPrefix) (user : Option String) : LogPrefix :=
  { label with user := user.map sanitise }

def withSecure (label : LogPrefix) (secure : Bool) : LogPrefix := { label with secure }

def render (label : LogPrefix) : String :=
  let peer := match label.peer with
    | some peer => ":" ++ peer
    | none => ""
  let status := match label.user, label.secure with
    | none, false => ""
    | none, true => "[secure]"
    | some user, false => "[" ++ user ++ "]"
    | some user, true => "[" ++ user ++ " secure]"
  label.protocol ++ peer ++ status

end LogPrefix

end MailExchange

namespace MailExchange.Wire

open Text (Bytes)

structure Endpoint where
  label : LogPrefix
  cipher : Option Cipher := none
  /-- The lines sent, as they are on the wire. -/
  sent : List String := []
  /-- The lines understood, in clear. -/
  heard : List String := []
  deriving DecidableEq, Repr

namespace Endpoint

def isEncrypted (endpoint : Endpoint) : Bool := endpoint.cipher.isSome

def withCipher (endpoint : Endpoint) (cipher : Option Cipher) : Endpoint := { endpoint with cipher }

def withUser (endpoint : Endpoint) (user : Option String) : Endpoint :=
  { endpoint with label := endpoint.label.withUser user }

def withSecure (endpoint : Endpoint) : Endpoint :=
  { endpoint with label := endpoint.label.withSecure true }

def decodeText (endpoint : Endpoint) (line : String) : Except Error String × Endpoint :=
  match endpoint.cipher with
  | none => (.ok line, endpoint)
  | some cipher =>
    let (text, cipher) := cipher.decrypt line
    (text, { endpoint with cipher := some cipher })

def hear (endpoint : Endpoint) (line : String) : Endpoint :=
  { endpoint with heard := endpoint.heard ++ [line] }

/-- What a frame says; without a frame the connection has ended. -/
def decode (endpoint : Endpoint) : Option Frame → Except Error String × Endpoint
  | none => (.error .unexpectedEof, endpoint)
  | some .overlong => (.error .lineTooLong, endpoint)
  | some (.line bytes) =>
    match Text.ofUtf8? (withoutCr bytes) with
    | none => (.error .framing, endpoint)
    | some line =>
      match endpoint.decodeText line with
      | (.ok line, endpoint) => (.ok line, endpoint.hear line)
      | (.error error, endpoint) => (.error error, endpoint)

def encode (endpoint : Endpoint) (line : String) : Except Error (String × Endpoint) :=
  if Text.hasChar '\n' line then .error .lineBreakInLine
  else match endpoint.cipher with
    | none => .ok (line, { endpoint with sent := endpoint.sent ++ [line] })
    | some cipher =>
      let (wire, cipher) := cipher.encrypt line
      .ok (wire, { endpoint with cipher := some cipher, sent := endpoint.sent ++ [wire] })

def write (endpoint : Endpoint) (line : String) : Except Error Unit × Endpoint :=
  match endpoint.encode line with
  | .ok (_, endpoint) => (.ok (), endpoint)
  | .error error => (.error error, endpoint)

def writeAll (endpoint : Endpoint) : List String → Except Error Unit × Endpoint
  | [] => (.ok (), endpoint)
  | line :: rest =>
    match endpoint.write line with
    | (.ok (), endpoint) => endpoint.writeAll rest
    | (.error error, endpoint) => (.error error, endpoint)

end Endpoint

end MailExchange.Wire
