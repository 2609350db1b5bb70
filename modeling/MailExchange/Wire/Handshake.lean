import MailExchange.Wire.Channel

/-!
The handshake of a secure session. The initiator offers a nonce, a key and an IV, encrypted to the
responder; the responder shows that it could read them by sending the nonce back, and the initiator
acknowledges that. A handshake that fails leaves an end without a cipher.
-/

namespace MailExchange.Wire

open Text (Bytes)

namespace Handshake

def nonceLength : Nat := 32

structure Secrets where
  nonce : Bytes
  key : Bytes
  iv : Bytes
  nonce_length : nonce.length = nonceLength
  key_length : key.length = 32
  iv_length : iv.length = 16

namespace Secrets

def offer (secrets : Secrets) : String :=
  Text.join " "
    ["ok", Base64.encode secrets.nonce, Base64.encode secrets.key, Base64.encode secrets.iv]

def cipher (secrets : Secrets) : Cipher := Cipher.start secrets.key secrets.iv .initiator

end Secrets

/-- Whether a text is the nonce, both as the base64 text and as the bytes that are read from it. -/
def echoes (nonce : Bytes) (echoed : String) : Bool :=
  let decoded := (Base64.decode? echoed).getD []
  echoed == Base64.encode nonce && decoded.length == nonceLength && decoded == nonce

def checkChallenge (nonce : Bytes) (reply : String) : Except Error Unit :=
  match splitCommand reply with
  | ("ok", some echoed) =>
    if echoes nonce echoed then .ok () else .error (.handshake "challenge nonce mismatch")
  | ("error", text) => .error (.handshake ("responder rejected offer: " ++ text.getD ""))
  | _ => .error (.handshake "malformed challenge reply")

section Initiator

variable {π : Type} [Peer π]

def awaitChallenge (secrets : Secrets) : Talk π Unit := do
  let reply ← Talk.readLine
  Talk.ofExcept (checkChallenge secrets.nonce reply)
  Talk.writeLine "ok"

/-- The initiator's part, given how to encrypt to the responder. -/
def initiate (secrets : Secrets) (lock : Bytes → Except Error Bytes) : Talk π Unit := do
  let offer ← Talk.ofExcept (lock (Text.utf8 secrets.offer))
  Talk.writeLine (Base64.encode offer)
  Talk.alter (·.withCipher (some secrets.cipher))
  tryCatch (awaitChallenge secrets) fun error => do
    Talk.alter (·.withCipher none)
    throw error
  Talk.alter (·.withSecure)

end Initiator

inductive Awaited where
  | offer
  | acknowledgement
  deriving DecidableEq, Repr

def secret? (text : String) : Except Error Bytes :=
  match Base64.decode? text with
  | some bytes => .ok bytes
  | none => .error (.handshake "bad base64 in offer")

def readOffer (clear : Bytes) : Except Error (Bytes × Cipher) :=
  match Text.ofUtf8? clear with
  | none => .error (.handshake "offer is not text")
  | some text =>
    match Text.splitAtEach ' ' text with
    | ["ok", nonce, key, iv] => do
      let nonce ← secret? nonce
      if nonce.length ≠ nonceLength then throw (.handshake "bad nonce length")
      let key ← secret? key
      let iv ← secret? iv
      let cipher ← Cipher.ofParts key iv .responder
      return (nonce, cipher)
    | _ => .error (.handshake "malformed offer")

def openOffer (unlock : Bytes → Except Error Bytes) (line : String) :
    Except Error (Bytes × Cipher) :=
  match Base64.decode? line with
  | none => .error (.handshake "offer is not base64")
  | some locked => (unlock locked).bind readOffer

def answerOffer (unlock : Bytes → Except Error Bytes) (endpoint : Endpoint) (line : String) :
    Except Error Unit × Endpoint :=
  match openOffer unlock line with
  | .error error => (.error error, endpoint)
  | .ok (nonce, cipher) =>
    (endpoint.withCipher (some cipher)).write ("ok " ++ Base64.encode nonce)

def checkAcknowledgement (line : String) : Except Error Unit :=
  if line = "ok" then .ok () else .error (.handshake "initiator did not acknowledge")

/-- One step of the responder's part, given how to decrypt: what it waits for next, if anything. -/
def step (unlock : Bytes → Except Error Bytes) (awaited : Awaited) (endpoint : Endpoint)
    (frame : Option Frame) : Except Error (Option Awaited) × Endpoint :=
  match awaited, endpoint.decode frame with
  | _, (.error error, endpoint) => (.error error, endpoint.withCipher none)
  | .offer, (.ok line, endpoint) =>
    match answerOffer unlock endpoint line with
    | (.ok (), endpoint) => (.ok (some .acknowledgement), endpoint)
    | (.error error, endpoint) => (.error error, endpoint.withCipher none)
  | .acknowledgement, (.ok line, endpoint) =>
    match checkAcknowledgement line with
    | .ok () => (.ok none, endpoint.withSecure)
    | .error error => (.error error, endpoint.withCipher none)

end Handshake

end MailExchange.Wire
