import MailExchange.Bytes.Encoding
import MailExchange.Crypto.Aes
import MailExchange.Error

/-!
The cipher of a secure session. Lines travel as the base64 text of their bytes under a keystream,
which runs on from line to line; there is one stream for each direction.
-/

namespace MailExchange.Wire

open Text (Bytes)

inductive Role where
  | initiator
  | responder
  deriving DecidableEq, Repr

def Role.peer : Role → Role
  | initiator => responder
  | responder => initiator

structure Cipher where
  key : Bytes
  iv : Bytes
  outgoing : Keystream
  incoming : Keystream
  deriving DecidableEq, Repr

namespace Cipher

/-- The counter at which the lines of one end start: the responder's have the top bit inverted. -/
def firstCounter (iv : Bytes) : Role → Nat
  | .initiator => BigEndian.toNat iv
  | .responder => (BigEndian.toNat iv + Nat.pow 2 127) % Nat.pow 2 128

def keystream (key iv : Bytes) (sender : Role) : Keystream := ⟨key, firstCounter iv sender, 0⟩

def start (key iv : Bytes) (role : Role) : Cipher :=
  ⟨key, iv, keystream key iv role, keystream key iv role.peer⟩

def ofParts (key iv : Bytes) (role : Role) : Except Error Cipher :=
  if key.length = 32 ∧ iv.length = 16 then .ok (start key iv role)
  else .error (.badCipherLengths key.length iv.length)

def encrypt (cipher : Cipher) (line : String) : String × Cipher :=
  let (bytes, outgoing) := cipher.outgoing.apply (Text.utf8 line)
  (Base64.encode bytes, { cipher with outgoing })

/-- A line that is not base64 leaves the stream where it was; any other uses it up. -/
def decrypt (cipher : Cipher) (line : String) : Except Error String × Cipher :=
  match Base64.decode? line with
  | none => (.error .framing, cipher)
  | some bytes =>
    let (clear, incoming) := cipher.incoming.apply bytes
    let text := match Text.ofUtf8? clear with
      | some text => .ok text
      | none => .error .framing
    (text, { cipher with incoming })

def describe (_ : Cipher) : String := "SessionCipher \x7b <redacted> \x7d"

end Cipher

end MailExchange.Wire
