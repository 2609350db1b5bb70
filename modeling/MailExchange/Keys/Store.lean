import MailExchange.Crypto.Pem
import MailExchange.Files.Tree
import MailExchange.Keys.Identity

/-!
A folder of key pairs, each in a file for the public and one for the private key. A key that has been
loaded once is kept; a failure to load one is not.
-/

namespace MailExchange.Keys

open Files (Path Tree)
open Text (Bytes)

abbrev Cache (κ : Type) := List (String × κ)

def Cache.find? {κ : Type} (cache : Cache κ) (identity : String) : Option κ :=
  (List.find? (·.1 == identity) cache).map (·.2)

structure Store where
  root : Path
  rootName : String
  publicKeys : Cache Rsa.PublicKey := []
  privateKeys : Cache Rsa.PrivateKey := []
  deriving Repr

namespace Store

def path (store : Store) (identity : String) (kind : Kind) : Path :=
  store.root ++ [fileName identity kind]

def readFile (store : Store) (tree : Tree) (identity : String) (kind : Kind) :
    Except Error Bytes :=
  match tree.read (store.path identity kind) with
  | .error (.io .notFound _) => .error (.noSuchKey identity)
  | result => result

def loadPublic (store : Store) (tree : Tree) (identity : String) : Except Error Rsa.PublicKey :=
  (store.readFile tree identity .publicKey).bind fun file =>
    match Pem.readPublicKey file with
    | some key => .ok key
    | none => .error .crypto

def loadPrivate (store : Store) (tree : Tree) (identity : String) :
    Except Error Rsa.PrivateKey :=
  (store.readFile tree identity .privateKey).bind fun file =>
    match Pem.readPrivateKey file with
    | some key => if key.isConsistent then .ok key else .error .crypto
    | none => .error .crypto

def look {κ : Type} (cache : Cache κ) (identity : String) (load : Unit → Except Error κ) :
    Except Error κ × Cache κ :=
  if isIdentity identity then
    match cache.find? identity with
    | some key => (.ok key, cache)
    | none =>
      match load () with
      | .ok key => (.ok key, (identity, key) :: cache)
      | .error error => (.error error, cache)
  else (.error (.noSuchKey identity), cache)

def publicKey (store : Store) (tree : Tree) (identity : String) :
    Except Error Rsa.PublicKey × Store :=
  let (key, publicKeys) := look store.publicKeys identity fun _ => store.loadPublic tree identity
  (key, { store with publicKeys })

def privateKey (store : Store) (tree : Tree) (identity : String) :
    Except Error Rsa.PrivateKey × Store :=
  let (key, privateKeys) := look store.privateKeys identity fun _ => store.loadPrivate tree identity
  (key, { store with privateKeys })

/-- A private key file is written only where there is none. -/
def writePrivate (tree : Tree) (path : Path) (content : Bytes) : Except Error Tree :=
  if tree.isThere path then .error Files.alreadyExists else tree.write path content true

/-- Writes the files of a key pair: the public key first, which stays if the rest fails. -/
def writePair (store : Store) (tree : Tree) (identity : String) (key : Rsa.PrivateKey) :
    Except Error Unit × Tree :=
  match tree.createFolders store.root with
  | (.error error, tree) => (.error error, tree)
  | (.ok (), tree) =>
    match tree.write (store.path identity .publicKey) (Pem.publicKey key.toPublicKey) false with
    | .error error => (.error error, tree)
    | .ok tree =>
      match writePrivate tree (store.path identity .privateKey) (Pem.privateKey key) with
      | .error error => (.error error, tree)
      | .ok tree => (.ok (), tree)

/-- Creates a key pair from a seed. Existing files are never overwritten. -/
def generate (store : Store) (tree : Tree) (seed : Bytes) (identity : String) (bits : Nat) :
    Except Error Unit × Tree :=
  if !isIdentity identity then (.error (.noSuchKey identity), tree)
  else if tree.isThere (store.path identity .privateKey)
      || tree.isThere (store.path identity .publicKey) then
    (.error (.config s!"Key for '{identity}' already exists in {store.rootName}"), tree)
  else match Rsa.generate seed bits with
    | .error error => (.error error, tree)
    | .ok key => store.writePair tree identity key

end Store

end MailExchange.Keys
