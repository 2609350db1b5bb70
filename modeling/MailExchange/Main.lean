import MailExchange.CommandLine.Run
import MailExchange.Program.Serve

namespace MailExchange.Program

open CommandLine (Command Invocation Outcome)

def randomBytes (count : Nat) : IO { bytes : Text.Bytes // bytes.length = count } := do
  let bytes := (← IO.getRandomBytes (USize.ofNat count)).toList
  if h : bytes.length = count then return ⟨bytes, h⟩
  throw (IO.userError "no random bytes")

def randomness : IO Access.Client.Randomness := do
  let nonce ← randomBytes 32
  let key ← randomBytes 32
  let iv ← randomBytes 16
  let seed ← randomBytes Rsa.Oaep.hashSize
  return ⟨⟨nonce, key, iv, nonce.2, key.2, iv.2⟩, seed, seed.2⟩

partial def waitForEnd (input : IO.FS.Stream) : IO Unit := do
  let bytes ← input.read 4096
  if !bytes.isEmpty then waitForEnd input

def serve (settings : Settings) (server : CommandLine.Server) : IO Outcome := do
  let started ← match server with
    | .transfer => (Serve.transfer settings.transfer).block
    | .mailbox =>
      (Serve.mailbox settings.mailbox (CommandLine.keyStore settings)).block
  if started.isOk then waitForEnd (← IO.getStdin)
  return match server with
    | .transfer => CommandLine.served "transfer" started
    | .mailbox => CommandLine.served "mailbox" started

def carryOut (files : Files.Tree) (settings : Settings) : Command → IO Outcome
  | .serve server => serve settings server
  | .errand errand => do
    let files ← settings.client.tagKeyFile.elim (pure files) (Disk.fetch files)
    let files ← Disk.fetchFolder files settings.keyFolder
    let desk : CommandLine.Desk := ⟨settings, files, ← randomness⟩
    (Socket.run CommandLine.patience (errand.run desk)).block
  | .generateKeys bits identity => do
    let files ← Disk.fetchFolder files settings.keyFolder
    let seed ← randomBytes 64
    let (outcome, after) := CommandLine.generateKeys settings seed bits identity files
    Disk.save files after
    return outcome

def invoke (invocation : Invocation) : IO Outcome := do
  let files ← Disk.fetch (← Disk.current) invocation.settingsFile
  let files ← Disk.fetch files (CommandLine.Logging.path invocation.settingsFile)
  match invocation.load files with
  | .error outcome => return outcome
  | .ok settings => carryOut files settings invocation.command

def command (words : List String) : IO Outcome :=
  match Invocation.parse words with
  | .error stop => return stop.outcome
  | .ok invocation => invoke invocation

end MailExchange.Program

def main (words : List String) : IO UInt32 := do
  let outcome ← MailExchange.Program.command words
  outcome.output.forM IO.println
  outcome.complaint.forM IO.eprintln
  return UInt32.ofNat outcome.exitCode
