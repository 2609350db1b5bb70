import MailExchange.CommandLine.Run
import MailExchange.Service.Machine

namespace MailExchange.Service.Machine

open CommandLine (Invocation Outcome)

structure Chance where
  random : Access.Client.Randomness
  seed : Text.Bytes

def serve (machine : Machine) (settings : Settings) : CommandLine.Server → Outcome
  | .transfer => CommandLine.served "transfer" (machine.startTransfer settings.transfer)
  | .mailbox => CommandLine.served "mailbox" (machine.startMailbox settings.mailbox)

def invoke (machine : Machine) (chance : Chance) (invocation : Invocation) : Outcome × Machine :=
  match invocation.load machine.files with
  | .error outcome => (outcome, machine)
  | .ok settings =>
    match invocation.command with
    | .serve server => (machine.serve settings server, machine)
    | .errand errand => errand.run ⟨settings, machine.files, chance.random⟩ machine
    | .generateKeys bits identity =>
      let (outcome, files) :=
        CommandLine.generateKeys settings chance.seed bits identity machine.files
      (outcome, { machine with files })

def command (machine : Machine) (chance : Chance) (words : List String) : Outcome × Machine :=
  match Invocation.parse words with
  | .error stop => (stop.outcome, machine)
  | .ok invocation => machine.invoke chance invocation

end MailExchange.Service.Machine
