import MailExchange.Mail.Message
import MailExchange.Network.Dial
import MailExchange.Relay.Report
import MailExchange.Transfer.Client

namespace MailExchange.Relay

open Text (TextSet)
open Transfer.Client (Submission)

structure Queue where
  waiting : List Mail := []
  isOpen : Bool := true
  deriving Repr

namespace Queue

def submit (queue : Queue) (mail : Mail) : Except Error Unit × Queue :=
  if queue.isOpen then (.ok (), { queue with waiting := queue.waiting ++ [mail] })
  else (.error .queueClosed, queue)

/-- Closes the queue. What still waits is dropped. -/
def close (_ : Queue) : Queue := { isOpen := false }

def takeAll (queue : Queue) : List Mail × Queue := (queue.waiting, { queue with waiting := [] })

/-- Whom a mail reaches is found out when it is relayed, so that every recipient is accepted. -/
instance : Consumer Queue where
  accepts _ _ := true
  consume := submit

end Queue

inductive Outcome where
  | unresolved
  | unreached (error : Error)
  /-- What the server took, and the client's end of the connection afterwards. -/
  | transferred (submission : Submission) (endpoint : Wire.Endpoint)

structure Attempt where
  domain : String
  recipients : List String
  outcome : Outcome

namespace Attempt

def unknownDomain (domain : String) : String := "unknown domain " ++ domain

def failure (domain : String) (error : Error) : String := domain ++ ": " ++ error.message

/-- The first recipient with this user part. -/
def recipientNamed? (attempt : Attempt) (user : String) : Option String :=
  attempt.recipients.find? (Address.user? · == some user)

def unknown (attempt : Attempt) : List String :=
  match attempt.outcome with
  | .transferred submission _ =>
    (submission.refused.getD []).filterMap attempt.recipientNamed?
  | _ => []

def error? (attempt : Attempt) : Option String :=
  match attempt.outcome with
  | .unresolved => some (unknownDomain attempt.domain)
  | .unreached error => some (failure attempt.domain error)
  | .transferred ⟨.error error, _⟩ _ => some (failure attempt.domain error)
  | .transferred ⟨.ok (), _⟩ _ => none

end Attempt

namespace Report

def addAttempt (report : Report) (attempt : Attempt) : Report :=
  let report := { report with unknown := report.unknown.insertAll attempt.unknown }
  match attempt.error? with
  | none => report
  | some error =>
    { report with
      errors := report.errors.insert error
      failed := report.failed.insertAll attempt.recipients }

def ofAttempts (invalid : List String) (attempts : List Attempt) : Report :=
  attempts.foldl addAttempt { unknown := TextSet.ofList invalid }

end Report

section Relaying

variable {ν : Type} [Network ν]

def transfer (settings : Settings) (mail : Mail) (target : String) (network : ν) : Outcome × ν :=
  match Network.connect network "dmtp" settings.timeout target with
  | .error (error, network) => (.unreached error, network)
  | .ok channel =>
    let (submission, channel) := Transfer.Client.deliver mail channel
    (.transferred submission channel.endpoint, Network.release channel)

def attempt (settings : Settings) (mail : Mail) (group : String × List String) (network : ν) :
    Attempt × ν :=
  let (domain, recipients) := group
  match settings.resolver.resolve? domain with
  | none => (⟨domain, recipients, .unresolved⟩, network)
  | some target =>
    let (outcome, network) := transfer settings mail target network
    (⟨domain, recipients, outcome⟩, network)

def attemptAll (settings : Settings) (mail : Mail) :
    List (String × List String) → ν → List Attempt × ν
  | [], network => ([], network)
  | group :: groups, network =>
    let (first, network) := attempt settings mail group network
    let (others, network) := attemptAll settings mail groups network
    (first :: others, network)

def attempts (settings : Settings) (mail : Mail) (network : ν) : List Attempt × ν :=
  attemptAll settings mail (Address.groupByDomain mail.recipients).groups network

def relay (settings : Settings) (mail : Mail) (network : ν) : Report × ν :=
  let (attempts, network) := attempts settings mail network
  (.ofAttempts (Address.groupByDomain mail.recipients).invalid attempts, network)

/-- What became of a mail, and the bounce with its own report if there was one. -/
structure Record where
  report : Report
  bounce : Option (Mail × Report)

def process (settings : Settings) (mail : Mail) (network : ν) : Record × ν :=
  let (report, network) := relay settings mail network
  match settings.bounceFor mail report with
  | none => (⟨report, none⟩, network)
  | some bounce =>
    let (bounceReport, network) := relay settings bounce network
    (⟨report, some (bounce, bounceReport)⟩, network)

end Relaying

end MailExchange.Relay
