import MailExchange.Wire.Channel

namespace MailExchange

open Text (Bytes)
open Wire (Channel)

class Network (ν : Type) extends Wire.Peer ν where
  /-- Connects to an address within some seconds: the bytes with which the server begins. -/
  dial : ν → Nat → String → Except Error Bytes × ν
  hangUp : ν → ν

namespace Network

def noTime : Error := .io .other "cannot set a 0 duration timeout"

variable {ν : Type} [Network ν]

def connect (network : ν) (protocol : String) (timeout : Nat) (address : String) :
    Except (Error × ν) (Channel ν) :=
  match dial network timeout address with
  | (.error error, network) => .error (error, network)
  | (.ok greeting, network) =>
    .ok ⟨{ label := LogPrefix.forPeer protocol address }, greeting, network⟩

def release (channel : Channel ν) : ν := hangUp channel.peer

end Network

end MailExchange

namespace MailExchange.Network

open Text (Bytes)

structure Recording where
  failure? : Option Error := none
  received : Bytes := []
  ended? : Option Error := none

inductive Need where
  | connection (timeout : Nat) (address : String)
  /-- More input on the last connection, on which this is the whole output. -/
  | input (output : Bytes)

structure Recorded where
  recordings : List Recording
  ended? : Option Error := none
  output : Bytes := []
  need? : Option Need := none

namespace Recorded

def stuck (recorded : Recorded) (need : Need) : Recorded :=
  { recorded with need? := some (recorded.need?.getD need) }

def dial (recorded : Recorded) (timeout : Nat) (address : String) :
    Except Error Bytes × Recorded :=
  match recorded.recordings with
  | [] => (.error .unexpectedEof, recorded.stuck (.connection timeout address))
  | recording :: recordings =>
    let after := { recorded with recordings, ended? := recording.ended?, output := [] }
    match recording.failure? with
    | some error => (.error error, after)
    | none => (.ok recording.received, after)

def ending (recorded : Recorded) : Error × Recorded :=
  match recorded.ended? with
  | some error => (error, recorded)
  | none => (.unexpectedEof, recorded.stuck (.input recorded.output))

instance : Network Recorded where
  hear recorded bytes := (.ok [], { recorded with output := recorded.output ++ bytes })
  ending := ending
  dial := dial
  hangUp recorded := { recorded with ended? := none, output := [] }

end Recorded

end MailExchange.Network
