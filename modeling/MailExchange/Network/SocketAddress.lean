import MailExchange.Error
import MailExchange.Text.Basic

/-! Addresses of servers, written `host:number`. A host is four numbers, or this machine. -/

namespace MailExchange.Network

structure Host where
  octets : List UInt8
  deriving DecidableEq, Repr

namespace Host

def loopback : Host := ⟨[127, 0, 0, 1]⟩

def any : Host := ⟨[0, 0, 0, 0]⟩

def isLoopback (host : Host) : Bool := host.octets.head? == some 127

def isLocal (host : Host) : Bool := host.isLoopback || host == any

def octet? (digits : List Char) : Option UInt8 :=
  match Text.decimal? digits with
  | some value => if value < 256 ∧ digits.length ≤ 3 then some (UInt8.ofNat value) else none
  | none => none

def render (host : Host) : String :=
  Text.join "." (host.octets.map fun octet => Text.decimal octet.toNat)

def parse? (text : String) : Option Host :=
  if text = "localhost" then some loopback
  else match (Text.pieces '.' text.toList).mapM octet? with
    | some octets => if octets.length = 4 then some ⟨octets⟩ else none
    | none => none

end Host

structure SocketAddress where
  host : Host
  number : Nat
  deriving DecidableEq, Repr

namespace SocketAddress

def unseparated : Error := .io .other "invalid socket address"

def badNumber : Error := .io .other "invalid port value"

def unknownHost : Error :=
  .io .other "failed to lookup address information: Name or service not known"

def splitAtLastColon (text : String) : Option (String × String) :=
  let tail := text.toList.reverse.takeWhile (· != ':')
  match text.toList.reverse.drop tail.length with
  | [] => none
  | _ :: head => some (String.ofList head.reverse, String.ofList tail.reverse)

def parse (text : String) : Except Error SocketAddress :=
  match splitAtLastColon text with
  | none => .error unseparated
  | some (host, number) =>
    match Text.word? 16 number, Host.parse? host with
    | none, _ => .error badNumber
    | some _, none => .error unknownHost
    | some number, some host => .ok ⟨host, number⟩

def render (address : SocketAddress) : String :=
  address.host.render ++ ":" ++ Text.decimal address.number

def conflicts (left right : SocketAddress) : Bool :=
  left.number == right.number
    && (left.host == right.host || left.host == Host.any || right.host == Host.any)

def reachedBy (listening dialled : SocketAddress) : Bool :=
  listening.number == dialled.number
    && (listening.host == dialled.host || listening.host == Host.any
      || dialled.host == Host.any && listening.host == Host.loopback)

end SocketAddress

end MailExchange.Network
