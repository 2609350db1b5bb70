import MailExchange.Error

namespace MailExchange.ExitCode

def success : Nat := 0

def usage : Nat := 64

def dataError : Nat := 65

def unavailable : Nat := 69

def software : Nat := 70

def config : Nat := 78

def ofError : Error → Nat
  | .config _ | .noSuchKey _ => config
  | .io _ _ | .unexpectedEof | .remote _ | .unknownDomain _ => unavailable
  | _ => software

end MailExchange.ExitCode

namespace MailExchange.CommandLine

structure Outcome where
  exitCode : Nat := ExitCode.success
  output : List String := []
  complaint : Option String := none
  deriving DecidableEq, Repr

namespace Outcome

def success (output : List String) : Outcome := { output }

def failure (exitCode : Nat) (complaint : String) : Outcome :=
  { exitCode, complaint := some complaint }

def ofError (activity : String) (error : Error) : Outcome :=
  failure (ExitCode.ofError error) (activity ++ ": " ++ error.message)

end Outcome

end MailExchange.CommandLine
