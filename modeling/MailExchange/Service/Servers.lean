import MailExchange.Access.Server
import MailExchange.Mail.Delivery
import MailExchange.Relay.Relayer
import MailExchange.Settings
import MailExchange.Transfer.Server

namespace MailExchange.Service

structure TransferServer where
  relay : Relay.Settings
  queue : Relay.Queue := {}
  idle : Nat

namespace TransferServer

def ofSettings (settings : TransferSettings) : TransferServer :=
  { relay :=
      { resolver := Resolver.ofPairs settings.domains
        bounceSender := settings.bounceSender
        timeout := settings.connectTimeout }
    idle := settings.idleTimeout }

def receive (server : TransferServer) (label : LogPrefix) : Transfer.Session Relay.Queue :=
  Transfer.Session.greet label server.queue

end TransferServer

structure MailboxServer where
  identity : String
  delivery : Delivery
  idle : Nat

namespace MailboxServer

def noDomain : Error := .config "mailbox.domain is not set"

def ofSettings (settings : MailboxSettings) : Except Error MailboxServer :=
  if settings.domain = "" then .error noDomain
  else .ok
    { identity := settings.identity
      delivery := { users := Users.ofDomain settings.domain settings.users }
      idle := settings.idleTimeout }

def receive (server : MailboxServer) (label : LogPrefix) : Transfer.Session Delivery :=
  Transfer.Session.greet label server.delivery

def access (server : MailboxServer) (label : LogPrefix) (keys : Keys.Store) (files : Files.Tree) :
    Access.Session :=
  Access.Session.greet label
    { identity := server.identity
      users := server.delivery.users
      mailboxes := server.delivery.mailboxes
      keys
      files }

end MailboxServer

end MailExchange.Service
