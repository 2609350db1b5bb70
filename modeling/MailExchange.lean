import MailExchange.Access.Client
import MailExchange.Access.Command
import MailExchange.Access.Server
import MailExchange.Address
import MailExchange.Bytes.Encoding
import MailExchange.Bytes.Hex
import MailExchange.CommandLine.Errand
import MailExchange.CommandLine.Invocation
import MailExchange.CommandLine.Outcome
import MailExchange.CommandLine.Run
import MailExchange.CommandLine.Scan
import MailExchange.Crypto.Aes
import MailExchange.Crypto.Hash
import MailExchange.Crypto.Pem
import MailExchange.Crypto.Rsa
import MailExchange.Error
import MailExchange.Files.Tree
import MailExchange.Keys.Identity
import MailExchange.Keys.Store
import MailExchange.Mail.Delivery
import MailExchange.Mail.Integrity
import MailExchange.Mail.Mailbox
import MailExchange.Mail.Message
import MailExchange.Main
import MailExchange.Network.Dial
import MailExchange.Network.SocketAddress
import MailExchange.Program.System
import MailExchange.Proofs.Access.Account
import MailExchange.Proofs.Access.Calls
import MailExchange.Proofs.Access.Command
import MailExchange.Proofs.Access.Direct
import MailExchange.Proofs.Access.Downgrade
import MailExchange.Proofs.Access.Grammar
import MailExchange.Proofs.Access.Isolation
import MailExchange.Proofs.Access.Limits
import MailExchange.Proofs.Access.Replies
import MailExchange.Proofs.Access.Said
import MailExchange.Proofs.Access.Secrecy
import MailExchange.Proofs.Access.Serving
import MailExchange.Proofs.Access.Turns
import MailExchange.Proofs.Access.UnknownId
import MailExchange.Proofs.Address
import MailExchange.Proofs.AddressParts
import MailExchange.Proofs.Bytes.Encoding
import MailExchange.Proofs.Crypto.CounterMode
import MailExchange.Proofs.Crypto.Pem
import MailExchange.Proofs.Crypto.Rsa
import MailExchange.Proofs.Grouping
import MailExchange.Proofs.Keys.Creation
import MailExchange.Proofs.Keys.History
import MailExchange.Proofs.Keys.Independence
import MailExchange.Proofs.Keys.Lookup
import MailExchange.Proofs.Mail.Copies
import MailExchange.Proofs.Mail.Delivery
import MailExchange.Proofs.Mail.History
import MailExchange.Proofs.Mail.Integrity
import MailExchange.Proofs.Mail.Journal
import MailExchange.Proofs.Mail.Local
import MailExchange.Proofs.Relay.Accounting
import MailExchange.Proofs.Relay.Bounce
import MailExchange.Proofs.Relay.Refusals
import MailExchange.Proofs.Relay.Report
import MailExchange.Proofs.Relay.Transferable
import MailExchange.Proofs.Routing
import MailExchange.Proofs.Service.Delivery
import MailExchange.Proofs.Service.Hosting
import MailExchange.Proofs.Service.Refusals
import MailExchange.Proofs.Text.Decimal
import MailExchange.Proofs.Text.Lowercase
import MailExchange.Proofs.Text.SortedSet
import MailExchange.Proofs.Text.Split
import MailExchange.Proofs.Text.Utf8
import MailExchange.Proofs.Transfer.Accounts
import MailExchange.Proofs.Transfer.Command
import MailExchange.Proofs.Transfer.Commitment
import MailExchange.Proofs.Transfer.Confirmed
import MailExchange.Proofs.Transfer.Draft
import MailExchange.Proofs.Transfer.Exchange
import MailExchange.Proofs.Transfer.Forward
import MailExchange.Proofs.Transfer.LockStep
import MailExchange.Proofs.Transfer.OutOfStep
import MailExchange.Proofs.Transfer.Reading
import MailExchange.Proofs.Transfer.RoundTrip
import MailExchange.Proofs.Transfer.Sequence
import MailExchange.Proofs.Transfer.Stock
import MailExchange.Proofs.Transfer.Unsendable
import MailExchange.Proofs.Transfer.Window
import MailExchange.Proofs.Transfer.Wording
import MailExchange.Proofs.Wire.Acknowledging
import MailExchange.Proofs.Wire.Awaiting
import MailExchange.Proofs.Wire.CipherPair
import MailExchange.Proofs.Wire.CounterBlocks
import MailExchange.Proofs.Wire.Deciphering
import MailExchange.Proofs.Wire.Duplex
import MailExchange.Proofs.Wire.Exchange
import MailExchange.Proofs.Wire.Frame
import MailExchange.Proofs.Wire.Framing
import MailExchange.Proofs.Wire.Handshake
import MailExchange.Proofs.Wire.HonestHandshake
import MailExchange.Proofs.Wire.Initiating
import MailExchange.Proofs.Wire.Lane
import MailExchange.Proofs.Wire.Link
import MailExchange.Proofs.Wire.Responding
import MailExchange.Proofs.Wire.Session
import MailExchange.Proofs.Wire.Trail
import MailExchange.Proofs.Wire.Wording
import MailExchange.Proofs.Wire.Writing
import MailExchange.Relay.Relayer
import MailExchange.Relay.Report
import MailExchange.Service.Console
import MailExchange.Service.Machine
import MailExchange.Service.Servers
import MailExchange.Settings
import MailExchange.Text.Basic
import MailExchange.Text.Lowercase
import MailExchange.Text.Quoted
import MailExchange.Toml.Document
import MailExchange.Toml.Token
import MailExchange.Transfer.Client
import MailExchange.Transfer.Command
import MailExchange.Transfer.Server
import MailExchange.Wire.Channel
import MailExchange.Wire.Cipher
import MailExchange.Wire.Endpoint
import MailExchange.Wire.Frame
import MailExchange.Wire.Handshake
import MailExchange.Wire.Session
