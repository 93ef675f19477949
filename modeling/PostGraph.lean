import PostGraph.Lib.Traces
import PostGraph.Lib.Runs
import PostGraph.Lib.Counts
import PostGraph.Lib.Lines
import PostGraph.Lib.Urls
import PostGraph.Lib.Utf8
import PostGraph.Lib.Values
import PostGraph.Lib.Percent
import PostGraph.Lib.Programs
import PostGraph.Lib.Base64Text
import PostGraph.Lib.Writes
import PostGraph.Lib.Projections
import PostGraph.Lib.Leases
import PostGraph.Lib.Interleavings
import PostGraph.Lib.Registers
import PostGraph.Lib.Couplings
import PostGraph.Lib.Shares
import PostGraph.Lib.Tandems
import PostGraph.Text
import PostGraph.Response
import PostGraph.Mail
import PostGraph.Command
import PostGraph.Connection
import PostGraph.Handler
import PostGraph.Config
import PostGraph.Graph
import PostGraph.Session
import PostGraph.Step
import PostGraph.Turns
import PostGraph.Alike
import PostGraph.Chunking
import PostGraph.Reaction
import PostGraph.Reading
import PostGraph.Fail2Ban
import PostGraph.Auth
import PostGraph.ConfigFile
import PostGraph.Proxy
import PostGraph.Gate
import PostGraph.SenderBinding
import PostGraph.RequiredLogin
import PostGraph.Transactions
import PostGraph.TlsOnly
import PostGraph.Framing
import PostGraph.Endpoint
import PostGraph.Receipts
import PostGraph.Tokens
import PostGraph.Smuggling
import PostGraph.Capture
import PostGraph.RoundTrip
import PostGraph.MailCommand
import PostGraph.Refusals
import PostGraph.Handshake
import PostGraph.Exchanges
import PostGraph.Upgrade
import PostGraph.Advertised
import PostGraph.Bans
import PostGraph.Server
import PostGraph.BruteForce
import PostGraph.Tasks
import PostGraph.Productivity
import PostGraph.Delivery
import PostGraph.Forgetting
import PostGraph.Listening
import PostGraph.Recipients
import PostGraph.Ledger
import PostGraph.Peers
import PostGraph.Cli
import PostGraph.Persistence
import PostGraph.Settings
import PostGraph.Passwords
import PostGraph.Errands
import PostGraph.Output
import PostGraph.Isolation
import PostGraph.Secrecy
import PostGraph.Draining
import PostGraph.Consent
import PostGraph.Users
import PostGraph.CommandSyntax
import PostGraph.ReplyLine
