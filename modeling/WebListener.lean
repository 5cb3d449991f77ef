import WebListener.Command.Arguments
import WebListener.Command.Run
import WebListener.Command.Texts
import WebListener.Config.CertificateCache
import WebListener.Config.Decode
import WebListener.Config.Load
import WebListener.Config.Options
import WebListener.Hash.Sha2
import WebListener.Http.AccessLog
import WebListener.Http.Application
import WebListener.Http.Connection
import WebListener.Http.Head
import WebListener.Http.Host
import WebListener.Http.Message
import WebListener.Http.Redirect
import WebListener.Http.Uri
import WebListener.Http.Uri.Reader
import WebListener.Kernel.Errno
import WebListener.Kernel.FileTree
import WebListener.Kernel.IoError
import WebListener.Kernel.SocketFile
import WebListener.Lifecycle.Exit
import WebListener.Lifecycle.Family
import WebListener.Lifecycle.Handle
import WebListener.Lifecycle.Lane
import WebListener.Lifecycle.Schedule
import WebListener.Lifecycle.Session
import WebListener.Lifecycle.Startup
import WebListener.Lifecycle.World
import WebListener.ListenerError
import WebListener.Log.Event
import WebListener.Log.Filter
import WebListener.Log.Line
import WebListener.Main
import WebListener.Net.Authority
import WebListener.Net.Bind
import WebListener.Net.BoundAddress
import WebListener.Net.KeepAlive
import WebListener.Net.ListenAddress
import WebListener.Net.Port
import WebListener.Net.Resolve
import WebListener.Net.SocketAddress
import WebListener.Net.SocketAddress.Reader
import WebListener.Number.Double
import WebListener.Number.Shortest
import WebListener.Proofs.Http.Hosts
import WebListener.Proofs.Http.Redirecting
import WebListener.Proofs.Http.Targets
import WebListener.Proofs.Lifecycle.Closing
import WebListener.Proofs.Lifecycle.Families
import WebListener.Proofs.Lifecycle.History
import WebListener.Proofs.Lifecycle.Moves
import WebListener.Proofs.Lifecycle.Refusals
import WebListener.Proofs.Lifecycle.Results
import WebListener.Proofs.Text.Split
import WebListener.Proofs.Text.Utf8
import WebListener.Text.Blank
import WebListener.Text.Decimal
import WebListener.Text.GraphemeExtend
import WebListener.Text.Quoted
import WebListener.Text.Reader
import WebListener.Text.Similarity
import WebListener.Text.Split
import WebListener.Text.Unprintable
import WebListener.Text.Utf8
import WebListener.Tls.Base64
import WebListener.Tls.Certificate
import WebListener.Tls.Curve
import WebListener.Tls.Der
import WebListener.Tls.Fault
import WebListener.Tls.Material
import WebListener.Tls.Pem
import WebListener.Tls.PrivateKey
import WebListener.Tls.PublicKey
import WebListener.Toml.Document
import WebListener.Toml.Excerpt
import WebListener.Toml.Moment
import WebListener.Toml.Numeral
import WebListener.Toml.Strings
import WebListener.Toml.Table
import WebListener.Toml.Trivia
import WebListener.Toml.Value
import WebListener.Proofs.Http.Paths
import WebListener.Proofs.Http.Locations
import WebListener.Proofs.Http.Authority
import WebListener.Proofs.Http.Indifference
import WebListener.Proofs.Http.KeptHost
import WebListener.Proofs.Net.Readers
import WebListener.Proofs.Text.Blank
import WebListener.Proofs.Net.AskedPort
import WebListener.Proofs.Http.RedirectPort
import WebListener.Proofs.Lifecycle.Lanes
import WebListener.Proofs.Lifecycle.Publishing
import WebListener.Proofs.Lifecycle.MaterialFirst
import WebListener.Proofs.Lifecycle.Twins
import WebListener.Proofs.Lifecycle.MaterialSource
import WebListener.Proofs.Kernel.SocketFiles
import WebListener.Proofs.Lifecycle.SocketLifetime
import WebListener.Proofs.Lifecycle.Waiters
import WebListener.Proofs.Lifecycle.Undisturbed
import WebListener.Proofs.Lifecycle.Interruption
import WebListener.Proofs.Toml.Distinct
import WebListener.Proofs.Toml.Tree
import WebListener.Proofs.Config.Filling
import WebListener.Proofs.Config.ByKey
import WebListener.Proofs.Config.Edits
import WebListener.Proofs.Config.Demands
import WebListener.Proofs.Text.Decimal
import WebListener.Proofs.Net.PortNumeral
import WebListener.Proofs.Net.AddressGrammar
import WebListener.Proofs.Net.CanonicalAddress
import WebListener.Proofs.Net.Binding
import WebListener.Proofs.Http.Decoding
import WebListener.Proofs.Tls.Loading
import WebListener.Proofs.Net.Probing
import WebListener.Proofs.Config.AllowList
import WebListener.Proofs.Config.Positions
import WebListener.Proofs.Text.Places
import WebListener.Proofs.Http.BareHosts
import WebListener.Proofs.Net.PortDigits
import WebListener.Proofs.Config.WrittenPort
import WebListener.Proofs.Http.AccessEvents
import WebListener.Proofs.Causes
