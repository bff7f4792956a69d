import Bayeux.Admission
import Bayeux.Admission.Permits
import Bayeux.Browser
import Bayeux.Client.Basic
import Bayeux.Client.CookieJar
import Bayeux.Client.Failure
import Bayeux.Client.HttpDate
import Bayeux.Client.Loopback
import Bayeux.Client.Options
import Bayeux.Codec
import Bayeux.Command.Connect
import Bayeux.Command.Conversation
import Bayeux.Command.Start
import Bayeux.Command.Usage
import Bayeux.ConfigError
import Bayeux.Cookie
import Bayeux.Engine
import Bayeux.Json.Decimal
import Bayeux.Json.Double
import Bayeux.Json.Fault
import Bayeux.Json.Layout
import Bayeux.Json.Numeral
import Bayeux.Json.Outline
import Bayeux.Json.Reader
import Bayeux.Json.Token
import Bayeux.Json.Value
import Bayeux.Main
import Bayeux.Message.Advice
import Bayeux.Message.Basic
import Bayeux.Message.Reader
import Bayeux.Metrics
import Bayeux.Net.Address
import Bayeux.Net.Domain
import Bayeux.Net.Domain.Folding
import Bayeux.Net.Domain.Label
import Bayeux.Net.Escape
import Bayeux.Net.Form
import Bayeux.Net.HostName
import Bayeux.Net.PathPattern
import Bayeux.Net.Punycode
import Bayeux.Net.Target
import Bayeux.Net.Url
import Bayeux.Net.UrlPath
import Bayeux.Options.Basic
import Bayeux.Options.Entries
import Bayeux.Options.Json
import Bayeux.Request
import Bayeux.Server.Basic
import Bayeux.Server.Endpoint
import Bayeux.Server.Rehearsal
import Bayeux.Server.Schedule
import Bayeux.Server.Settings
import Bayeux.Server.Sweeper
import Bayeux.Session
import Bayeux.SessionLimit
import Bayeux.Table
import Bayeux.Text.Blank
import Bayeux.Text.CombiningClass
import Bayeux.Text.Composition
import Bayeux.Text.Direction
import Bayeux.Text.Integer
import Bayeux.Text.Joining
import Bayeux.Text.Marks
import Bayeux.Text.Quoted
import Bayeux.Text.Split
import Bayeux.Text.Utf8
import Bayeux.Text.Visibility
import Bayeux.Timestamp
import Bayeux.Transport.Basic
import Bayeux.Transport.Connection
import Bayeux.Transport.Exchange
import Bayeux.Transport.Response
import Bayeux.Proofs.Fallible
import Bayeux.Proofs.Admission.Counting
import Bayeux.Proofs.Admission.Ledger
import Bayeux.Proofs.Server.Run
import Bayeux.Proofs.Server.Holding
import Bayeux.Proofs.Server.Processing
import Bayeux.Proofs.Engine.Queue
import Bayeux.Proofs.Server.Delivery
import Bayeux.Proofs.Text.Positional
import Bayeux.Proofs.Json.Numeral
import Bayeux.Proofs.Json.Spelling
import Bayeux.Proofs.Json.Scanning
import Bayeux.Proofs.Json.Writing
import Bayeux.Proofs.Json.Building
import Bayeux.Proofs.Json.Members
import Bayeux.Proofs.Json.Reading
import Bayeux.Proofs.Message.Advice
import Bayeux.Proofs.Message.RoundTrip
import Bayeux.Proofs.Server.Scheduling
import Bayeux.Proofs.Admission.Sweeping
import Bayeux.Proofs.Session.Waiting
import Bayeux.Proofs.Engine.Subscriptions
import Bayeux.Proofs.Json.Rounding
import Bayeux.Proofs.Json.Scaling
import Bayeux.Proofs.Json.Literal
import Bayeux.Proofs.Json.Soundness
import Bayeux.Proofs.Message.Soundness
import Bayeux.Proofs.Engine.Replies
import Bayeux.Proofs.Server.Replies
import Bayeux.Proofs.Engine.Answering
import Bayeux.Proofs.Engine.Departure
import Bayeux.Proofs.Engine.Bystanders
import Bayeux.Proofs.Client.Reporting
import Bayeux.Proofs.Server.Refusing
import Bayeux.Proofs.Server.Responding
import Bayeux.Proofs.Engine.Waiting
import Bayeux.Proofs.Server.Dealing
import Bayeux.Proofs.Server.Attending
import Bayeux.Proofs.Server.Suspending
import Bayeux.Proofs.Server.Handling
import Bayeux.Proofs.Server.Identities
import Bayeux.Proofs.Server.Settling
import Bayeux.Proofs.Server.Timing
import Bayeux.Proofs.Command.Letters
import Bayeux.Proofs.Command.Correspondence
import Bayeux.Proofs.Command.Conversing
import Bayeux.Proofs.Admission.Eviction
import Bayeux.Proofs.Engine.Refusing
import Bayeux.Proofs.Server.Corresponding
import Bayeux.Proofs.Json.Views
import Bayeux.Proofs.Json.Schema
import Bayeux.Proofs.Message.Schema
import Bayeux.Proofs.Text.Parts
import Bayeux.Proofs.Text.Integer
import Bayeux.Proofs.BrowserId
import Bayeux.Proofs.Browser
import Bayeux.Proofs.Options.Scopes
import Bayeux.Proofs.Options.Settings
import Bayeux.Proofs.Command.Arguments
import Bayeux.Proofs.Command.Starting
import Bayeux.Proofs.Json.Respelling
import Bayeux.Proofs.Admission.Sparing
import Bayeux.Proofs.Options.RoundTrip
import Bayeux.Proofs.Engine.Channels
