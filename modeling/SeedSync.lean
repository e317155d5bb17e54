import SeedSync.Assembly.Basic
import SeedSync.Assembly.Index
import SeedSync.Assembly.Store
import SeedSync.CommandLine.Arguments
import SeedSync.CommandLine.Program
import SeedSync.Control.Basic
import SeedSync.Control.Header
import SeedSync.Digest.Intake
import SeedSync.Digest.Md4
import SeedSync.Digest.Sha1
import SeedSync.Error
import SeedSync.Event.Basic
import SeedSync.Event.Dispatcher
import SeedSync.Event.Download
import SeedSync.Event.Progress
import SeedSync.Event.Stats
import SeedSync.Files.Changes
import SeedSync.Files.Content
import SeedSync.Files.Path
import SeedSync.Files.Tree
import SeedSync.Invocation.Location
import SeedSync.Invocation.Run
import SeedSync.IoError
import SeedSync.Main
import SeedSync.Matching.Paired
import SeedSync.Matching.Scan
import SeedSync.Matching.Single
import SeedSync.Matching.Sink
import SeedSync.Proofs.Assembly.Accounts
import SeedSync.Proofs.Assembly.Blocks
import SeedSync.Proofs.Assembly.History
import SeedSync.Proofs.Assembly.Index
import SeedSync.Proofs.Assembly.Journal
import SeedSync.Proofs.Assembly.Looks
import SeedSync.Proofs.Assembly.Missing
import SeedSync.Proofs.Assembly.Offsets
import SeedSync.Proofs.Assembly.Operations
import SeedSync.Proofs.Assembly.Order
import SeedSync.Proofs.Assembly.Receipt
import SeedSync.Proofs.Assembly.Requests
import SeedSync.Proofs.Assembly.Sink
import SeedSync.Proofs.Assembly.Store
import SeedSync.Proofs.Assembly.Taking
import SeedSync.Proofs.Assembly.Target
import SeedSync.Proofs.Assembly.TargetSeed
import SeedSync.Proofs.Control.Acceptance
import SeedSync.Proofs.Control.Encoding
import SeedSync.Proofs.Control.Entries
import SeedSync.Proofs.Control.Fields
import SeedSync.Proofs.Control.Grammar
import SeedSync.Proofs.Control.Lines
import SeedSync.Proofs.Control.Reading
import SeedSync.Proofs.Control.Table
import SeedSync.Proofs.Control.Target
import SeedSync.Proofs.Control.Tiling
import SeedSync.Proofs.Control.Values
import SeedSync.Proofs.Error
import SeedSync.Proofs.Event.Gathering
import SeedSync.Proofs.Event.Milestones
import SeedSync.Proofs.Event.Stats
import SeedSync.Proofs.Event.Tally
import SeedSync.Proofs.Files.Content
import SeedSync.Proofs.Files.Order
import SeedSync.Proofs.Files.Part
import SeedSync.Proofs.Files.Path
import SeedSync.Proofs.Files.Tree
import SeedSync.Proofs.Invocation.Accounts
import SeedSync.Proofs.Invocation.Files
import SeedSync.Proofs.Invocation.Location
import SeedSync.Proofs.Invocation.Midway
import SeedSync.Proofs.Invocation.Order
import SeedSync.Proofs.Matching.Agreement
import SeedSync.Proofs.Matching.Found
import SeedSync.Proofs.Matching.Greedy
import SeedSync.Proofs.Matching.Locking
import SeedSync.Proofs.Matching.Paired
import SeedSync.Proofs.Matching.Recorder
import SeedSync.Proofs.Matching.Scan
import SeedSync.Proofs.Matching.Single
import SeedSync.Proofs.Matching.Sink
import SeedSync.Proofs.Matching.Strides
import SeedSync.Proofs.Stream.Buffered
import SeedSync.Proofs.Stream.Lines
import SeedSync.Proofs.Stream.Sink
import SeedSync.Proofs.Stream.Source
import SeedSync.Proofs.Sum.Rolling
import SeedSync.Proofs.Text.Base64
import SeedSync.Proofs.Text.Blank
import SeedSync.Proofs.Text.Cut
import SeedSync.Proofs.Text.Decimal
import SeedSync.Proofs.Text.Hex
import SeedSync.Proofs.Text.Utf8
import SeedSync.Proofs.Transfer.Authorization
import SeedSync.Proofs.Transfer.Body
import SeedSync.Proofs.Transfer.ByteRange
import SeedSync.Proofs.Transfer.Client
import SeedSync.Proofs.Transfer.ContentType
import SeedSync.Proofs.Transfer.Credentials
import SeedSync.Proofs.Transfer.Framing
import SeedSync.Proofs.Transfer.Handing
import SeedSync.Proofs.Transfer.Lines
import SeedSync.Proofs.Transfer.Multipart
import SeedSync.Proofs.Transfer.Responses
import SeedSync.Proofs.Window.Bounds
import SeedSync.Proofs.Window.Sliding
import SeedSync.Proofs.Window.View
import SeedSync.Settings.Basic
import SeedSync.Settings.Toml
import SeedSync.Stream.Buffered
import SeedSync.Stream.Sink
import SeedSync.Stream.Source
import SeedSync.Sum.Block
import SeedSync.Sum.Rolling
import SeedSync.Sum.Strong
import SeedSync.Text.Base64
import SeedSync.Text.Blank
import SeedSync.Text.ByteSize
import SeedSync.Text.Composition
import SeedSync.Text.Cut
import SeedSync.Text.Decimal
import SeedSync.Text.Elapsed
import SeedSync.Text.Hex
import SeedSync.Text.JsonText
import SeedSync.Text.Mark
import SeedSync.Text.Printable
import SeedSync.Text.Quoted
import SeedSync.Text.Table
import SeedSync.Text.Utf8
import SeedSync.Time.Calendar
import SeedSync.Time.MailDate
import SeedSync.Transfer.Body
import SeedSync.Transfer.ByteRange
import SeedSync.Transfer.Client
import SeedSync.Transfer.Credentials
import SeedSync.Transfer.Multipart
import SeedSync.Transfer.Network
import SeedSync.Transfer.Receiver
import SeedSync.Transfer.Status
import SeedSync.Url.Basic
import SeedSync.Url.Direction
import SeedSync.Url.Folding
import SeedSync.Url.Host
import SeedSync.Url.Joining
import SeedSync.Url.Parser
import SeedSync.Url.Percent
import SeedSync.Url.Punycode
import SeedSync.Window.Feed
import SeedSync.Window.Sliding
import SeedSync.Window.View
