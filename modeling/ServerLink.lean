import ServerLink.Assoc
import ServerLink.Client.Basic
import ServerLink.Client.Configuration
import ServerLink.Client.Farewell
import ServerLink.Client.Handshake
import ServerLink.Client.Log
import ServerLink.Client.Message
import ServerLink.Controller.Basic
import ServerLink.Controller.Event
import ServerLink.Controller.Loop
import ServerLink.Controller.Step
import ServerLink.Decimal.Binary64
import ServerLink.Decimal.Natural
import ServerLink.Decimal.Shortest
import ServerLink.Desktop
import ServerLink.Document.Event
import ServerLink.Document.Opened
import ServerLink.Document.Selector
import ServerLink.Document.Watch
import ServerLink.Duration
import ServerLink.Environment
import ServerLink.Feature.Basic
import ServerLink.Feature.Capability
import ServerLink.Feature.Registration
import ServerLink.Feature.Subscriptions
import ServerLink.Glob.Basic
import ServerLink.Glob.Collection
import ServerLink.Glob.Expression
import ServerLink.Glob.Parser
import ServerLink.Home
import ServerLink.Json.Basic
import ServerLink.Json.Form
import ServerLink.Json.Reader
import ServerLink.Json.Writer
import ServerLink.Main
import ServerLink.Panel.Board
import ServerLink.Panel.Http
import ServerLink.Panel.Message
import ServerLink.Panel.Page
import ServerLink.Panel.Queue
import ServerLink.Path.Basic
import ServerLink.Path.FileUri
import ServerLink.Product
import ServerLink.Recovery
import ServerLink.Rehearsal.Evening
import ServerLink.Rehearsal.Peer
import ServerLink.Rehearsal.Programme
import ServerLink.Rehearsal.Stage
import ServerLink.Release.Notice
import ServerLink.Release.Version
import ServerLink.Rpc.Message
import ServerLink.Rpc.Waiting
import ServerLink.Settings.Basic
import ServerLink.Settings.Expansion
import ServerLink.Settings.File
import ServerLink.Settings.Record
import ServerLink.State.Store
import ServerLink.Storage.FileError
import ServerLink.Storage.Tree
import ServerLink.Terminal.Command
import ServerLink.Terminal.Host
import ServerLink.Terminal.Session
import ServerLink.Terminal.Shell
import ServerLink.Terminal.Startup
import ServerLink.Text.Blank
import ServerLink.Text.Printable
import ServerLink.Text.Quoted
import ServerLink.Text.Split
import ServerLink.Text.Utf8
import ServerLink.Toml.Basic
import ServerLink.Toml.Document
import ServerLink.Toml.Quoted
import ServerLink.Toml.Reader
import ServerLink.Toml.Scalar
import ServerLink.Toml.Table
import ServerLink.Transport.Basic
import ServerLink.Transport.Mode
import ServerLink.Unicode.Combining
import ServerLink.Unicode.Composite
import ServerLink.Unicode.Direction
import ServerLink.Unicode.Folding
import ServerLink.Unicode.Joining
import ServerLink.Unicode.Normal
import ServerLink.Unicode.Table
import ServerLink.Url.Basic
import ServerLink.Url.Domain
import ServerLink.Url.Error
import ServerLink.Url.Host
import ServerLink.Url.Percent
import ServerLink.Url.Punycode
import ServerLink.Wire.Frame
import ServerLink.Wire.Header
import ServerLink.Proofs.Controller.History
import ServerLink.Proofs.Controller.Move
import ServerLink.Proofs.Controller.Recovery
import ServerLink.Proofs.Client.Conversation
import ServerLink.Proofs.Client.Course
import ServerLink.Proofs.Controller.Coherence
import ServerLink.Proofs.Controller.Order
import ServerLink.Proofs.Controller.Connection
import ServerLink.Proofs.Assoc
import ServerLink.Proofs.Document.Mirror
import ServerLink.Proofs.Document.Frame
import ServerLink.Proofs.Controller.Mirror
import ServerLink.Proofs.Document.Cycle
import ServerLink.Proofs.Controller.Cycle
import ServerLink.Proofs.Wire.Header
import ServerLink.Proofs.Wire.Stream
import ServerLink.Proofs.Client.Reply
import ServerLink.Proofs.Client.Await
import ServerLink.Proofs.Controller.Reply
import ServerLink.Proofs.Controller.Abandonment
import ServerLink.Proofs.Controller.Accounting
import ServerLink.Proofs.Controller.Loop
import ServerLink.Proofs.Controller.Idle
import ServerLink.Proofs.Controller.Outcome
import ServerLink.Proofs.Controller.Offer
import ServerLink.Proofs.Client.Calls
import ServerLink.Proofs.Controller.Feature
import ServerLink.Proofs.Text.Span
import ServerLink.Proofs.Text.Utf8
import ServerLink.Proofs.Settings.Expansion
import ServerLink.Proofs.Glob.Ending
import ServerLink.Proofs.Url.Percent
import ServerLink.Proofs.Path.FileUri
import ServerLink.Proofs.Document.Watch
import ServerLink.Proofs.Controller.Watch
import ServerLink.Proofs.Toml.Quoted
import ServerLink.Proofs.Toml.Scalar
import ServerLink.Proofs.Toml.Space
import ServerLink.Proofs.Toml.Key
import ServerLink.Proofs.Toml.Tree
import ServerLink.Proofs.Toml.Fit
import ServerLink.Proofs.Toml.Build
import ServerLink.Proofs.Toml.Sense
import ServerLink.Proofs.Toml.Shape
import ServerLink.Proofs.Toml.Stage
import ServerLink.Proofs.Toml.Rebuild
import ServerLink.Proofs.Toml.Value
import ServerLink.Proofs.Toml.Inline
import ServerLink.Proofs.Toml.Document
import ServerLink.Proofs.Storage.Directories
import ServerLink.Proofs.Storage.Replace
import ServerLink.Proofs.State.Record
import ServerLink.Proofs.State.Atomic
import ServerLink.Proofs.Release.Notice
import ServerLink.Proofs.Release.Version
import ServerLink.Proofs.State.Ratchet
import ServerLink.Proofs.Terminal.Offer
import ServerLink.Proofs.Feature.Subscriptions
import ServerLink.Proofs.Feature.Registration
import ServerLink.Proofs.Client.Registration
import ServerLink.Proofs.Client.Push
import ServerLink.Proofs.Controller.Push
import ServerLink.Proofs.Panel.Board
import ServerLink.Proofs.Panel.Message
import ServerLink.Proofs.Desktop.Relay
import ServerLink.Proofs.Terminal.Log
import ServerLink.Proofs.Terminal.Panel
import ServerLink.Proofs.Terminal.Relay
import ServerLink.Proofs.Text.Blank
import ServerLink.Proofs.Decimal.Natural
import ServerLink.Proofs.Wire.Block
import ServerLink.Proofs.Wire.Progress
import ServerLink.Proofs.Client.Completion
import ServerLink.Proofs.Controller.Restart
import ServerLink.Proofs.Terminal.Reload
import ServerLink.Proofs.Text.Split
import ServerLink.Proofs.Client.Configuration
import ServerLink.Proofs.Feature.Capability
import ServerLink.Proofs.Controller.Announcement
import ServerLink.Proofs.Terminal.Closing
import ServerLink.Proofs.State.Comments
import ServerLink.Proofs.Text.Word
import ServerLink.Proofs.Terminal.Command
import ServerLink.Proofs.Rehearsal.Run
