import NamedCaches.Text.Blank
import NamedCaches.Text.Hidden
import NamedCaches.Text.Alphanumeric
import NamedCaches.Text.Escaped
import NamedCaches.Decimal.Double
import NamedCaches.Decimal.Shortest
import NamedCaches.Decimal.Render
import NamedCaches.Json.Value
import NamedCaches.Json.Error
import NamedCaches.Json.Print
import NamedCaches.Json.Scan
import NamedCaches.Json.Shape
import NamedCaches.Json.Shape.OfText
import NamedCaches.Expiry
import NamedCaches.Failure
import NamedCaches.Config.Properties
import NamedCaches.Config.Declaration
import NamedCaches.Config.Settings
import NamedCaches.Log
import NamedCaches.Cache.Status
import NamedCaches.Loader.Basic
import NamedCaches.Loader.Binding
import NamedCaches.Cache.Collaborator
import NamedCaches.Cache.Engine
import NamedCaches.Cache.Basic
import NamedCaches.Cache.Ops
import NamedCaches.Cache.Call
import NamedCaches.Files
import NamedCaches.Config.Document
import NamedCaches.Config.Source
import NamedCaches.Registry
import NamedCaches.Loader.Properties
import NamedCaches.Listener.NullSink
import NamedCaches.Handler
import NamedCaches.Request.Basic
import NamedCaches.Request.Config
import NamedCaches.Request.Answer
import NamedCaches.Bench.Spec
import NamedCaches.Bench.World
import NamedCaches.Bench.Loader
import NamedCaches.Bench.Listener
import NamedCaches.Bench.Store
import NamedCaches.Bench.Handler
import NamedCaches.Request.Step
import NamedCaches.Request.Binding
import NamedCaches.Session.Basic
import NamedCaches.Request.Session
import NamedCaches.Host.EnvFile
import NamedCaches.Log.Pattern
import NamedCaches.Log.Filter
import NamedCaches.Host.Basic
import NamedCaches.Report
import NamedCaches.Request.Cli
import NamedCaches.Main
import NamedCaches.Proofs.Engine.MapLike
import NamedCaches.Proofs.Cache.Exec
import NamedCaches.Proofs.Cache.Serving
import NamedCaches.Proofs.Cache.FiniteMap
import NamedCaches.Proofs.Cache.Frame
import NamedCaches.Proofs.Registry.Build
import NamedCaches.Proofs.Json.Order
import NamedCaches.Proofs.Registry.Calls
import NamedCaches.Proofs.Registry.Layering
import NamedCaches.Proofs.Cache.Lifecycle
import NamedCaches.Proofs.Registry.Failures
import NamedCaches.Proofs.Registry.DeclaredLoader
import NamedCaches.Proofs.Registry.Memo
import NamedCaches.Proofs.Cache.Disposal
import NamedCaches.Proofs.Cache.Reentry
import NamedCaches.Proofs.Watch.World
import NamedCaches.Proofs.Watch.Arrivals
import NamedCaches.Proofs.Watch.Lifecycle
import NamedCaches.Proofs.Watch.Replacement
import NamedCaches.Proofs.Watch.Ledger
import NamedCaches.Proofs.Registry.Release
import NamedCaches.Proofs.Watch.Isolation
import NamedCaches.Proofs.Watch.Lives
import NamedCaches.Proofs.Watch.Succession
import NamedCaches.Proofs.Properties.Reading
import NamedCaches.Proofs.Properties.Writing
import NamedCaches.Proofs.Cache.Batch
import NamedCaches.Proofs.Expiry.Span
import NamedCaches.Proofs.Engine.Limit
import NamedCaches.Proofs.Config.Overlay
import NamedCaches.Proofs.Watch.Binding
import NamedCaches.Proofs.Report.Shutdown
import NamedCaches.Proofs.Report.Outcome
import NamedCaches.Proofs.Loader.Defaults
