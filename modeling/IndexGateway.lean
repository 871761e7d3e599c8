import IndexGateway.Application
import IndexGateway.Cache.Basic
import IndexGateway.Cache.Operation
import IndexGateway.Cache.Responses
import IndexGateway.Cache.Shared
import IndexGateway.CachePolicy
import IndexGateway.Catalog.Basic
import IndexGateway.Catalog.Document
import IndexGateway.Catalog.Model
import IndexGateway.Clock
import IndexGateway.CommandLine.Invocation
import IndexGateway.CommandLine.Options
import IndexGateway.CommandLine.Run
import IndexGateway.Fault
import IndexGateway.Gateway.Basic
import IndexGateway.Gateway.Method
import IndexGateway.Gateway.Operation
import IndexGateway.Gateway.Service
import IndexGateway.Gateway.Surroundings
import IndexGateway.Instant.Basic
import IndexGateway.Instant.Calendar
import IndexGateway.Instant.Parser
import IndexGateway.Instant.Printer
import IndexGateway.Json.Basic
import IndexGateway.Json.Outline
import IndexGateway.Json.Parser
import IndexGateway.Json.Printer
import IndexGateway.Legacy.Index
import IndexGateway.Legacy.Links
import IndexGateway.Legacy.Query
import IndexGateway.Legacy.Retired
import IndexGateway.Legacy.Table
import IndexGateway.Limiter.Admission
import IndexGateway.Limiter.Basic
import IndexGateway.Limiter.Operation
import IndexGateway.Limiter.SlidingWindow
import IndexGateway.Log
import IndexGateway.LogFilter.Basic
import IndexGateway.LogFilter.Field
import IndexGateway.Main
import IndexGateway.Metrics.Basic
import IndexGateway.Metrics.Host
import IndexGateway.Metrics.Statsd
import IndexGateway.Number.Basic
import IndexGateway.Number.Binary64
import IndexGateway.Number.Literal
import IndexGateway.Number.Shortest
import IndexGateway.Pattern.Basic
import IndexGateway.Pattern.Parser
import IndexGateway.Pattern.Usable
import IndexGateway.ProjectName
import IndexGateway.Request
import IndexGateway.Schema.Arguments
import IndexGateway.Schema.Basic
import IndexGateway.Schema.ParamType
import IndexGateway.Settings.Basic
import IndexGateway.Settings.Document
import IndexGateway.Text.Alphanumeric
import IndexGateway.Text.Blank
import IndexGateway.Text.Bytes
import IndexGateway.Text.Clean
import IndexGateway.Text.Lowercase
import IndexGateway.Text.Numeral
import IndexGateway.Text.Quoted
import IndexGateway.Text.Reader
import IndexGateway.Text.Substitute
import IndexGateway.Text.Visible
import IndexGateway.Toml.Basic
import IndexGateway.Toml.Document
import IndexGateway.Toml.Printer
import IndexGateway.Toml.Quoted
import IndexGateway.Toml.Scalar
import IndexGateway.Proofs.Limiter.HitLog
import IndexGateway.Proofs.Limiter.Interleaving
import IndexGateway.Proofs.Json.Quoted
import IndexGateway.Proofs.Json.Layout
import IndexGateway.Proofs.Json.Numeral
import IndexGateway.Proofs.Json.ReadBack
import IndexGateway.Proofs.Cache.Key
import IndexGateway.Proofs.Json.Cleaned
import IndexGateway.Proofs.Schema.Seats
import IndexGateway.Proofs.Cache.Entries
import IndexGateway.Proofs.Cache.TagIndex
import IndexGateway.Proofs.Cache.InStep
import IndexGateway.Proofs.Cache.Recency
import IndexGateway.Proofs.Cache.Shared
import IndexGateway.Proofs.Gateway.Truthful
import IndexGateway.Proofs.Gateway.Registration
import IndexGateway.Proofs.Legacy.Results
import IndexGateway.Proofs.Legacy.Methods
import IndexGateway.Proofs.Application.Room
import IndexGateway.Proofs.Limiter.Lookalike
import IndexGateway.Proofs.Application.Callers
import IndexGateway.Proofs.Gateway.Stores
import IndexGateway.Proofs.Application.Remembering
import IndexGateway.Proofs.Application.Provenance
import IndexGateway.Proofs.Legacy.Subjects
import IndexGateway.Proofs.Legacy.Invalidation
import IndexGateway.Proofs.Schema.Binding
import IndexGateway.Proofs.Schema.Conformance
import IndexGateway.Proofs.Limiter.ResetHint
import IndexGateway.Proofs.Cache.RoundTrip
import IndexGateway.Proofs.Gateway.Routing
import IndexGateway.Proofs.Gateway.Surroundings
import IndexGateway.Proofs.Gateway.Accounting
import IndexGateway.Proofs.Legacy.Endpoints
import IndexGateway.Proofs.Gateway.Stages
import IndexGateway.Proofs.Legacy.Codes
import IndexGateway.Proofs.Limiter.Overlap
import IndexGateway.Proofs.Schema.Accessors
import IndexGateway.Proofs.Legacy.Arguments
import IndexGateway.Proofs.Text.Safe
import IndexGateway.Proofs.Json.Safe
import IndexGateway.Proofs.Json.Collected
import IndexGateway.Proofs.Json.Cleaning
import IndexGateway.Proofs.Gateway.WithStores
import IndexGateway.Proofs.Gateway.Sanitized
import IndexGateway.Proofs.Schema.Reports
import IndexGateway.Proofs.Legacy.FaultTexts
import IndexGateway.Proofs.Sorting
import IndexGateway.Proofs.Catalog.Projects
import IndexGateway.Proofs.Catalog.Spellings
import IndexGateway.Proofs.Catalog.Journal
import IndexGateway.Proofs.Legacy.Replies
import IndexGateway.Proofs.Legacy.Polling
import IndexGateway.Proofs.CommandLine.Outcome
import IndexGateway.Proofs.Text.Reader
import IndexGateway.Proofs.Toml.Quoted
import IndexGateway.Proofs.Toml.Scalar
import IndexGateway.Proofs.Toml.Document
import IndexGateway.Proofs.Settings.RoundTrip
import IndexGateway.Proofs.Text.Numeral
import IndexGateway.Proofs.Text.Lowercase
import IndexGateway.Proofs.Text.Passes
import IndexGateway.Proofs.Instant.Calendar
import IndexGateway.Proofs.Instant.RoundTrip
import IndexGateway.Proofs.Catalog.RoundTrip
import IndexGateway.Proofs.Legacy.Browsing
import IndexGateway.Proofs.Legacy.Releases
import IndexGateway.Proofs.Legacy.Roles
import IndexGateway.Proofs.Legacy.AtWork
import IndexGateway.Proofs.Legacy.Listings
import IndexGateway.Proofs.Legacy.Changelog
import IndexGateway.Proofs.Schema.Mismatches
import IndexGateway.Proofs.Schema.Defaults
import IndexGateway.Proofs.Legacy.Uploads
import IndexGateway.Proofs.Limiter.Recovery
import IndexGateway.Proofs.Limiter.Bounded
