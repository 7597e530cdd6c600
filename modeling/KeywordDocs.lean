import KeywordDocs.Action
import KeywordDocs.Artifact.Cache
import KeywordDocs.Artifact.Generator
import KeywordDocs.Batch
import KeywordDocs.Bench
import KeywordDocs.CommandLine.Arguments
import KeywordDocs.CommandLine.Program
import KeywordDocs.Decimal.Shortest
import KeywordDocs.Digest.Sha256
import KeywordDocs.Event
import KeywordDocs.Failure
import KeywordDocs.FileSystem.Basic
import KeywordDocs.FileSystem.Update
import KeywordDocs.Host.Environment
import KeywordDocs.Host.Exit
import KeywordDocs.Host.Interpreter
import KeywordDocs.Host.Libdoc
import KeywordDocs.Host.Machine
import KeywordDocs.Host.Probe
import KeywordDocs.Host.Rulebook
import KeywordDocs.Host.Script
import KeywordDocs.Host.Survey
import KeywordDocs.Host.Variables
import KeywordDocs.Json.Basic
import KeywordDocs.Json.Decode
import KeywordDocs.Json.Number
import KeywordDocs.Json.Term
import KeywordDocs.Json.Token
import KeywordDocs.Library.Catalog
import KeywordDocs.Library.Record
import KeywordDocs.Library.Reference
import KeywordDocs.Log.Filter
import KeywordDocs.Log.Format
import KeywordDocs.Main
import KeywordDocs.Module.Loader
import KeywordDocs.Module.Registry
import KeywordDocs.Module.Resolver
import KeywordDocs.Path
import KeywordDocs.Processor
import KeywordDocs.Proofs.Calls
import KeywordDocs.Proofs.Catalog
import KeywordDocs.Proofs.Directories
import KeywordDocs.Proofs.Encoding
import KeywordDocs.Proofs.Invocations
import KeywordDocs.Proofs.Keys
import KeywordDocs.Proofs.Locating
import KeywordDocs.Proofs.Paths
import KeywordDocs.Proofs.Processing
import KeywordDocs.Proofs.Report
import KeywordDocs.Settings.Configuration
import KeywordDocs.Settings.Discovery
import KeywordDocs.Text.Alphanumeric
import KeywordDocs.Text.Blank
import KeywordDocs.Text.Hidden
import KeywordDocs.Text.Lowercase
import KeywordDocs.Text.Pattern
import KeywordDocs.Text.Quoted
import KeywordDocs.Text.Split
import KeywordDocs.Text.Terminal
import KeywordDocs.Text.Utf8
import KeywordDocs.Toml.Moment
import KeywordDocs.Toml.Reader
import KeywordDocs.Toml.Scalar
import KeywordDocs.Toml.Table
import KeywordDocs.Toml.Value
import KeywordDocs.Proofs.Tables
import KeywordDocs.Proofs.Splitting
import KeywordDocs.Proofs.Freshness
import KeywordDocs.Proofs.Reuse
import KeywordDocs.Proofs.Generated
import KeywordDocs.Proofs.Histories
import KeywordDocs.Proofs.Sessions
import KeywordDocs.Proofs.Regeneration
import KeywordDocs.Proofs.Independence
import KeywordDocs.Proofs.Filling
import KeywordDocs.Proofs.SearchPaths
import KeywordDocs.Proofs.Terms
import KeywordDocs.Proofs.Values
import KeywordDocs.Proofs.Records
import KeywordDocs.Proofs.Endings
import KeywordDocs.Proofs.Components
import KeywordDocs.Proofs.Accounts
import KeywordDocs.Proofs.Fallback
import KeywordDocs.Proofs.Replies
import KeywordDocs.Proofs.Staleness
import KeywordDocs.Proofs.Parents
import KeywordDocs.Proofs.Stems
import KeywordDocs.Proofs.Collisions
import KeywordDocs.Proofs.Changes
import KeywordDocs.Proofs.Demand
import KeywordDocs.Proofs.Entries
import KeywordDocs.Proofs.Ascents
import KeywordDocs.Proofs.Sources
