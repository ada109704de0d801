import QueryRewriting.Text.LowerCase
import QueryRewriting.Text.Blank
import QueryRewriting.Text.Quoted
import QueryRewriting.Json.Printer
import QueryRewriting.Json.Reader
import QueryRewriting.Json.Decode
import QueryRewriting.Query.Codec
import QueryRewriting.Composition.Codec
import QueryRewriting.Kind.Builtin
import QueryRewriting.Definition.Document
import QueryRewriting.Store.Table
import QueryRewriting.Cache.Timeline
import QueryRewriting.Cache.Traffic
import QueryRewriting.Http.Api
import QueryRewriting.Toml.Reader
import QueryRewriting.Settings.Reader
import QueryRewriting.Settings.Codec
import QueryRewriting.Node.Startup
import QueryRewriting.Main
import QueryRewriting.Proofs.Cache.Overtaking
import QueryRewriting.Proofs.Cache.SharedErrors
import QueryRewriting.Proofs.Cache.Untouched
import QueryRewriting.Proofs.Cache.LoadStages
import QueryRewriting.Proofs.Cache.SharedLoads
import QueryRewriting.Proofs.Cache.Retraction
import QueryRewriting.Proofs.Composition.Matching
import QueryRewriting.Proofs.Composition.Scoring
import QueryRewriting.Proofs.Json.Canonical
import QueryRewriting.Proofs.Json.Numbers
import QueryRewriting.Proofs.Json.RoundTrip
import QueryRewriting.Proofs.Json.Records
import QueryRewriting.Proofs.Definition.Documents
import QueryRewriting.Proofs.Cache.Undisturbed
import QueryRewriting.Proofs.Cache.Sweeps
import QueryRewriting.Proofs.Cluster.Commands
import QueryRewriting.Proofs.Cluster.Applications
import QueryRewriting.Proofs.Cluster.Operations
import QueryRewriting.Proofs.Cluster.Chronicle
import QueryRewriting.Proofs.Kind.Soundness
import QueryRewriting.Proofs.Kind.Weights
import QueryRewriting.Proofs.Service.Admission
import QueryRewriting.Proofs.Service.Answers
import QueryRewriting.Proofs.Query.Renaming
import QueryRewriting.Proofs.Service.ChainOrder
import QueryRewriting.Proofs.Cache.Successive
import QueryRewriting.Proofs.Cluster.Partitions
import QueryRewriting.Proofs.Service.AllOrNothing
import QueryRewriting.Proofs.Cluster.Accounts
import QueryRewriting.Proofs.Cache.PlainMap
import QueryRewriting.Proofs.Cluster.Scatter
import QueryRewriting.Proofs.Cache.Staleness
import QueryRewriting.Proofs.Cache.Books
import QueryRewriting.Proofs.Cache.Sessions
import QueryRewriting.Proofs.Params.Frame
import QueryRewriting.Proofs.Service.Isolation
import QueryRewriting.Proofs.Service.Interference
import QueryRewriting.Proofs.Cluster.Cutoffs
import QueryRewriting.Proofs.Text.Words
import QueryRewriting.Proofs.Decimal.Numerals
import QueryRewriting.Proofs.Threshold.Grammar
import QueryRewriting.Proofs.Threshold.Resolution
import QueryRewriting.Proofs.Cache.Traffic
import QueryRewriting.Proofs.Cache.Journal
import QueryRewriting.Proofs.Cache.Admittance
import QueryRewriting.Proofs.Cluster.Reads
import QueryRewriting.Proofs.Service.Surroundings
import QueryRewriting.Proofs.Service.Atomicity
import QueryRewriting.Proofs.Cache.MarkHistory
import QueryRewriting.Proofs.Kind.Replacement
import QueryRewriting.Proofs.Settings.NormalForm
import QueryRewriting.Proofs.Service.InfoLog
