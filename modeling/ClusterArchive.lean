import ClusterArchive.Files.Tree
import ClusterArchive.Log.Secrets
import ClusterArchive.Log.Service
import ClusterArchive.Main
import ClusterArchive.Policy.Reload
import ClusterArchive.Proofs.Archive.Separation
import ClusterArchive.Proofs.Expr.Acceptance
import ClusterArchive.Proofs.Expr.Composition
import ClusterArchive.Proofs.Expr.Conjunction
import ClusterArchive.Proofs.Expr.Lookups
import ClusterArchive.Proofs.Expr.Refusals
import ClusterArchive.Proofs.Expr.Renaming
import ClusterArchive.Proofs.Json.Canonical
import ClusterArchive.Proofs.Json.RoundTrip
import ClusterArchive.Proofs.Log.Answer
import ClusterArchive.Proofs.Log.Calls
import ClusterArchive.Proofs.Log.EmptyMatches
import ClusterArchive.Proofs.Log.ErrorBody
import ClusterArchive.Proofs.Log.Injection
import ClusterArchive.Proofs.Log.Outcome
import ClusterArchive.Proofs.Log.Passthrough
import ClusterArchive.Proofs.Policy.Accounting
import ClusterArchive.Proofs.Policy.Errors
import ClusterArchive.Proofs.Policy.Reloading
import ClusterArchive.Proofs.Policy.SelectedType
import ClusterArchive.Proofs.Policy.Tenants
import ClusterArchive.Proofs.Resource.ApiVersion
import ClusterArchive.Proofs.Resource.Clashes
import ClusterArchive.Proofs.Resource.Plural
import ClusterArchive.Proofs.Resource.TypeNames
import ClusterArchive.Proofs.Sink.Addressed
import ClusterArchive.Proofs.Sink.Ids
import ClusterArchive.Proofs.Sink.Intake
import ClusterArchive.Proofs.Sink.LastWrite
import ClusterArchive.Proofs.Sink.Modes
import ClusterArchive.Proofs.Sink.Progress
import ClusterArchive.Proofs.Text.Spelling
