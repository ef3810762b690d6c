import Directory.Main
import Directory.Proofs.Query.Algebra
import Directory.Proofs.Query.Limits
import Directory.Proofs.Query.Quoting
import Directory.Proofs.Query.Sampling
import Directory.Proofs.Query.Transparency
import Directory.Proofs.Filter.Nesting
import Directory.Proofs.Filter.Readings
import Directory.Proofs.Filter.Stability
import Directory.Proofs.Store.Counts
import Directory.Proofs.Store.Edges
import Directory.Proofs.Store.Loading
import Directory.Proofs.Store.Values
import Directory.Proofs.Query.Duality
import Directory.Proofs.Filter.Agreement
import Directory.Proofs.Store.Reloading
import Directory.Proofs.Filter.Renumbering
import Directory.Proofs.Query.Reloading
import Directory.Proofs.Query.Plan
import Directory.Proofs.Query.Session
import Directory.Proofs.Store.Contents
import Directory.Proofs.Command.Batch
import Directory.Proofs.Command.Isolation
import Directory.Proofs.Attribute.Shared
import Directory.Proofs.Filter.Asking
import Directory.Proofs.Filter.Chain
import Directory.Proofs.Query.Spelling
import Directory.Proofs.Query.Naming
import Directory.Proofs.Report.Log
import Directory.Proofs.Filter.LetterCase
import Directory.Proofs.Filter.Located
import Directory.Proofs.Filter.Counters
