import Directory.Filter.Reader
import Directory.Query.Execution
import Directory.Report.Metrics

/-!
# Sessions

A session answers one query after the other against one store, with one stream of draws and one set
of metrics.

- `Query.Session`: a store in use. `Query.Session.read` and `Query.Session.answer` are the two steps
  of a query.
-/

namespace Directory.Query

/-- A store in use. -/
structure Session where
  /-- The store. Its registry grows as filters are read. -/
  store : Store
  /-- The draws that are left. -/
  draws : Draws
  /-- What was asked so far. -/
  metrics : Metrics := {}

namespace Session

/-- The session with attributes learnt from a text. -/
def withRegistry (s : Session) (r : Registry) : Session :=
  { s with store := { s.store with registry := r } }

/-- Reads a filter. The session learns its attributes, also if the text is rejected. -/
def read [Regex.Properties] (s : Session) (text : String) :
    Except Filter.Rejection Filter × Session :=
  let reading := Filter.read s.store.registry text
  let s := s.withRegistry reading.registry
  match reading.outcome with
  | .ok f => (.ok f, { s with metrics := s.metrics.countParsed })
  | .error e => (.error e, { s with metrics := s.metrics.countRejected })

/-- Answers a filter. -/
def answer (s : Session) (f : Filter) : Result × Session :=
  let (result, draws) := execute s.store f s.draws
  let metrics := s.metrics.countExecution result.strategy.isIndexDriven
    (UInt64.ofNat result.examined) (UInt64.ofNat result.matched.length)
  (result, { s with draws, metrics })

end Session

end Directory.Query
