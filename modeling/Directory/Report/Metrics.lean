import Directory.Json.Writer

/-!
# Metrics

Counters of what was asked and what it cost. They have 64 bits and wrap around.

- `Metrics`: the counters. `Metrics.countParsed`, `Metrics.countRejected` and
  `Metrics.countExecution` advance them.
- `Metrics.written`: the counters as a JSON object.
-/

namespace Directory

/-- Counters of what was asked and what it cost. -/
structure Metrics where
  /-- The texts that are filters. -/
  queriesParsed : UInt64 := 0
  /-- The texts that are no filters. -/
  queriesRejected : UInt64 := 0
  /-- The queries that were answered. -/
  queriesExecuted : UInt64 := 0
  /-- Those of them for which an index selected the entries. -/
  indexDriven : UInt64 := 0
  /-- Those for which every entry was looked at. -/
  fullScans : UInt64 := 0
  /-- The entries looked at, over all queries. -/
  objectsExamined : UInt64 := 0
  /-- The entries that matched, over all queries. -/
  objectsMatched : UInt64 := 0
deriving DecidableEq, Repr

namespace Metrics

/-- One more text was a filter. -/
def countParsed (m : Metrics) : Metrics :=
  { m with queriesParsed := m.queriesParsed + 1 }

/-- One more text was no filter. -/
def countRejected (m : Metrics) : Metrics :=
  { m with queriesRejected := m.queriesRejected + 1 }

/-- One more query was answered. -/
def countExecution (m : Metrics) (isIndexDriven : Bool) (examined matched : UInt64) : Metrics :=
  { m with
    queriesExecuted := m.queriesExecuted + 1
    indexDriven := if isIndexDriven then m.indexDriven + 1 else m.indexDriven
    fullScans := if isIndexDriven then m.fullScans else m.fullScans + 1
    objectsExamined := m.objectsExamined + examined
    objectsMatched := m.objectsMatched + matched }

/-- The names and values of the counters. -/
def counters (m : Metrics) : List (String × UInt64) :=
  [("queries_parsed", m.queriesParsed), ("queries_rejected", m.queriesRejected),
   ("queries_executed", m.queriesExecuted), ("index_driven", m.indexDriven),
   ("full_scans", m.fullScans), ("objects_examined", m.objectsExamined),
   ("objects_matched", m.objectsMatched)]

/-- Counters as a JSON object. -/
def writeCounters (l : List (String × UInt64)) : String :=
  Json.writeRecord (l.map fun (name, n) => (name, Json.writeNat n.toNat))

/-- The counters as a JSON object, in their fixed order. -/
def written (m : Metrics) : String :=
  writeCounters m.counters

end Metrics

end Directory
