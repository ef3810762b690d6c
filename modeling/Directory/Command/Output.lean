import Directory.Entry
import Directory.Filter.Rejection
import Directory.Json.Writer
import Directory.Query.Execution
import Directory.Report.Log
import Directory.Report.Metrics

/-!
# What commands put out

- `Command.Line`: a line about an answer. `Command.Line.render` writes it as a JSON object whose
  members are sorted by name.
- `Command.Failure`: why a command fails.
- `Command.Outcome`: all that a command puts out.
-/

namespace Directory.Command

/-- The kinds of failure. -/
inductive FailureKind where
  /-- The configuration cannot be used. -/
  | config
  /-- The standard input cannot be read. -/
  | input
  /-- The object file cannot be loaded. -/
  | store
  /-- The text of a filter is rejected. -/
  | rejected
deriving DecidableEq, Repr

/-- The code of a kind of failure. -/
def FailureKind.code : FailureKind → String
  | config => "DQ_CLI_CONFIG_ERROR"
  | input => "DQ_CLI_IO_ERROR"
  | store => "DQ_CLI_STORE_ERROR"
  | rejected => "DQ_CLI_QUERY_REJECTED"

/-- Why a command fails. -/
structure Failure where
  /-- The kind. -/
  kind : FailureKind
  /-- The wording. -/
  message : String
deriving DecidableEq, Repr

/-- The failure of a rejected filter. -/
def Failure.ofRejection (e : Filter.Rejection) : Failure :=
  ⟨.rejected, e.report⟩

/-- What is said of an answer after its entries. -/
structure Summary where
  /-- The text of the filter. -/
  filter : String
  /-- The number of entries that match. -/
  matched : Nat
  /-- The number of those that are shown. -/
  returned : Nat
  /-- The name of the strategy. -/
  strategy : String
  /-- The number of entries that the filter was asked about. -/
  examined : Nat
deriving DecidableEq, Repr

/-- Whether fewer entries are shown than match. -/
def Summary.truncated (s : Summary) : Bool :=
  s.returned < s.matched

/-- A line about an answer. -/
inductive Line where
  /-- An entry that matches, with its number. -/
  | entry (id : Nat) (e : Entry)
  /-- The end of an answer. -/
  | summary (s : Summary)
  /-- A filter was rejected. -/
  | rejection (e : Filter.Rejection)
  /-- The end of all answers. -/
  | metrics (m : Metrics)
deriving DecidableEq

open Json (writeRecord writeText writeNat writeBool)

/-- The JSON object that reports success with some data. -/
def success (data : String) : String :=
  writeRecord [("data", data), ("status", writeText "ok")]

/-- An entry as a JSON object. -/
def writeEntry (id : Nat) (e : Entry) : String :=
  writeRecord
    [("dn", writeText e.dn), ("guid", writeText e.guid.render), ("id", writeNat id),
     ("sid", e.sid.elim "null" fun sid => writeText sid.text)]

/-- A summary as a JSON object. -/
def Summary.written (s : Summary) : String :=
  writeRecord
    [("examined", writeNat s.examined), ("filter", writeText s.filter),
     ("matched", writeNat s.matched), ("returned", writeNat s.returned),
     ("strategy", writeText s.strategy), ("truncated", writeBool s.truncated)]

/-- The counters as a JSON object, sorted by name. -/
def sortedMetrics (m : Metrics) : String :=
  Metrics.writeCounters (m.counters.mergeSort fun a b => a.1 ≤ b.1)

/-- The text of a line. -/
def Line.render : Line → String
  | entry id e => writeEntry id e
  | summary s => success s.written
  | rejection e =>
    writeRecord
      [("code", writeText FailureKind.rejected.code), ("message", writeText e.report),
       ("status", writeText "error")]
  | metrics m => success (writeRecord [("metrics", sortedMetrics m)])

/-- All that a command puts out. -/
structure Outcome where
  /-- The text for the standard output. -/
  output : String
  /-- The records for the log. -/
  log : List Log.Record
  /-- Why the command fails, if it does. -/
  failure : Option Failure := none
deriving DecidableEq, Repr

end Directory.Command
