/-!
# The log

A record of the log is one line, which is a JSON object with the event and the severity first and
the fields after them, sorted by key.

- `Log.Severity`, `Log.Event`: what is recorded.
- `Log.Record`: an event with its fields. `Log.Record.line` writes it.
-/

namespace Directory.Log

/-- How grave a record is. -/
inductive Severity where
  | trace
  | info
  | warn
  | error
  | fatal
deriving DecidableEq, Repr

namespace Severity

/-- All severities, ascending. -/
def all : List Severity :=
  [trace, info, warn, error, fatal]

/-- The place in the order of severities. -/
def rank : Severity → Nat
  | trace => 0
  | info => 1
  | warn => 2
  | error => 3
  | fatal => 4

/-- The name of a severity. -/
def name : Severity → String
  | trace => "TRACE"
  | info => "INFO"
  | warn => "WARN"
  | error => "ERROR"
  | fatal => "FATAL"

/-- Whether records of this severity are written if `least` is the least severity written. -/
def isEnabled (least s : Severity) : Bool :=
  least.rank ≤ s.rank

end Severity

/-- What can happen. -/
inductive Event where
  /-- The configuration was read. -/
  | configLoaded
  /-- The object file was loaded. -/
  | storeLoaded
  /-- The text of a filter arrived. -/
  | queryReceived
  /-- The text is a filter. -/
  | queryParsed
  /-- The text is no filter. -/
  | queryRejected
  /-- The query was planned. -/
  | queryPlanned
  /-- The query was answered. -/
  | queryExecuted
  /-- An explanation was written. -/
  | explainComplete
deriving DecidableEq, Repr

namespace Event

/-- All events. -/
def all : List Event :=
  [configLoaded, storeLoaded, queryReceived, queryParsed, queryRejected, queryPlanned,
   queryExecuted, explainComplete]

/-- The name of an event. -/
def name : Event → String
  | configLoaded => "CONFIG_LOADED"
  | storeLoaded => "STORE_LOADED"
  | queryReceived => "QUERY_RECEIVED"
  | queryParsed => "QUERY_PARSED"
  | queryRejected => "QUERY_REJECTED"
  | queryPlanned => "QUERY_PLANNED"
  | queryExecuted => "QUERY_EXECUTED"
  | explainComplete => "EXPLAIN_COMPLETE"

/-- The severity of an event. What concerns a single accepted query is of the lowest. -/
def severity : Event → Severity
  | configLoaded | storeLoaded | explainComplete => .info
  | queryRejected => .warn
  | queryReceived | queryParsed | queryPlanned | queryExecuted => .trace

end Event

/-- A record of the log. -/
structure Record where
  /-- How grave it is. -/
  severity : Severity
  /-- What happened. -/
  event : String
  /-- Further particulars by key. -/
  fields : List (String × String)
deriving DecidableEq, Repr

/-- The record of an event. -/
def Event.record (e : Event) (fields : List (String × String)) : Record :=
  ⟨e.severity, e.name, fields⟩

/-- Whether a character is one of the controls, of which there are 65. -/
def isControl (c : Char) : Bool :=
  c.toNat < 0x20 || (0x7f ≤ c.toNat && c.toNat < 0xa0)

/-- A control character as an escape of four digits. -/
def controlEscape (c : Char) : List Char :=
  ['\\', 'u', '0', '0', Nat.digitChar (c.toNat / 16), Nat.digitChar (c.toNat % 16)]

/-- One character of a string literal. -/
def writeChar (c : Char) : List Char :=
  match c with
  | '"' => ['\\', '"']
  | '\\' => ['\\', '\\']
  | '\n' => ['\\', 'n']
  | '\r' => ['\\', 'r']
  | '\t' => ['\\', 't']
  | c => if isControl c then controlEscape c else [c]

/-- A string literal. -/
def writeText (s : String) : List Char :=
  '"' :: s.toList.flatMap writeChar ++ ['"']

/-- A member of an object. -/
def writeMember (member : String × String) : List Char :=
  writeText member.1 ++ ':' :: writeText member.2

namespace Record

/-- The members of the object that a record is written as. -/
def members (r : Record) : List (String × String) :=
  ("event", r.event) :: ("severity", r.severity.name)
    :: r.fields.mergeSort fun f g => f.1 ≤ g.1

/-- The line of a record, without the line feed that ends it. -/
def line (r : Record) : List Char :=
  '\x7b' :: [','].intercalate (r.members.map writeMember) ++ ['\x7d']

/-- What a record puts into the log. -/
def written (r : Record) : String :=
  String.ofList (r.line ++ ['\n'])

end Record

/-- The records that are written if `least` is the least severity written. -/
def enabled (least : Severity) (log : List Record) : List Record :=
  log.filter fun r => least.isEnabled r.severity

end Directory.Log
