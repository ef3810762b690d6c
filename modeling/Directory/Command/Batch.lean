import Directory.Command.Output
import Directory.Filter.Printer
import Directory.Query.Session

/-!
# Batches of filters

- `Command.reply`: what is said of one filter.
- `Command.runOne`: a single filter, whose rejection is a failure.
- `Command.runAll`: one filter after the other, where rejections are reported between the answers.
- `Command.inputTexts`: the filters on the lines of an input.
-/

namespace Directory.Command

open Log (Event)
open Query (Session)

/-- What is said of a filter: lines, unless it is rejected, and records for the log. -/
structure Reply where
  /-- The lines, or why the filter is rejected. -/
  lines : Except Filter.Rejection (List Line)
  /-- The records for the log. -/
  log : List Log.Record

/-- The entries with the given numbers, at most `cap` of them. -/
def shown (cap : Option Nat) (s : Store) (ids : List Nat) : List Line :=
  (cap.elim ids (ids.take ·)).filterMap fun id => (s.entry? id).map (.entry id)

/-- The lines of an answer: the entries shown, and a summary. -/
def answerLines (cap : Option Nat) (s : Store) (text : String) (result : Query.Result) :
    List Line :=
  let entries := shown cap s result.matched
  entries ++ [.summary {
    filter := text
    matched := result.matched.length
    returned := entries.length
    strategy := result.strategy.name
    examined := result.examined }]

/-- The record of a text that arrived. -/
def receivedRecord (text : String) : Log.Record :=
  Event.queryReceived.record [("filter", text)]

/-- The record of a rejected text. -/
def rejectedRecord (text : String) (e : Filter.Rejection) : Log.Record :=
  Event.queryRejected.record [("code", e.fault.code), ("filter", text)]

/-- The records of a filter that is read, planned and answered. -/
def answerRecords (s : Store) (f : Filter) (result : Query.Result) : List Log.Record :=
  let plan := Query.plan s f
  [Event.queryParsed.record [("canonical", f.render s.registry), ("root", f.root.kind)],
   Event.queryPlanned.record
     [("candidates", toString plan.candidates.length), ("reason", plan.reason.text)],
   Event.queryExecuted.record
     [("examined", toString result.examined), ("matched", toString result.matched.length),
      ("strategy", result.strategy.name)]]

/-- What is said of a text, and the session after it. -/
def reply [Regex.Properties] (cap : Option Nat) (s : Session) (text : String) : Reply × Session :=
  match s.read text with
  | (.error e, s) => (⟨.error e, [receivedRecord text, rejectedRecord text e]⟩, s)
  | (.ok f, s) =>
    let (result, after) := s.answer f
    (⟨.ok (answerLines cap s.store text result),
      receivedRecord text :: answerRecords s.store f result⟩, after)

/-- What comes of some filters. -/
structure Transcript where
  /-- The lines for the standard output. -/
  lines : List Line
  /-- The records for the log. -/
  log : List Log.Record
  /-- Why the run stops early, if it does. -/
  failure : Option Failure := none
deriving DecidableEq

/-- A single filter. -/
def runOne [Regex.Properties] (cap : Option Nat) (s : Session) (text : String) : Transcript :=
  let r := (reply cap s text).1
  match r.lines with
  | .ok lines => ⟨lines, r.log, none⟩
  | .error e => ⟨[], r.log, some (.ofRejection e)⟩

/-- The lines of a reply among others. -/
def Reply.block (r : Reply) : List Line :=
  match r.lines with
  | .ok lines => lines
  | .error e => [.rejection e]

/-- One filter after the other, and then the metrics. A text that could not be read ends the run. -/
def runAll [Regex.Properties] (cap : Option Nat) (s : Session) :
    List (Except Failure String) → Transcript
  | [] => ⟨[.metrics s.metrics], [], none⟩
  | .error failure :: _ => ⟨[], [], some failure⟩
  | .ok text :: rest =>
    let (r, s) := reply cap s text
    let t := runAll cap s rest
    ⟨r.block ++ t.lines, r.log ++ t.log, t.failure⟩

/-! ## Input -/

/-- The lines of an input. A line feed at the very end does not begin another line. -/
def splitLines : List UInt8 → List (List UInt8)
  | [] => []
  | b :: bytes =>
    if b = 10 then [] :: splitLines bytes
    else
      match splitLines bytes with
      | [] => [[b]]
      | line :: lines => (b :: line) :: lines

/-- The failure of an input that is no text. -/
def notText : Failure :=
  ⟨.input, "stream did not contain valid UTF-8"⟩

/-- The filter on a line, if the line is not blank. -/
def lineText? (bytes : List UInt8) : Option (Except Failure String) :=
  match String.fromUTF8? ⟨bytes.toArray⟩ with
  | none => some (.error notText)
  | some line =>
    let text := Text.trim line
    if text.isEmpty then none else some (.ok text)

/-- The filters on the lines of an input. -/
def inputTexts (input : List UInt8) : List (Except Failure String) :=
  (splitLines input).filterMap lineText?

end Directory.Command
