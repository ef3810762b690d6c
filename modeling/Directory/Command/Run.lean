import Directory.Command.Arguments
import Directory.Command.Batch
import Directory.Command.Config
import Directory.Draws.Seeded
import Directory.Query.Explanation
import Directory.Regex.Standard
import Directory.Store.Loader
import Directory.Text.Lines

/-!
# Running commands

- `Command.Surroundings`: what a command has access to: files, an input and chance.
- `Command.run`: what a command puts out. Files and input are read in any monad, so that a run over
  given files is a pure function.
- `Command.openStore`: the configuration and the store that a command works with.
-/

namespace Directory.Command

open Log (Event)
open Text (unlines)

/-- What a command has access to. -/
structure Surroundings (m : Type → Type) where
  /-- The text of the file at a path, if there is one. -/
  file : String → m (Option String)
  /-- The bytes of the standard input. -/
  input : m (List UInt8)
  /-- The identifiers for entries that come without one. -/
  spares : Store.Spares
  /-- The draws if the configuration has no seed. -/
  chance : Draws

/-- A result or a failure, and the records up to there. -/
structure Logged (α : Type) where
  /-- The result, or why there is none. -/
  result : Except Failure α
  /-- The records for the log. -/
  log : List Log.Record

/-- The configuration of a file, given its text if there is such a file. -/
def loadConfig (text : Option String) : Logged Config :=
  match Config.read text with
  | .error fault => ⟨.error ⟨.config, fault.message⟩, []⟩
  | .ok c =>
    ⟨.ok c, [Event.configLoaded.record
      [("objects_path", c.objectsPath), ("indexed", ",".intercalate c.indexedAttributes)]]⟩

/-- The store of an object file, given its text if there is such a file. -/
def loadStore (c : Config) (spares : Store.Spares) (text : Option String) : Logged Store :=
  let loaded := match text with
    | some text => Store.load c.indexedAttributes spares text
    | none => .error .notFound
  match loaded with
  | .error e => ⟨.error ⟨.store, e.message⟩, []⟩
  | .ok s =>
    ⟨.ok s, [Event.storeLoaded.record
      [("objects", toString s.size),
       ("indexed", ",".intercalate (s.indexed.map s.registry.nameOf))]]⟩

/-- The draws for a run. -/
def drawsOf (c : Config) (chance : Draws) : Draws :=
  c.randomSeed.elim chance fun seed => Draws.ofSeed (UInt64.ofNat seed)

/-- The configuration at a path, and the store that it names. -/
def openStore {m : Type → Type} [Monad m] (w : Surroundings m) (path : String) :
    m (Logged (Config × Store)) := do
  let config := loadConfig (← w.file path)
  match config.result with
  | .error failure => return ⟨.error failure, config.log⟩
  | .ok c =>
    let store := loadStore c w.spares (← w.file c.objectsPath)
    return ⟨store.result.map (c, ·), config.log ++ store.log⟩

/-- What a command puts out if it fails before it has a store. -/
def failed (failure : Failure) (log : List Log.Record) : Outcome :=
  ⟨"", log, some failure⟩

/-- What a command puts out that answers filters. -/
def Transcript.outcome (log : List Log.Record) (t : Transcript) : Outcome :=
  ⟨unlines (t.lines.map Line.render), log ++ t.log, t.failure⟩

/-- What a command puts out that explains a filter. A rejected filter is no failure. -/
def explained [Regex.Properties] (log : List Log.Record) (s : Store) (text : String) : Outcome :=
  let reading := Filter.read s.registry text
  let (output, status) :=
    match reading.outcome with
    | .ok f => (Query.explain { s with registry := reading.registry } f, "ACCEPTED")
    | .error e => (Query.explainRejection e, "REJECTED")
  ⟨output, log ++ [Event.explainComplete.record [("status", status)]], none⟩

/-- What a command puts out, with all records for the log. -/
def runAction [Regex.Properties] {m : Type → Type} [Monad m] (w : Surroundings m) :
    Action → m Outcome
  | .methods =>
    return ⟨unlines (AttackMethod.all.map AttackMethod.name), [], none⟩
  | .explain path text => do
    let opened ← openStore w path
    match opened.result with
    | .error failure => return failed failure opened.log
    | .ok (_, s) => return explained opened.log s text
  | .query path text => do
    let opened ← openStore w path
    match opened.result with
    | .error failure => return failed failure opened.log
    | .ok (c, s) =>
      let session : Query.Session := { store := s, draws := drawsOf c w.chance }
      let transcript ← match text with
        | some text => pure (runOne c.maxResults session text)
        | none => do
          let input ← w.input
          pure (runAll c.maxResults session (inputTexts input))
      return transcript.outcome opened.log

/-- What a command puts out. The log tells of single queries only if it is to be verbose. -/
def run [Regex.Properties] {m : Type → Type} [Monad m] (w : Surroundings m) (i : Invocation) :
    m Outcome := do
  let outcome ← runAction w i.action
  let least : Log.Severity := if i.verbose then .trace else .info
  return { outcome with log := Log.enabled least outcome.log }

end Directory.Command
