import Directory.Json.Fields
import Directory.Json.Reader
import Directory.Store.Error
import Directory.Text.Blank

/-!
# Configuration files

- `Config`: where the object file is, and how it is queried.
- `Config.read`: the configuration that a file holds.
- `Config.Fault`: why a file holds none. `Config.Fault.message` words it.
-/

namespace Directory

/-- Where the object file is, and how it is queried. -/
structure Config where
  /-- The path of the object file. -/
  objectsPath : String
  /-- The attributes that get an index, besides those that always have one. -/
  indexedAttributes : List String
  /-- The seed of the random draws, if they are to be the same every time. -/
  randomSeed : Option Nat
  /-- The most entries shown for a filter. -/
  maxResults : Option Nat
deriving DecidableEq, Repr

/-- Why a file holds no configuration. -/
inductive Config.Fault where
  /-- There is no such file. -/
  | notFound
  /-- The text is not that of a configuration. -/
  | malformed
  /-- The path of the object file is blank. -/
  | blankPath
  /-- The name of an attribute is blank. -/
  | blankName (name : String)
  /-- No entries are to be shown. -/
  | zeroResults
deriving DecidableEq, Repr

/-- The wording of a fault. -/
def Config.Fault.message : Config.Fault → String
  | notFound => "Failed to read config: " ++ fileNotFound
  | malformed => "Invalid config JSON"
  | blankPath => "objects_path must not be empty"
  | blankName name => "Invalid indexed attribute name: '" ++ name ++ "'"
  | zeroResults => "max_results must be > 0"

namespace Config

/-- The attributes that get an index if the configuration names none. -/
def defaultIndexed : List String :=
  ["distinguishedName", "name", "sAMAccountName", "objectGUID", "objectSid", "cn"]

/-- The names of the fields, in their fixed order. -/
def fieldNames : List String :=
  ["objects_path", "indexed_attributes", "random_seed", "max_results"]

/-- A list of texts. -/
def texts? (j : Json) : Option (List String) :=
  j.asList?.bind (·.mapM Json.asText?)

/-- The configuration that a JSON value describes. -/
def ofJson? (j : Json) : Option Config := do
  match ← j.fields? fieldNames with
  | [some path, indexed, seed, results] =>
    some {
      objectsPath := ← path.asText?
      indexedAttributes := ← Json.orElse? defaultIndexed texts? indexed
      randomSeed := ← Json.optional? Json.asNat? seed
      maxResults := ← Json.optional? Json.asNat? results }
  | _ => none

/-- Whether a text has no visible characters. -/
def isBlankText (s : String) : Bool :=
  s.toList.all Text.isBlank

/-- What is wrong with the contents of a configuration. -/
def fault? (c : Config) : Option Fault :=
  if isBlankText c.objectsPath then some .blankPath
  else
    match c.indexedAttributes.find? isBlankText with
    | some name => some (.blankName name)
    | none => if c.maxResults = some 0 then some .zeroResults else none

/-- The configuration of a file, given its text if there is such a file. -/
def read : Option String → Except Fault Config
  | none => .error .notFound
  | some text =>
    match (Json.read? text).bind ofJson? with
    | none => .error .malformed
    | some c =>
      match c.fault? with
      | some fault => .error fault
      | none => .ok c

end Config

end Directory
