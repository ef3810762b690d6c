import Directory.Entry
import Directory.Json.Fields
import Directory.Json.Reader

/-!
# Object files

An object file is a JSON document that lists the entries of a directory with their values and the
edges that start at them.

- `Document`: the contents of an object file. `Document.read?` reads its text.
- `Document.Record`: one entry, `Document.EdgeRecord`: one edge, both as the file spells them.
-/

namespace Directory

/-- An edge of an object file. The entry that lists it is its source. -/
structure Document.EdgeRecord where
  /-- The distinguished name of the entry that can be taken over. -/
  target : String
  /-- The name of the method. -/
  method : String
deriving DecidableEq, Repr

/-- An entry of an object file. -/
structure Document.Record where
  /-- The distinguished name. -/
  dn : String
  /-- The text of the globally unique identifier, if there is one. -/
  guid : Option String
  /-- The security identifier. A null value is that of nobody. -/
  sid : Option Sid
  /-- The values by attribute name, each name once, in the order of the names' characters. -/
  attributes : List (String × List Value)
  /-- The edges that start here. -/
  edges : List Document.EdgeRecord
deriving DecidableEq

/-- The contents of an object file. -/
structure Document where
  /-- The entries, in the order of the file. -/
  records : List Document.Record
deriving DecidableEq

namespace Document

/-- A value: a string or an integer. -/
def value? : Json → Option Value
  | .text t => t.map .text
  | j => j.asInt?.map .int

/-- The values of an attribute: one, or an array of them. -/
def values? : Json → Option (List Value)
  | .list items => items.mapM value?
  | j => (value? j).map ([·])

/-- Puts the values of a name into a list ordered by name, where they replace earlier ones. -/
def putValues (name : String) (values : List Value) :
    List (String × List Value) → List (String × List Value)
  | [] => [(name, values)]
  | (n, vs) :: rest =>
    if name < n then (name, values) :: (n, vs) :: rest
    else if name = n then (name, values) :: rest
    else (n, vs) :: putValues name values rest

/-- The values of all attributes. Of a repeated name the last values count. -/
def attributes? : Json → Option (List (String × List Value))
  | .record members => do
    let pairs ← members.mapM fun (name, j) => do some (← name, ← values? j)
    some (pairs.foldl (fun l (name, values) => putValues name values l) [])
  | _ => none

/-- The security identifier of a field that is there: its text, or that of nobody if it is null. -/
def sid? : Json → Option (Option Sid)
  | .null => some (some Sid.null)
  | j => j.asText?.map fun t => some ⟨t⟩

/-- An edge. -/
def edge? (j : Json) : Option EdgeRecord := do
  match ← j.fields? ["target", "method"] with
  | [some target, some method] => some ⟨← target.asText?, ← method.asText?⟩
  | _ => none

/-- An entry. Only its distinguished name is required. -/
def record? (j : Json) : Option Record := do
  match ← j.fields? ["dn", "guid", "sid", "attributes", "can_pwn"] with
  | [some dn, guid, sid, attributes, edges] =>
    some {
      dn := ← dn.asText?
      guid := ← Json.optional? Json.asText? guid
      sid := ← Json.orElse? none sid? sid
      attributes := ← Json.orElse? [] attributes? attributes
      edges := ← Json.orElse? [] (fun j => j.asList?.bind (·.mapM edge?)) edges }
  | _ => none

/-- The contents that a JSON value describes. -/
def ofJson? (j : Json) : Option Document := do
  match ← j.fields? ["objects"] with
  | [some objects] => some ⟨← (← objects.asList?).mapM record?⟩
  | _ => none

/-- The contents of an object file with the given text. -/
def read? (s : String) : Option Document :=
  (Json.read? s).bind ofJson?

end Document

end Directory
