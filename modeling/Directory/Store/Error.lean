/-!
# Why a store cannot be built

- `Store.Error`: the causes. `Store.Error.message` words them.
-/

namespace Directory

/-- Why a store cannot be built or loaded. -/
inductive Store.Error where
  /-- Two entries have distinguished names that differ at most in letter case. -/
  | duplicateName (dn : String)
  /-- An edge mentions a number that no entry has. -/
  | unknownEntry (id : Nat)
  /-- An edge leads to a distinguished name that no entry has. -/
  | unknownTarget (dn target : String)
  /-- An edge names a method that does not exist. -/
  | unknownMethod (dn method : String)
  /-- A text is no globally unique identifier. -/
  | invalidGuid (text : String)
  /-- The text is no object file. -/
  | malformed
  /-- There is no such file. -/
  | notFound
deriving DecidableEq, Repr

/-- The wording of a missing file. -/
def fileNotFound : String := "No such file or directory (os error 2)"

/-- The wording of an attack method that does not exist. -/
def unknownMethodMessage (method : String) : String :=
  "Unknown attack method: " ++ method

/-- The wording of an error. -/
def Store.Error.message : Store.Error → String
  | duplicateName dn => "Duplicate distinguished name: " ++ dn
  | unknownEntry id => "Unknown object id: " ++ toString id
  | unknownTarget dn target =>
    "Edge from '" ++ dn ++ "' targets unknown object '" ++ target ++ "'"
  | unknownMethod dn method => "Object '" ++ dn ++ "': " ++ unknownMethodMessage method
  | invalidGuid text => "Invalid GUID '" ++ text ++ "'"
  | malformed => "Invalid object file"
  | notFound => "I/O error: " ++ fileNotFound

end Directory
