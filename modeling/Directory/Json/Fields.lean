import Directory.Json.Basic
import Directory.Decimal

/-!
# Records with known fields

A record may be an object, with members in any order and others beside them, or an array of its
fields in their fixed order.

- `Json.fields?`: the values of the known fields.
- `Json.asText?`, `Json.asInt?`, `Json.asNat?`, `Json.asList?`: values of one kind.
-/

namespace Directory.Json

/-- How often a name occurs among the members of an object. -/
def occurrences (name : String) (members : List (Option String × Json)) : Nat :=
  members.countP (·.1 == some name)

/-- The values of the named fields, `none` for those that are missing. An object may hold each of
them once, and all its member names must denote texts. An array may not be longer than the list of
names. -/
def fields? (names : List String) : Json → Option (List (Option Json))
  | record members =>
    if members.all (·.1.isSome) && names.all (occurrences · members ≤ 1) then
      some (names.map fun name => members.lookup (some name))
    else none
  | list items =>
    if items.length ≤ names.length then
      some ((List.range names.length).map fun i => items[i]?)
    else none
  | _ => none

/-- The text of a string literal. -/
def asText? : Json → Option String
  | text t => t
  | _ => none

/-- The integer of a number, if it has at most 64 bits. -/
def asInt? : Json → Option Int64
  | number (.integer n) => Decimal.ofInt? n
  | _ => none

/-- The number of a number that is not negative and has at most 64 bits. -/
def asNat? : Json → Option Nat
  | number (.integer n) => if 0 ≤ n ∧ n < UInt64.size then some n.toNat else none
  | _ => none

/-- The items of an array. -/
def asList? : Json → Option (List Json)
  | list items => some items
  | _ => none

/-- The value of a field that may be missing or null. -/
def optional? {α : Type} (read : Json → Option α) : Option Json → Option (Option α)
  | none | some null => some none
  | some j => (read j).map some

/-- The value of a field that may be missing but not null. -/
def orElse? {α : Type} (default : α) (read : Json → Option α) : Option Json → Option α
  | none => some default
  | some j => read j

end Directory.Json
