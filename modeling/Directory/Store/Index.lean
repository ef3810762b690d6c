import Directory.Text.Lower

/-!
# Indexes of attribute values

- `IdSet`: a set of entry numbers, kept in ascending order.
- `Index`: for each value, folded to lower case, the set of entries that have it.
-/

namespace Directory

open Text (lower)

/-- A set of entry numbers. -/
structure IdSet where
  /-- The members, ascending. -/
  ids : List Nat := []
deriving DecidableEq, Repr

namespace IdSet

/-- Puts a number into an ascending list, where it stands only once. -/
def insertInto (id : Nat) : List Nat → List Nat
  | [] => [id]
  | x :: xs => if id < x then id :: x :: xs else if id = x then x :: xs else x :: insertInto id xs

/-- The set with one more member. -/
def insert (s : IdSet) (id : Nat) : IdSet :=
  ⟨insertInto id s.ids⟩

/-- Whether the number is a member. -/
def contains (s : IdSet) (id : Nat) : Bool :=
  s.ids.contains id

/-- The number of members. -/
def size (s : IdSet) : Nat :=
  s.ids.length

end IdSet

/-- The entries that have a value, by value. -/
structure Index where
  /-- The folded values, each once, with the set of their entries. -/
  keys : List (String × IdSet) := []
deriving DecidableEq, Repr

namespace Index

/-- Enters a number under a key, which is added if it is new. -/
def insertUnder (key : String) (id : Nat) : List (String × IdSet) → List (String × IdSet)
  | [] => [(key, IdSet.insert {} id)]
  | (k, s) :: rest =>
    if k = key then (k, s.insert id) :: rest else (k, s) :: insertUnder key id rest

/-- The index with one more value of an entry. -/
def insert (x : Index) (value : String) (id : Nat) : Index :=
  ⟨insertUnder (lower value) id x.keys⟩

/-- The entries that have a value, in any letter case, or `none` if there are none. -/
def find? (x : Index) (value : String) : Option IdSet :=
  x.keys.lookup (lower value)

/-- The number of entries that have a value, in any letter case. -/
def cardinality (x : Index) (value : String) : Nat :=
  match x.find? value with
  | some s => s.size
  | none => 0

/-- The number of different folded values. -/
def keyCount (x : Index) : Nat :=
  x.keys.length

/-- The number of different pairs of a folded value and an entry. -/
def entryCount (x : Index) : Nat :=
  x.keys.foldr (fun k n => k.2.size + n) 0

end Index

end Directory
