import Directory.Store.Basic

/-!
# Chains of names

The values of an attribute may be distinguished names of other entries, whose values lead further.

- `anyInOrder`: asks items one after the other until one answers yes, and threads a state through.
- `Store.chainLeads`: whether a chain of names that starts at an entry leads to a given name.
- `Store.chainLeadsFrom`: the same search in progress, with a table of the entries looked at.
-/

namespace Directory

open Text (lower)

/-- Whether an item answers yes. The items are asked from left to right until one does, each in the
state that the one before it leaves. -/
def anyInOrder {α σ : Type} (ask : α → σ → Bool × σ) : List α → σ → Bool × σ
  | [], t => (false, t)
  | x :: xs, t =>
    match ask x t with
    | (true, t) => (true, t)
    | (false, t) => anyInOrder ask xs t

/-- The entries looked at so far, each with the number of entries that the chain could still go
through there. Later looks stand before earlier ones. -/
abbrev Visits := List (Nat × Nat)

/-- Whether an entry was looked at with as many entries to go, or more. -/
def Visits.cover (v : Visits) (id remaining : Nat) : Bool :=
  (v.lookup id).any (remaining ≤ ·)

namespace Store

/-- The most entries that a chain goes through. -/
def chainDepth : Nat := 10

/-- Whether a chain through `a` leads from an entry to the name with the folded spelling `key`
within the given number of entries. A second look at an entry finds nothing new unless there are
more entries to go than before. -/
def chainLeadsFrom (s : Store) (a : Attribute) (key : String) :
    Nat → Nat × Entry → Visits → Bool × Visits
  | 0, _, v => (false, v)
  | remaining + 1, (id, e), v =>
    if v.cover id (remaining + 1) then (false, v)
    else
      let v := (id, remaining + 1) :: v
      let names := e.renderedOf a
      if names.any (lower · == key) then (true, v)
      else
        anyInOrder
          (fun name v =>
            match s.named? name with
            | some next => s.chainLeadsFrom a key remaining next v
            | none => (false, v))
          names v

/-- Whether a chain through `a` leads from an entry to a name, in any letter case. -/
def chainLeads (s : Store) (a : Attribute) (dn : String) (id : Nat) (e : Entry) : Bool :=
  (s.chainLeadsFrom a (lower dn) chainDepth (id, e) []).1

end Store

end Directory
