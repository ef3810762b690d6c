import Directory.Filter.Basic
import Directory.Store.Basic

/-!
# Plans

An equality on an indexed attribute can drive a query if every match must satisfy it: it is the
whole filter or a direct member of the conjunction that is the whole filter. The index then yields
the only entries that have to be looked at.

- `Query.Candidate`: an equality that might drive.
- `Query.Plan`: the candidates and which of them drives. `Query.plan` makes one.
- `Query.Plan.isDirect`: the index yields the very answer.
-/

namespace Directory.Query

open Text (lower)

/-- An equality that might drive a query. -/
structure Candidate where
  /-- The attribute. -/
  a : Attribute
  /-- The folded text. -/
  key : String
  /-- The number of entries under the key, zero if the attribute has no index. -/
  size : Nat
  /-- The attribute has an index. -/
  indexed : Bool
  /-- The equality ignores letter case, so it holds of all entries under the key. -/
  caseInsensitive : Bool
deriving DecidableEq, Repr

/-- Why a plan has the driver that it has, or none. -/
inductive Reason where
  /-- There are no candidates. -/
  | noCandidates
  /-- A limit makes the answer depend on which entries are looked at. -/
  | orderDependent
  /-- No index has entries under a candidate's key. -/
  | noIndexHits
  /-- A candidate drives. -/
  | indexDriven
deriving DecidableEq, Repr

/-- The wording of a reason. -/
def Reason.text : Reason → String
  | noCandidates => "no equality predicate at the root"
  | orderDependent => "filter contains _limit; result depends on scan order"
  | noIndexHits => "no candidate has index entries"
  | indexDriven => "smallest non-empty candidate drives"

/-- How a query will be answered. -/
structure Plan where
  /-- The candidates, those with fewer entries first. -/
  candidates : List Candidate
  /-- The position of the candidate that drives. -/
  driver : Option Nat
  /-- The filter is not a conjunction, so a candidate is the whole filter. -/
  bare : Bool
  /-- Why. -/
  reason : Reason
deriving DecidableEq, Repr

namespace Plan

/-- The candidate that drives. -/
def driving (p : Plan) : Option Candidate :=
  p.driver.bind (p.candidates[·]?)

/-- Whether the entries under the driver's key are the answer. -/
def isDirect (p : Plan) : Bool :=
  p.bare && p.driving.any (·.caseInsensitive)

end Plan

/-- The conditions that every match satisfies, and whether the condition stands alone. -/
def conjuncts : Filter.Node → List Filter.Node × Bool
  | .all cs => (cs, false)
  | n => ([n], true)

/-- Whether a condition is an equality that ignores letter case. -/
def ignoresCase : Filter.Node → Bool
  | .equalsFolded _ _ => true
  | _ => false

/-- The candidate that a condition is, if it is an equality. -/
def candidate? (s : Store) (n : Filter.Node) : Option Candidate :=
  n.exactMatch?.map fun (a, text) =>
    let key := lower text
    { a, key
      size := (s.index? a).elim 0 (·.cardinality key)
      indexed := (s.index? a).isSome
      caseInsensitive := ignoresCase n }

/-- The candidates of a filter, those with fewer entries first and otherwise as in the filter. -/
def candidates (s : Store) (f : Filter) : List Candidate :=
  ((conjuncts f.root).1.filterMap (candidate? s)).mergeSort fun c d => c.size ≤ d.size

/-- The plan of a filter. -/
def plan (s : Store) (f : Filter) : Plan :=
  let cs := candidates s f
  let (driver, reason) :=
    if cs.isEmpty then (none, .noCandidates)
    else if f.isOrderDependent then (none, .orderDependent)
    else match cs.findIdx? fun c => c.indexed && 0 < c.size with
      | some i => (some i, .indexDriven)
      | none => (none, Reason.noIndexHits)
  { candidates := cs, driver, bare := (conjuncts f.root).2, reason }

end Directory.Query
