import Directory.Filter.Evaluation
import Directory.Query.Plan
import Directory.Text.Quoted

/-!
# Answering queries

- `Query.scan`: the answer of a filter, found by asking it about every entry.
- `Query.execute`: the answer found by the filter's plan, with how it was found.
- `Query.Strategy`: the ways of finding an answer.
-/

namespace Directory

/-- The entries of a store with their numbers, in ascending order. -/
def Store.numbered (s : Store) : List (Nat × Entry) :=
  s.entries.zipIdx.map fun (e, id) => (id, e)

@[simp]
theorem Store.length_numbered (s : Store) : s.numbered.length = s.size := by
  rw [numbered, List.length_map, List.length_zipIdx, size]

namespace Query

open Text (quoted)

/-- How an answer is found. -/
inductive Strategy where
  /-- Every entry is asked about. -/
  | fullScan
  /-- The entries under a key are the answer. -/
  | indexDirect (a : Attribute) (key : String)
  /-- The entries under a key, of which there are so many, are asked about. -/
  | indexVerified (a : Attribute) (key : String) (candidates : Nat)
deriving DecidableEq, Repr

namespace Strategy

/-- The name of a strategy. -/
def name : Strategy → String
  | fullScan => "FULL_SCAN"
  | indexDirect _ _ => "INDEX_DIRECT"
  | indexVerified _ _ _ => "INDEX_VERIFIED"

/-- Whether an index selects the entries. -/
def isIndexDriven : Strategy → Bool
  | fullScan => false
  | _ => true

/-- The key under which the index is looked up. -/
def key? : Strategy → Option String
  | fullScan => none
  | indexDirect _ key | indexVerified _ key _ => some key

/-- The number of entries that the index selects for further questions. -/
def selected? : Strategy → Option Nat
  | indexVerified _ _ candidates => some candidates
  | _ => none

/-- A strategy in words. -/
def describe (r : Registry) (s : Strategy) : String :=
  match s with
  | fullScan => s.name
  | indexDirect a key => s.name ++ " " ++ r.nameOf a ++ "=" ++ quoted key
  | indexVerified a key candidates =>
    s.name ++ " " ++ r.nameOf a ++ "=" ++ quoted key ++ " (" ++ toString candidates
      ++ " candidates)"

end Strategy

/-- The numbers of those among some entries that match. They are asked about in order. -/
def select (s : Store) (f : Filter) : List (Nat × Entry) → Filter.Memory → List Nat × Filter.Memory
  | [], m => ([], m)
  | (id, e) :: rest, m =>
    let (yes, m) := f.ask s id e m
    let (ids, m) := select s f rest m
    (if yes then id :: ids else ids, m)

/-- The numbers of all entries that match, and the draws that are left. -/
def scan (s : Store) (f : Filter) (draws : Draws) : List Nat × Draws :=
  let (ids, m) := select s f s.numbered (f.start draws)
  (ids, m.draws)

/-- An answer, and how it was found. -/
structure Result where
  /-- The numbers of the entries that match, ascending. -/
  matched : List Nat
  /-- How they were found. -/
  strategy : Strategy
  /-- The number of entries that the filter was asked about. -/
  examined : Nat
deriving DecidableEq, Repr

/-- The numbers of the entries under a candidate's key. -/
def driven (s : Store) (c : Candidate) : IdSet :=
  ((s.index? c.a).bind (·.find? c.key)).getD {}

/-- The entries with the given numbers. -/
def located (s : Store) (ids : IdSet) : List (Nat × Entry) :=
  ids.ids.filterMap fun id => (s.entry? id).map (id, ·)

/-- Answers a filter as its plan says, and returns the draws that are left. -/
def execute (s : Store) (f : Filter) (draws : Draws) : Result × Draws :=
  let p := plan s f
  match p.driving with
  | none =>
    let entries := s.numbered
    let (matched, m) := select s f entries (f.start draws)
    (⟨matched, .fullScan, entries.length⟩, m.draws)
  | some c =>
    let ids := driven s c
    if p.isDirect then (⟨ids.ids, .indexDirect c.a c.key, 0⟩, draws)
    else
      let entries := located s ids
      let (matched, m) := select s f entries (f.start draws)
      (⟨matched, .indexVerified c.a c.key ids.size, entries.length⟩, m.draws)

end Query

end Directory
