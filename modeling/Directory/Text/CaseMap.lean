import Directory.Text.CodePoints

/-!
# Letter-case maps

A letter-case map sends code points to code points. Most letters of a script move by one distance,
so a map is kept as a table of runs.

- `CaseRun`: evenly spaced code points that move by one distance.
- `CaseMap`: a letter-case map, as runs in ascending order; code points outside every run stay.
- `CaseMap.apply`: where a code point goes.
- `CaseMap.inverse`: the way back.
- `CaseMap.closure`: all code points that go where one of a set goes.
-/

namespace Directory.Text

/-- The code points `first`, `first + step`, …, `last`, which all move by `shift`. -/
structure CaseRun where
  /-- The first code point of the run. -/
  first : Nat
  /-- The last code point of the run. -/
  last : Nat
  /-- The distance between neighbours in the run. -/
  step : Nat
  /-- How far each member moves. -/
  shift : Int

namespace CaseRun

/-- Whether `n` is a member of the run. -/
def covers (r : CaseRun) (n : Nat) : Bool :=
  r.first ≤ n && n ≤ r.last && (n - r.first) % r.step == 0

/-- Where the run sends its member `n`. -/
def image (r : CaseRun) (n : Nat) : Nat :=
  (n + r.shift).toNat

/-- The run that sends every image back. -/
def inverse (r : CaseRun) : CaseRun :=
  ⟨r.image r.first, r.image r.last, r.step, -r.shift⟩

/-- The members from `a` to `b`, in ascending order. -/
def membersIn (r : CaseRun) (a b : Nat) : List Nat :=
  let first := r.first + (a - r.first + r.step - 1) / r.step * r.step
  let last := min b r.last
  if last < first then []
  else (List.range ((last - first) / r.step + 1)).map fun i => first + i * r.step

/-- Where the run sends its members in a range. -/
def imagesIn (r : CaseRun) (range : Nat × Nat) : List (Nat × Nat) :=
  if r.step = 1 then
    let first := max range.1 r.first
    let last := min range.2 r.last
    if first ≤ last then [(r.image first, r.image last)] else []
  else (r.membersIn range.1 range.2).map fun n => (r.image n, r.image n)

/-- Where runs send their members in some ranges. Both are in ascending order. -/
def imagesOf : List CaseRun → List (Nat × Nat) → List (Nat × Nat)
  | [], _ => []
  | r :: runs, ranges =>
    let ranges := ranges.dropWhile fun (_, last) => last < r.first
    let within := ranges.takeWhile fun (first, _) => first ≤ r.last
    within.flatMap r.imagesIn ++ imagesOf runs ranges

end CaseRun

/-- A map of code points: runs in ascending order. Code points outside every run stay. -/
structure CaseMap where
  /-- The runs, ascending and apart. -/
  runs : List CaseRun

namespace CaseMap

/-- Where the map sends `n`. -/
def apply (m : CaseMap) (n : Nat) : Nat :=
  go m.runs
where
  /-- Looks through ascending runs and leaves `n` alone once they start above it. -/
  go : List CaseRun → Nat
    | [] => n
    | r :: rest => if n < r.first then n else if r.covers n then r.image n else go rest

/-- The runs that send the images back, in ascending order. -/
def inverse (m : CaseMap) : List CaseRun :=
  (m.runs.map CaseRun.inverse).mergeSort fun r s => r.first ≤ s.first

/-- The code points that the map sends where it sends a member of `s`. The map has to leave every
image where it is, and `inverse` has to be its inverse. -/
def closure (m : CaseMap) (inverse : List CaseRun) (s : CodePoints) : CodePoints :=
  let s := s.addRanges (CaseRun.imagesOf m.runs s.ranges)
  s.addRanges (CaseRun.imagesOf inverse s.ranges)

end CaseMap

end Directory.Text
