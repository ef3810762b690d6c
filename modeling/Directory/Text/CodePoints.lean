/-!
# Sets of code points

Character classes beyond ASCII are data of the Unicode standard. A set is kept as closed ranges in
ascending order, so a look-up stops at the first range that starts too high, and an ASCII character
is settled by the first few ranges.

- `CodePoints`: a set of code points.
- `CodePoints.contains`: membership.
- `CodePoints.ofRanges`: the set of ranges in any order, which may overlap.
- `CodePoints.union`, `CodePoints.inter`, `CodePoints.diff`, `CodePoints.symmDiff`,
  `CodePoints.complement`: the operations on sets.
-/

namespace Directory.Text

/-- A set of code points: closed ranges, ascending and apart. -/
structure CodePoints where
  /-- The ranges, each as its first and last member. -/
  ranges : List (Nat × Nat)
deriving DecidableEq, Repr

namespace CodePoints

/-- Whether the code point `n` lies in one of the ranges. -/
def contains (s : CodePoints) (n : Nat) : Bool :=
  go s.ranges
where
  /-- Looks through ascending ranges and gives up once they start above `n`. -/
  go : List (Nat × Nat) → Bool
    | [] => false
    | (first, last) :: rest =>
      if n < first then false else if n ≤ last then true else go rest

/-- The greatest code point. -/
def greatest : Nat := 0x10FFFF

/-- The set of one character. -/
def single (c : Char) : CodePoints :=
  ⟨[(c.toNat, c.toNat)]⟩

/-! ## Normal form -/

/-- Adds a range to ranges, last first, none of which starts later. Touching ranges become one. -/
def absorb (merged : List (Nat × Nat)) (r : Nat × Nat) : List (Nat × Nat) :=
  match merged with
  | [] => [r]
  | (first, last) :: rest =>
    if r.1 ≤ last + 1 then (first, max last r.2) :: rest else r :: merged

/-- The set of the members of all ranges. -/
def ofRanges (l : List (Nat × Nat)) : CodePoints :=
  ⟨((l.mergeSort fun r s => r.1 ≤ s.1).foldl absorb []).reverse⟩

/-! ## Operations -/

/-- The code point after that of a character. The surrogates are passed over. -/
def next (n : Nat) : Nat :=
  if n = 0xD7FF then 0xE000 else n + 1

/-- The code point before that of a character. The surrogates are passed over. -/
def previous (n : Nat) : Nat :=
  if n = 0xE000 then 0xD7FF else n - 1

/-- The code points of a set and of further ranges, which may be in any order. -/
def addRanges (s : CodePoints) (l : List (Nat × Nat)) : CodePoints :=
  if l.isEmpty then s else ofRanges (l ++ s.ranges)

/-- The code points of either set. -/
def union (s t : CodePoints) : CodePoints :=
  s.addRanges t.ranges

/-- What two ranges have in common, if anything. -/
def overlap? (r s : Nat × Nat) : Option (Nat × Nat) :=
  let first := max r.1 s.1
  let last := min r.2 s.2
  if first ≤ last then some (first, last) else none

/-- The code points of both sets. -/
def inter (s t : CodePoints) : CodePoints :=
  ⟨s.ranges.flatMap fun r => t.ranges.filterMap (overlap? r)⟩

/-- What is left of a range when ascending ranges are taken away. -/
def cut : List (Nat × Nat) → Nat × Nat → List (Nat × Nat)
  | [], r => [r]
  | (first, last) :: rest, (a, b) =>
    if last < a then cut rest (a, b)
    else if b < first then [(a, b)]
    else
      (if a < first then [(a, previous first)] else []) ++
        (if last < b then cut rest (next last, b) else [])

/-- The code points of the first set that are not in the second. -/
def diff (s t : CodePoints) : CodePoints :=
  ⟨s.ranges.flatMap (cut t.ranges)⟩

/-- The code points of exactly one set. -/
def symmDiff (s t : CodePoints) : CodePoints :=
  (s.union t).diff (s.inter t)

/-- The gap between a range that ends at `a` and one that starts at `b`. Ranges that meet at the
surrogates have no character between them; there the gap is made of the two that meet. -/
def gap (a b : Nat) : Nat × Nat :=
  if next a ≤ previous b then (next a, previous b) else (previous b, next a)

/-- The gaps after the code point `a` between ascending ranges. -/
def gapsAfter (a : Nat) : List (Nat × Nat) → List (Nat × Nat)
  | [] => if a < greatest then [(next a, greatest)] else []
  | (first, last) :: rest => gap a first :: gapsAfter last rest

/-- The code points outside a set. -/
def complement (s : CodePoints) : CodePoints :=
  match s.ranges with
  | [] => ⟨[(0, greatest)]⟩
  | (first, last) :: rest =>
    ⟨(if 0 < first then [(0, previous first)] else []) ++ gapsAfter last rest⟩

end CodePoints

end Directory.Text
