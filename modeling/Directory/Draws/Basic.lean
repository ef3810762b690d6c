/-!
# Random draws

Random choices consume a stream of 64-bit draws.

- `Draws`: a stream and the position in it.
- `Draws.next`: the next draw.
- `Draws.percent`: a number below a hundred, each with the same chance.
- `Draws.ofList`: a stream that starts with given draws and goes on with zeros.
-/

namespace Directory

/-- A stream of draws, of which some have been taken. -/
structure Draws where
  /-- The draws of the stream. -/
  stream : Nat → UInt64
  /-- The number of draws taken so far. -/
  position : Nat := 0

namespace Draws

/-- The stream that starts with the given draws and goes on with zeros. -/
def ofList (l : List UInt64) : Draws where
  stream n := l[n]?.getD 0

/-- The next draw, and the stream after it. -/
def next (d : Draws) : UInt64 × Draws :=
  (d.stream d.position, { d with position := d.position + 1 })

/-- The product of a draw and a hundred, split into its low 64 bits and the rest. -/
def timesHundred (u : UInt64) : Nat × Nat :=
  (u.toNat * 100 % UInt64.size, u.toNat * 100 / UInt64.size)

/-- The greatest low part with which a draw counts. It leaves the same number of draws for every
result. -/
def acceptBound : Nat := 0xC7FFFFFFFFFFFFFF

/-- Takes draws until one counts. After `tries` in vain the next one counts in any case, where a
generator of its own would go on. -/
def percentWithin : Nat → Draws → Nat × Draws
  | 0, d => ((timesHundred d.next.1).2, d.next.2)
  | tries + 1, d =>
    let (u, d) := d.next
    let (low, high) := timesHundred u
    if low ≤ acceptBound then (high, d) else percentWithin tries d

/-- A number below a hundred. On a random stream fewer than one draw in four is in vain, so a million
in a row do not occur in practice. -/
def percent (d : Draws) : Nat × Draws :=
  percentWithin 1000000 d

end Draws

end Directory
