import Directory.Regex.Expr

/-!
# Matching by sets of positions

A text of `n` characters has `n + 1` positions. A set of them is a number whose bit `i` says whether
the position after `i` characters belongs to it, so that one step of an expression moves all
positions at once.

- `Regex.Subject`: a text to be matched, with the positions of its characters.
- `Regex.Move`: how an expression leads from positions to positions.
- `Regex.Expr.move`: the move of an expression in a text.
- `Regex.Expr.matchesIn`: whether an expression matches somewhere in a text.
-/

namespace Directory.Regex

open Text (CodePoints)

/-- The set of the places at which a list says yes. -/
def places (l : List Bool) : Nat :=
  l.foldr (fun b s => 2 * s + b.toNat) 0

/-- A text to be matched. -/
structure Subject where
  /-- The characters. -/
  text : List Char
  /-- Its distinct characters, each with the positions before it. -/
  occurrences : List (Char × Nat)

namespace Subject

/-- The character of several occurrences of one, with the set of their places. -/
def gather (l : List (Char × Nat)) : Option (Char × Nat) :=
  l.head?.map fun (c, _) => (c, l.foldl (fun s (_, i) => s ||| 1 <<< i) 0)

/-- The subject of a text. -/
def ofText (text : List Char) : Subject :=
  let sorted := text.zipIdx.mergeSort fun p q => p.1 ≤ q.1
  ⟨text, (sorted.splitBy fun p q => p.1 == q.1).filterMap gather⟩

/-- The positions before a character. -/
def before (t : Subject) (c : Char) : Nat :=
  (t.occurrences.lookup c).getD 0

/-- The positions before the characters of a class. -/
def beforeAny (t : Subject) (s : CodePoints) : Nat :=
  t.occurrences.foldl (fun p (c, q) => if s.contains c.toNat then p ||| q else p) 0

/-- The positions that meet a condition. -/
def meeting (t : Subject) (a : Assertion) : Nat :=
  places (List.zipWith a.holds (none :: t.text.map some) (t.text.map some ++ [none]))

end Subject

/-- How an expression leads from the positions where a match may begin to those where it may end. -/
structure Move where
  /-- The positions to which those of a set lead. -/
  run : Nat → Nat

namespace Move

/-- Nowhere but where one is. -/
def stay : Move :=
  ⟨fun s => s⟩

/-- Only to where one is, if it is one of `meets`. The set is computed when it is first needed. -/
def test (meets : Thunk Nat) : Move :=
  ⟨fun s => if s = 0 then 0 else s &&& meets.get⟩

/-- Over one character, if the position before it is one of `accepts`. -/
def step (accepts : Thunk Nat) : Move :=
  ⟨fun s => if s = 0 then 0 else (s &&& accepts.get) <<< 1⟩

/-- One move after the other. -/
def andThen (m n : Move) : Move :=
  ⟨fun s => n.run (m.run s)⟩

/-- One move or the other. -/
def orElse (m n : Move) : Move :=
  ⟨fun s => if s = 0 then 0 else m.run s ||| n.run s⟩

/-- The move so many times. -/
def exactly (m : Move) : Nat → Nat → Nat
  | 0, s => s
  | k + 1, s => if s = 0 then 0 else m.exactly k (m.run s)

/-- The positions of `seen` and those to which at most so many moves lead from `fresh`. -/
def atMost (m : Move) : Nat → Nat → Nat → Nat
  | 0, seen, _ => seen
  | k + 1, seen, fresh =>
    if fresh = 0 then seen
    else
      let reached := m.run fresh
      m.atMost k (seen ||| reached) (reached ^^^ (reached &&& seen))

/-- The move at least `least` times and at most `most` times, among so many positions. More moves
than there are positions repeat a position. -/
def times (m : Move) (positions least : Nat) (most : Option Nat) : Move :=
  ⟨fun s =>
    let s := m.exactly (min least positions) s
    m.atMost (min (most.elim positions (· - least)) positions) s s⟩

end Move

namespace Expr

/-- A repetition of an expression. An unbounded repetition that is repeated is one unbounded
repetition. -/
def loop (e : Expr) (least : Nat) (most : Option Nat) (greedy : Bool) : Expr :=
  match e with
  | times a inner none _ =>
    if inner ≤ 1 ∧ most ≠ some 0 then times a (inner * least) none greedy
    else times e least most greedy
  | e => times e least most greedy

/-- An expression with the same matches that has no groups and no loops of loops. -/
def core : Expr → Expr
  | seq a b => seq a.core b.core
  | alt a b => alt a.core b.core
  | times a least most greedy => loop a.core least most greedy
  | group _ a => a.core
  | e => e

/-- The move of an expression in a text. -/
def move (t : Subject) : Expr → Move
  | empty => .stay
  | .text l => l.foldr (fun c m => (Move.step ⟨fun _ => t.before c⟩).andThen m) .stay
  | char s => .step ⟨fun _ => t.beforeAny s⟩
  | assertion a => .test ⟨fun _ => t.meeting a⟩
  | seq a b => (a.move t).andThen (b.move t)
  | alt a b => (a.move t).orElse (b.move t)
  | times a least most _ => (a.move t).times (t.text.length + 1) least most
  | group _ a => a.move t

/-- Whether the expression matches somewhere in the text. -/
def matchesIn (e : Expr) (text : List Char) : Bool :=
  let everywhere := (1 <<< (text.length + 1)) - 1
  (e.core.move (.ofText text)).run everywhere != 0

end Expr

end Directory.Regex
