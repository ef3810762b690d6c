import Directory.Draws.Basic
import Directory.Filter.Basic
import Directory.Filter.Chain

/-!
# Evaluating filters

An evaluation asks a filter about one entry after the other. Limit counters and the stream of random
draws are carried from each question to the next.

- `Filter.Memory`: what is carried along.
- `Filter.Node.eval`: the answer of a condition for an entry.
- `Filter.ask`: the answer of a filter for an entry.
-/

namespace Directory.Filter

open Text (lower)

/-- What an evaluation carries from one question to the next. -/
structure Memory where
  /-- The limit counters by slot: how often each limit will still say yes. -/
  counters : List Int64
  /-- The random draws. -/
  draws : Draws

/-- One less, but no less than the least integer. -/
def decrement (n : Int64) : Int64 :=
  if n = Int64.minValue then n else n - 1

namespace Memory

/-- Asks the limit in a slot. Its counter goes down, and it says yes until that falls below zero. -/
def askLimit (m : Memory) (slot : Nat) : Bool × Memory :=
  match m.counters[slot]? with
  | some n => (0 ≤ decrement n, { m with counters := m.counters.set slot (decrement n) })
  | none => (false, m)

/-- Compares a random number below a hundred. -/
def askRandom (m : Memory) (c : Comparator) (n : Int64) : Bool × Memory :=
  let (r, draws) := m.draws.percent
  (c.holds (Int64.ofNat r) n, { m with draws })

end Memory

/-- The text of a value as patterns see it. -/
def candidate (caseSensitive : Bool) (text : String) : List Char :=
  if caseSensitive then text.toList else (lower text).toList

/-- The edges at an entry that are followed in a direction by a method, if one is given. -/
def edgesBy (s : Store) (d : Direction) (method : Option AttackMethod) (id : Nat) : List Edge :=
  (s.edgesAt d id).filter fun e => method.all (· == e.method)

namespace Node

mutual

/-- Whether a condition holds of the entry `e` with the number `id`. -/
def eval (s : Store) : Node → Nat → Entry → Memory → Bool × Memory
  | all cs, id, e, m => evalAll s cs id e m
  | any cs, id, e, m => evalAny s cs id e m
  | not c, id, e, m =>
    let (yes, m) := c.eval s id e m
    (!yes, m)
  | present a, _, e, m => (e.has a, m)
  | equals a text, _, e, m => ((e.renderedOf a).any (· == text), m)
  | equalsFolded a text, _, e, m => ((e.renderedOf a).any (lower · == text), m)
  | glob a pattern caseSensitive, _, e, m =>
    ((e.renderedOf a).any fun t => pattern.accepts (candidate caseSensitive t), m)
  | regex a pattern _, _, e, m => ((e.renderedOf a).any fun t => pattern.accepts t.toList, m)
  | compare a c n, _, e, m => ((e.intOf? a).any (c.holds · n), m)
  | allBits a mask, _, e, m => ((e.intOf? a).any fun v => v &&& mask == mask, m)
  | anyBit a mask, _, e, m => ((e.intOf? a).any fun v => v &&& mask != 0, m)
  | count a c n, _, e, m => (c.holds (Int64.ofNat (e.valuesOf a).length) n, m)
  | length a c n, _, e, m =>
    ((e.renderedOf a).any fun t => c.holds (Int64.ofNat t.length) n, m)
  | chain a dn, id, e, m => (s.chainLeads a dn id e, m)
  | limit slot _, _, _, m => m.askLimit slot
  | random c n, _, _, m => m.askRandom c n
  | edge d method, id, _, m => (!(edgesBy s d method id).isEmpty, m)
  | edgeTo d method target, id, _, m =>
    anyInOrder
      (fun edge m =>
        match s.entry? (edge.far d) with
        | some e => target.eval s (edge.far d) e m
        | none => (false, m))
      (edgesBy s d method id) m

/-- Whether all conditions hold, asked from left to right until one does not. -/
def evalAll (s : Store) : List Node → Nat → Entry → Memory → Bool × Memory
  | [], _, _, m => (true, m)
  | c :: cs, id, e, m =>
    match c.eval s id e m with
    | (true, m) => evalAll s cs id e m
    | (false, m) => (false, m)

/-- Whether a condition holds, asked from left to right until one does. -/
def evalAny (s : Store) : List Node → Nat → Entry → Memory → Bool × Memory
  | [], _, _, m => (false, m)
  | c :: cs, id, e, m =>
    match c.eval s id e m with
    | (true, m) => (true, m)
    | (false, m) => evalAny s cs id e m

end

end Node

/-- The memory in which an evaluation starts. -/
def start (f : Filter) (draws : Draws) : Memory :=
  ⟨f.limits, draws⟩

/-- Whether an entry matches, and what is carried on. -/
def ask (f : Filter) (s : Store) (id : Nat) (e : Entry) (m : Memory) : Bool × Memory :=
  f.root.eval s id e m

end Directory.Filter
