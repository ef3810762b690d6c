import Directory.Entry
import Directory.Glob
import Directory.Regex.Basic

/-!
# Filters

A filter says of each entry whether it matches. Most conditions look at the entry alone; limits
count how often they were asked, random conditions consume draws, and edge conditions look at the
entries next to an entry.

- `Filter.Node`: a condition.
- `Filter`: a condition with the initial values of its limit counters.
- `Filter.Node.exactMatch?`: the equality that a condition is, if it is one.
- `Filter.Node.hasLimit`, `Filter.Node.hasRandom`: whether limits or random draws occur anywhere in
  a condition.
-/

namespace Directory

/-- How two integers are compared. -/
inductive Comparator where
  | equal
  | less
  | lessOrEqual
  | greater
  | greaterOrEqual
deriving DecidableEq, Repr

/-- Whether `a` stands in the relation to `b`. -/
def Comparator.holds (c : Comparator) (a b : Int64) : Bool :=
  match c with
  | equal => a == b
  | less => a < b
  | lessOrEqual => a ≤ b
  | greater => b < a
  | greaterOrEqual => b ≤ a

/-- The sign of a comparison. -/
def Comparator.symbol : Comparator → String
  | equal => "="
  | less => "<"
  | lessOrEqual => "<="
  | greater => ">"
  | greaterOrEqual => ">="

/-- A condition on entries. -/
inductive Filter.Node where
  /-- All conditions hold, asked from left to right until one does not. -/
  | all (children : List Filter.Node)
  /-- One of the conditions holds, asked from left to right until one does. -/
  | any (children : List Filter.Node)
  /-- The condition does not hold. -/
  | not (child : Filter.Node)
  /-- The attribute has a value. -/
  | present (a : Attribute)
  /-- A value of the attribute has this text. -/
  | equals (a : Attribute) (text : String)
  /-- A value of the attribute has this text in lower case. -/
  | equalsFolded (a : Attribute) (text : String)
  /-- The pattern describes a value of the attribute, in lower case unless case matters. -/
  | glob (a : Attribute) (pattern : Glob) (caseSensitive : Bool)
  /-- The expression matches in a value of the attribute. -/
  | regex (a : Attribute) (pattern : Regex) (caseSensitive : Bool)
  /-- The integer of the attribute compares thus with `n`. -/
  | compare (a : Attribute) (c : Comparator) (n : Int64)
  /-- The integer of the attribute has all bits of the mask. -/
  | allBits (a : Attribute) (mask : Int64)
  /-- The integer of the attribute has a bit of the mask. -/
  | anyBit (a : Attribute) (mask : Int64)
  /-- The number of values compares thus with `n`. -/
  | count (a : Attribute) (c : Comparator) (n : Int64)
  /-- The number of characters of a value compares thus with `n`. -/
  | length (a : Attribute) (c : Comparator) (n : Int64)
  /-- A chain of names through the attribute leads to this name. -/
  | chain (a : Attribute) (dn : String)
  /-- The question has been asked at most `max` times. `slot` numbers the counter. -/
  | limit (slot : Nat) (max : Int64)
  /-- A random number below a hundred compares thus with `n`. -/
  | random (c : Comparator) (n : Int64)
  /-- There is an edge, of the given method if there is one. -/
  | edge (d : Direction) (method : Option AttackMethod)
  /-- There is such an edge to an entry on which the target condition holds. -/
  | edgeTo (d : Direction) (method : Option AttackMethod) (target : Filter.Node)

namespace Filter.Node

/-- The attribute and the text of a condition that asks for equality. -/
def exactMatch? : Node → Option (Attribute × String)
  | equals a text => some (a, text)
  | equalsFolded a text => some (a, text)
  | _ => none

mutual

/-- Whether a limit occurs in a condition, edge targets included. -/
def hasLimit : Node → Bool
  | limit _ _ => true
  | all cs => hasLimitAmong cs
  | any cs => hasLimitAmong cs
  | not c => c.hasLimit
  | edgeTo _ _ t => t.hasLimit
  | _ => false

/-- Whether a limit occurs in one of several conditions. -/
def hasLimitAmong : List Node → Bool
  | [] => false
  | c :: cs => c.hasLimit || hasLimitAmong cs

end

mutual

/-- Whether a random condition occurs in a condition, edge targets included. -/
def hasRandom : Node → Bool
  | random _ _ => true
  | all cs => hasRandomAmong cs
  | any cs => hasRandomAmong cs
  | not c => c.hasRandom
  | edgeTo _ _ t => t.hasRandom
  | _ => false

/-- Whether a random condition occurs in one of several conditions. -/
def hasRandomAmong : List Node → Bool
  | [] => false
  | c :: cs => c.hasRandom || hasRandomAmong cs

end

/-- The counters with the one in `slot` set. Missing counters before it are set to zero. -/
def setCounter (n : Int64) : Nat → List Int64 → List Int64
  | 0, [] => [n]
  | 0, _ :: l => n :: l
  | slot + 1, [] => 0 :: setCounter n slot []
  | slot + 1, m :: l => m :: setCounter n slot l

mutual

/-- The counters after those of a condition are set, from left to right. -/
def counters : Node → List Int64 → List Int64
  | limit slot max, l => setCounter max slot l
  | all cs, l => countersAmong cs l
  | any cs, l => countersAmong cs l
  | not c, l => c.counters l
  | edgeTo _ _ t, l => t.counters l
  | _, l => l

/-- The counters after those of several conditions are set, from left to right. -/
def countersAmong : List Node → List Int64 → List Int64
  | [], l => l
  | c :: cs, l => countersAmong cs (c.counters l)

end

/-- The name of a condition's kind. -/
def kind : Node → String
  | all _ => "and"
  | any _ => "or"
  | not _ => "not"
  | present _ => "present"
  | equals _ _ => "equals"
  | equalsFolded _ _ => "equals_ignore_case"
  | glob _ _ _ => "glob"
  | regex _ _ _ => "regex"
  | compare _ _ _ => "compare"
  | allBits _ _ => "bit_and"
  | anyBit _ _ => "bit_or"
  | count _ _ _ => "count"
  | length _ _ _ => "length"
  | chain _ _ => "dn_chain"
  | limit _ _ => "limit"
  | random _ _ => "random100"
  | edge _ _ => "pwn"
  | edgeTo _ _ _ => "pwn"

end Filter.Node

/-- A condition, and the initial values of its limit counters by slot. -/
structure Filter where
  /-- The condition. -/
  root : Filter.Node
  /-- The initial value of each counter. -/
  limits : List Int64

namespace Filter

/-- The filter of a condition. -/
def ofNode (root : Node) : Filter :=
  ⟨root, root.counters []⟩

/-- Whether the answer for an entry depends on which entries were shown before it. -/
def isOrderDependent (f : Filter) : Bool :=
  !f.limits.isEmpty

end Filter

end Directory
