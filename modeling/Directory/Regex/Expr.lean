import Directory.Regex.Assertion
import Directory.Text.CodePoints

/-!
# Expressions in normal form

Two spellings of an expression that differ in brackets only come to one expression: sequences and
alternations are flat, neighbouring characters are one text, and alternatives that are single
characters are one class.

- `Regex.Expr`: a regular expression, with its flags worked in.
- `Regex.Expr.parts`, `Regex.Expr.branches`: an expression as a sequence or an alternation.
- `Regex.Expr.sequence`, `Regex.Expr.alternatives`, `Regex.Expr.repeated`, `Regex.Expr.oneOf`: the
  normal form of an expression that is made up of others.
- `Regex.Expr.isZeroWidth`, `Regex.Expr.leastLength?`, `Regex.Expr.startsAnchored`,
  `Regex.Expr.endsAnchored`: what all matches of an expression have in common.
-/

namespace Directory.Regex

open Text (CodePoints)

/-- A regular expression. The second part of a sequence may be a sequence, the first is none, and
alternations are nested in the same way. -/
inductive Expr where
  /-- The empty text. -/
  | empty
  /-- The text itself, which is not empty. -/
  | text (l : List Char)
  /-- One character of a class. -/
  | char (s : CodePoints)
  /-- No character, at a position that meets a condition. -/
  | assertion (a : Assertion)
  /-- One expression after the other. -/
  | seq (a b : Expr)
  /-- One expression or the other. -/
  | alt (a b : Expr)
  /-- An expression at least `least` times, and at most `most` times if there is a bound. Of two
  matches the longer is preferred if the repetition is greedy. -/
  | times (a : Expr) (least : Nat) (most : Option Nat) (greedy : Bool)
  /-- A numbered group. -/
  | group (index : Nat) (a : Expr)
deriving DecidableEq, Repr

namespace Expr

/-! ## Lengths and anchors -/

/-- Whether all matches are empty. An unbounded repetition does not count. -/
def isZeroWidth : Expr → Bool
  | empty => true
  | text _ => false
  | char _ => false
  | assertion _ => true
  | seq a b => a.isZeroWidth && b.isZeroWidth
  | alt a b => a.isZeroWidth && b.isZeroWidth
  | times a _ most _ => most.isSome && a.isZeroWidth
  | group _ a => a.isZeroWidth

/-- The fewest characters of a match, unless some part can match nothing. -/
def leastLength? : Expr → Option Nat
  | empty => some 0
  | text l => some l.length
  | char s => if s.ranges.isEmpty then none else some 1
  | assertion _ => some 0
  | seq a b => do return (← a.leastLength?) + (← b.leastLength?)
  | alt a b => do return min (← a.leastLength?) (← b.leastLength?)
  | times a least _ _ => do return (← a.leastLength?) * least
  | group _ a => a.leastLength?

/-- Whether matches begin where the text begins. -/
def startsAnchored : Expr → Bool
  | assertion a => a == .textStart
  | seq a b => a.startsAnchored || (a.isZeroWidth && b.startsAnchored)
  | alt a b => a.startsAnchored && b.startsAnchored
  | times a least _ _ => least != 0 && a.startsAnchored
  | group _ a => a.startsAnchored
  | _ => false

/-- Whether matches end where the text ends. -/
def endsAnchored : Expr → Bool
  | assertion a => a == .textEnd
  | seq a b => b.endsAnchored || (b.isZeroWidth && a.endsAnchored)
  | alt a b => a.endsAnchored && b.endsAnchored
  | times a least _ _ => least != 0 && a.endsAnchored
  | group _ a => a.endsAnchored
  | _ => false

/-! ## Sequences -/

/-- The parts of which the expression is a sequence. -/
def parts : Expr → List Expr
  | empty => []
  | seq a b => a :: b.parts
  | e => [e]

/-- The sequence of parts that are no sequences. -/
def ofParts : List Expr → Expr
  | [] => empty
  | [e] => e
  | e :: l => seq e (ofParts l)

/-- Puts a part before others. A text before a text becomes one with it. -/
def prepend (e : Expr) (l : List Expr) : List Expr :=
  match e, l with
  | text s, text t :: rest => text (s ++ t) :: rest
  | e, l => e :: l

/-- One expression after the other. -/
def sequence (l : List Expr) : Expr :=
  ofParts ((l.flatMap parts).foldr prepend [])

/-! ## Classes -/

/-- One character of a class. If there is only one, it is a text. -/
def oneOf (s : CodePoints) : Expr :=
  match s.ranges with
  | [(first, last)] => if first = last then text [Char.ofNat first] else char s
  | _ => char s

/-- The class of a text of one character. -/
def singleton? : Expr → Option CodePoints
  | text [c] => some (.single c)
  | _ => none

/-- The class that the expression is. -/
def class? : Expr → Option CodePoints
  | char s => some s
  | _ => none

/-! ## Alternations -/

/-- The alternatives of the expression, of which there may be one only. -/
def branches : Expr → List Expr
  | alt a b => a :: b.branches
  | e => [e]

/-- The alternation of expressions that are no alternations. -/
def ofBranches : List Expr → Expr
  | [] => char ⟨[]⟩
  | [e] => e
  | e :: l => alt e (ofBranches l)

/-- The alternation of expressions that are no alternations. Single characters become a class, and so
do classes. -/
def choice (l : List Expr) : Expr :=
  match l with
  | [e] => e
  | l =>
    match l.mapM singleton? <|> l.mapM class? with
    | some sets => oneOf (.ofRanges (sets.flatMap (·.ranges)))
    | none => ofBranches l

/-- The parts with which both sequences begin. -/
def commonStart : List Expr → List Expr → List Expr
  | a :: l, b :: m => if a = b then a :: commonStart l m else []
  | _, _ => []

/-- The parts with which all the sequences begin, if each has two parts or more. -/
def sharedStart : List (List Expr) → List Expr
  | first :: second :: l =>
    if (first :: second :: l).all (2 ≤ ·.length) then (second :: l).foldl commonStart first else []
  | _ => []

/-- One expression or another. Alternatives that begin alike are a sequence of what they share and of
the alternation of what is left. -/
def alternatives (l : List Expr) : Expr :=
  let l := l.flatMap branches
  let shared := sharedStart (l.map parts)
  if shared.isEmpty then choice l
  else
    let rests := l.map fun e => sequence (e.parts.drop shared.length)
    sequence (shared ++ [choice (rests.flatMap branches)])

/-! ## Repetitions -/

/-- An expression repeated. If it matches no character, once is as good as often. -/
def repeated (e : Expr) (least : Nat) (most : Option Nat) (greedy : Bool) : Expr :=
  let (least, most) :=
    if e.isZeroWidth then (min least 1, some (most.elim 1 (min 1))) else (least, most)
  match least, most with
  | 0, some 0 => empty
  | 1, some 1 => e
  | least, most => times e least most greedy

end Expr

end Directory.Regex
