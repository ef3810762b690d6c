import Directory.Regex.Flags
import Directory.Regex.Property
import Directory.Text.Hex

/-!
# Escapes

A backslash gives a character another meaning: `\d` and `\p{Greek}` are classes, `\b` is a condition
on the position, `\x41` a character by its code point, and `\.` a dot.

- `Regex.Escape`: what an escape stands for.
- `Regex.escape?`: the escape at the start of a text, and what follows it.
-/

namespace Directory.Regex

open Text (CodePoints isBlank hexDigit?)

/-- What an escape stands for. -/
inductive Escape where
  /-- A character. -/
  | literal (c : Char)
  /-- A class. -/
  | set (s : CodePoints)
  /-- A condition on the position. -/
  | assertion (a : Assertion)

/-! ## Code points -/

/-- The character with a code point, if there is one. -/
def charAt? (n : Nat) : Option Char :=
  if n < 0xD800 ∨ 0xE000 ≤ n ∧ n < 0x110000 then some (Char.ofNat n) else none

/-- Exactly `n` hexadecimal digits, the first of which may come at once. -/
def hexDigits? (f : Flags) (value : Nat) : Nat → List Char → Option (Nat × List Char)
  | 0, l => some (value, l)
  | n + 1, l =>
    match skip f l with
    | [] => none
    | c :: l => do hexDigits? f (16 * value + (← hexDigit? c)) n l

/-- Hexadecimal digits up to a closing brace. -/
def hexBraced? (f : Flags) (value : Nat) (l : List Char) : Option (Nat × List Char) :=
  match h : skip f l with
  | [] => none
  | '\x7d' :: rest => some (value, rest)
  | c :: rest => do hexBraced? f (16 * value + (← hexDigit? c)) rest
termination_by l.length
decreasing_by exact length_lt_of_skip_eq_cons h

/-- A character by its code point: `n` digits, or any number of them in braces. Two digits are a byte,
which has to be ASCII where classes are. -/
def hex? (f : Flags) (n : Nat) (l : List Char) : Option (Escape × List Char) := do
  match skip f l with
  | '\x7b' :: l =>
    match skip f l with
    | '\x7d' :: _ => none
    | l =>
      let (value, l) ← hexBraced? f 0 l
      some (.literal (← charAt? value), l)
  | l =>
    let (value, l) ← hexDigits? f 0 n l
    if f.ascii && n = 2 && 0x80 ≤ value then none
    some (.literal (← charAt? value), l)

/-! ## Names in braces -/

/-- The characters up to a closing brace, all of which must be allowed. -/
def braced? (allowed : Char → Bool) (f : Flags) (l : List Char) : Option (List Char × List Char) :=
  match _h : skip f l with
  | [] => none
  | '\x7d' :: rest => some ([], rest)
  | c :: rest =>
    if allowed c then (braced? allowed f rest).map fun (name, l) => (c :: name, l) else none
termination_by l.length
decreasing_by exact length_lt_of_skip_eq_cons _h

/-! ## Edges of words -/

/-- Whether the character can stand in the name of an edge. -/
def isEdgeLetter (c : Char) : Bool :=
  c.isAlpha || c == '-'

/-- The edge of a name. -/
def edge? : List Char → Option WordEdge
  | ['s', 't', 'a', 'r', 't'] => some .start
  | ['e', 'n', 'd'] => some .stop
  | ['s', 't', 'a', 'r', 't', '-', 'h', 'a', 'l', 'f'] => some .startHalf
  | ['e', 'n', 'd', '-', 'h', 'a', 'l', 'f'] => some .stopHalf
  | _ => none

/-- The edge that follows the letter for a border of words: one with a name in braces, or any. A brace
without a name is no part of it. -/
def border? (f : Flags) (l : List Char) : Option (WordEdge × List Char) :=
  match l with
  | '\x7b' :: rest =>
    match skip f rest with
    | [] => none
    | c :: rest =>
      if isEdgeLetter c then do
        let (name, rest) ← braced? isEdgeLetter f (c :: rest)
        some (← edge? name, rest)
      else some (.border, l)
  | l => some (.border, l)

/-! ## Properties -/

/-- The name of a property, a letter or a text in braces, and whether the characters without the
property are meant. -/
def propertyName? (f : Flags) (l : List Char) : Option ((Bool × PropertyName) × List Char) :=
  match skip f l with
  | [] => none
  | '\\' :: _ => none
  | '\x7b' :: l =>
    (braced? (fun _ => true) f l).map fun (text, l) => (PropertyName.ofText text, l)
  | c :: l => some ((false, .plain [c]), l)

variable [Properties]

/-- The characters of a property, or the others. Letters are taken in any case first. In ASCII there
are no properties. -/
def property? (f : Flags) (negated : Bool) (l : List Char) : Option (CodePoints × List Char) := do
  let ((others, name), l) ← propertyName? f l
  if f.ascii then none
  let ranges ← Properties.ranges? name
  some (← f.inside? (negated != others) (f.fold (Class.ofCharRanges ranges)), l)

/-! ## All escapes -/

/-- The shorthand classes by their letters, and whether what is outside is meant. -/
def shorthandLetter? : Char → Option (Bool × Class.Shorthand)
  | 'd' => some (false, .digit)
  | 's' => some (false, .blank)
  | 'w' => some (false, .word)
  | 'D' => some (true, .digit)
  | 'S' => some (true, .blank)
  | 'W' => some (true, .word)
  | _ => none

/-- Whether a backslash before the character makes it stand for itself. -/
def isEscapable (c : Char) : Bool :=
  c.toNat < 0x80 && !c.isAlphanum

/-- An escape whose backslash has been read. -/
def escape? (f : Flags) : List Char → Option (Escape × List Char)
  | [] => none
  | c :: l =>
    match c with
    | 'x' => hex? f 2 l
    | 'u' => hex? f 4 l
    | 'U' => hex? f 8 l
    | 'a' => some (.literal '\x07', l)
    | 'f' => some (.literal '\x0c', l)
    | 't' => some (.literal '\t', l)
    | 'n' => some (.literal '\n', l)
    | 'r' => some (.literal '\r', l)
    | 'v' => some (.literal '\x0b', l)
    | 'A' => some (.assertion .textStart, l)
    | 'z' => some (.assertion .textEnd, l)
    | 'b' => (border? f l).map fun (edge, l) => (.assertion (.word edge f.ascii), l)
    | 'B' => some (.assertion (.word .noBorder f.ascii), l)
    | '<' => some (.assertion (.word .start f.ascii), l)
    | '>' => some (.assertion (.word .stop f.ascii), l)
    | 'p' => (property? f false l).map fun (s, l) => (.set s, l)
    | 'P' => (property? f true l).map fun (s, l) => (.set s, l)
    | c =>
      match shorthandLetter? c with
      | some (negated, k) => (f.shorthand? negated k).map fun s => (.set s, l)
      | none => if isEscapable c then some (.literal c, l) else none

end Directory.Regex
