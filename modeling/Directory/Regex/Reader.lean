import Directory.Regex.Automaton.Growth
import Directory.Regex.Basic
import Directory.Regex.Bracket
import Directory.Text.Letters

/-!
# Reading regular expressions

The syntax: literals, `.`, classes, repetition (`?`, `*`, `+`, counted, each greedy or lazy), groups
(plain, named, without capture), alternation, anchors, escapes, properties and the inline flags
`i`, `m`, `s`, `R`, `U`, `u` and `x`. Look-around, back-references and unknown escapes are refused,
and so are expressions that are nested too deeply or whose automata would take too much room.

- `Regex.read?`: the expression that a text spells.
- `Regex.Draft`: the part of an expression that has been read.
- `Regex.opening?`, `Regex.counts?`: the readers of groups and counts. Each returns what follows.
-/

namespace Directory.Regex

open Text (isBlank isLetter isLetterOrNumber)

/-! ## Repetition -/

/-- The digits at the start, and what follows them. -/
def digits (f : Flags) (l : List Char) : List Char × List Char :=
  match l with
  | c :: rest =>
    if c.isDigit then
      let (ds, rest) := digits f (skip f rest)
      (c :: ds, rest)
    else ([], l)
  | [] => ([], [])
termination_by l.length
decreasing_by exact Nat.lt_succ_of_le (length_skip_le f _)

/-- A count of at most 32 bits, with blanks around it. -/
def count? (f : Flags) (l : List Char) : Option (Nat × List Char) :=
  let (ds, l) := digits f (l.dropWhile isBlank)
  let n := Nat.ofDigitChars 10 ds 0
  if ds.isEmpty || n ≥ UInt32.size then none else some (n, skip f (l.dropWhile isBlank))

/-- How often something is repeated. -/
structure Repetition where
  /-- The least count. -/
  least : Nat
  /-- The greatest count, if there is one. -/
  most : Option Nat
  /-- Whether the repetition has no mark that makes it lazy. -/
  greedy : Bool

/-- A repetition with perhaps a mark that makes it lazy, and what follows it. -/
def Repetition.marked (least : Nat) (most : Option Nat) : List Char → Repetition × List Char
  | '?' :: l => (⟨least, most, false⟩, l)
  | l => (⟨least, most, true⟩, l)

/-- A counted repetition whose opening brace has been read. -/
def counts? (f : Flags) (l : List Char) : Option (Repetition × List Char) := do
  let (least, l) ← count? f (skip f l)
  match l with
  | '\x7d' :: l => some (Repetition.marked least (some least) (skip f l))
  | ',' :: l =>
    match skip f l with
    | '\x7d' :: l => some (Repetition.marked least none (skip f l))
    | l =>
      match ← count? f l with
      | (most, '\x7d' :: l) =>
        if least ≤ most then some (Repetition.marked least (some most) (skip f l)) else none
      | _ => none
  | _ => none

/-- The repetition that a mark at the start of a text begins. -/
def repetition? (f : Flags) : List Char → Option (Option (Repetition × List Char))
  | '?' :: l => some (some (Repetition.marked 0 (some 1) l))
  | '*' :: l => some (some (Repetition.marked 0 none l))
  | '+' :: l => some (some (Repetition.marked 1 none l))
  | '\x7b' :: l => some (counts? f l)
  | _ => none

/-! ## Groups -/

/-- What an opening parenthesis begins. -/
inductive Opening where
  /-- Nothing: the flags hold from here to the end of the group around it. -/
  | flags (f : Flags)
  /-- A group with flags of its own that is not numbered. -/
  | plain (f : Flags)
  /-- A numbered group, perhaps with a name. -/
  | numbered (name : Option (List Char))

/-- Whether the name of a group may begin with the character. -/
def startsName (c : Char) : Bool :=
  c == '_' || isLetter c

/-- Whether the name of a group may go on with the character. -/
def continuesName (c : Char) : Bool :=
  c == '_' || c == '.' || c == '[' || c == ']' || isLetterOrNumber c

/-- The name of a group up to its closing bracket. -/
def name? (l : List Char) : Option (List Char × List Char) :=
  match l.takeWhile (· ≠ '>'), l.dropWhile (· ≠ '>') with
  | c :: name, _ :: rest =>
    if startsName c && name.all continuesName then some (c :: name, rest) else none
  | _, _ => none

/-- A list of flags: those before a minus are switched on, those after it off. No flag may be
repeated, and a minus needs a flag after it. `seen` holds the characters read so far, last first. -/
def flags? (f : Flags) (seen : List Char) : List Char → Option (Opening × List Char)
  | [] => none
  | ':' :: l => if seen.head? = some '-' then none else some (.plain f, l)
  | ')' :: l => if seen.isEmpty ∨ seen.head? = some '-' then none else some (.flags f, l)
  | c :: l =>
    if c ∈ seen then none
    else if c = '-' then flags? f (c :: seen) l
    else do flags? (← f.set? ('-' ∉ seen) c) (c :: seen) l

/-- What a parenthesis begins that has just been read. -/
def opening? (f : Flags) : List Char → Option (Opening × List Char)
  | '?' :: '=' :: _ => none
  | '?' :: '!' :: _ => none
  | '?' :: '<' :: '=' :: _ => none
  | '?' :: '<' :: '!' :: _ => none
  | '?' :: 'P' :: '<' :: l => (name? l).map fun (name, l) => (.numbered (some name), l)
  | '?' :: '<' :: l => (name? l).map fun (name, l) => (.numbered (some name), l)
  | '?' :: l => flags? f [] l
  | l => some (.numbered none, l)

/-- The groups so far. -/
structure Groups where
  /-- How many are numbered. -/
  count : Nat
  /-- The names of those that have one. -/
  names : List (List Char)

/-- The groups after a numbered one, whose name must be new. -/
def Groups.add? (g : Groups) (name : Option (List Char)) : Option Groups :=
  if name.any g.names.contains then none else some ⟨g.count + 1, name.toList ++ g.names⟩

/-! ## Expressions -/

/-- The part of an expression that has been read. -/
structure Draft where
  /-- The alternatives before, last first. -/
  before : List (Nested Expr)
  /-- The parts since, last first. Those that switch flags are no expressions. -/
  parts : List (Option (Nested Expr))

namespace Draft

/-- Nothing. -/
def empty : Draft :=
  ⟨[], []⟩

/-- A further part. -/
def add (d : Draft) (e : Expr) (depth : Nat) : Draft :=
  { d with parts := some ⟨e, depth⟩ :: d.parts }

/-- A further part that switches flags. -/
def addFlags (d : Draft) : Draft :=
  { d with parts := none :: d.parts }

/-- The last part repeated, if there is one and it is no flag. -/
def repeatLast? (d : Draft) (f : Flags) (r : Repetition) : Option Draft :=
  match d.parts with
  | some e :: parts =>
    let greedy := r.greedy != f.reluctant
    some { d with parts := some ⟨.repeated e.value r.least r.most greedy, e.depth + 1⟩ :: parts }
  | _ => none

/-- The sequence of the parts. Two parts or more are a level of their own. -/
def sequence (d : Draft) : Nested Expr :=
  let parts := d.parts.filterMap id
  let depth := parts.foldl (fun n e => max n e.depth) 0
  ⟨.sequence (parts.map (·.value)).reverse, if 2 ≤ d.parts.length then depth + 1 else depth⟩

/-- A further alternative, in which nothing has been read. -/
def split (d : Draft) : Draft :=
  ⟨d.sequence :: d.before, []⟩

/-- The whole expression. An alternation is a level of its own. -/
def finish (d : Draft) : Nested Expr :=
  match d.before with
  | [] => d.sequence
  | _ =>
    let all := d.sequence :: d.before
    ⟨.alternatives (all.map (·.value)).reverse, all.foldl (fun n e => max n e.depth) 0 + 1⟩

end Draft

variable [Properties]

/-- A part that is no group, class or repetition. -/
def atom? (f : Flags) : List Char → Option (Expr × List Char)
  | [] => none
  | '.' :: l => f.dot?.map (·, l)
  | '^' :: l => some (.assertion f.startAnchor, l)
  | '$' :: l => some (.assertion f.endAnchor, l)
  | '\\' :: l => do
    match ← escape? f l with
    | (.literal c, l) => some (f.literal c, l)
    | (.set s, l) => some (.oneOf s, l)
    | (.assertion a, l) => some (.assertion a, l)
  | c :: l => some (f.literal c, l)

/-- An expression up to the parenthesis that closes its group or to the end. Every call reads at
least one character, so the first number is spent no sooner than the text. The second bounds the
groups inside one another. -/
def expr? : Nat → Nat → Flags → Groups → Draft → List Char →
    Option (Nested Expr × Groups × List Char)
  | 0, _, _, _, _, _ => none
  | fuel + 1, levels, f, g, d, l =>
    match skip f l with
    | [] => some (d.finish, g, [])
    | ')' :: l => some (d.finish, g, ')' :: l)
    | '|' :: l => expr? fuel levels f g d.split l
    | '(' :: l => do
      match levels, ← opening? f (skip f l) with
      | _, (.flags inner, l) => expr? fuel levels inner g d.addFlags l
      | 0, _ => none
      | below + 1, (.plain inner, l) =>
        match ← expr? fuel below inner g .empty l with
        | (e, g, ')' :: l) => expr? fuel levels f g (d.add e.value (e.depth + 1)) l
        | _ => none
      | below + 1, (.numbered name, l) =>
        let g ← g.add? name
        let index := g.count
        match ← expr? fuel below f g .empty l with
        | (e, g, ')' :: l) => expr? fuel levels f g (d.add (.group index e.value) (e.depth + 1)) l
        | _ => none
    | '[' :: l => do
      let (s, l) ← classOpen? (2 * fuel + 2) levels f l
      expr? fuel levels f g (d.add (.oneOf s.value) s.depth) l
    | l =>
      match repetition? f l with
      | some r => do
        let (r, l) ← r
        expr? fuel levels f g (← d.repeatLast? f r) l
      | none => do
        let (e, l) ← atom? f l
        expr? fuel levels f g (d.add e 0) l

/-- The number of levels at which an expression may be nested. -/
def depthLimit : Nat := 250

/-- The expression that a text spells, in any letter case or in the given one. -/
def read? (ignoreCase : Bool) (s : String) : Option Regex :=
  let l := s.toList
  match expr? (l.length + 1) depthLimit { ignoreCase } ⟨0, []⟩ .empty l with
  | some (e, _, []) => if e.depth ≤ depthLimit && e.value.fits then some ⟨s, e.value⟩ else none
  | _ => none

end Directory.Regex
