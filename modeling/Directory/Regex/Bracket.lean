import Directory.Regex.Escape

/-!
# Classes in brackets

A class in brackets lists its members: characters, ranges, shorthands, named classes and classes in
brackets of their own. The operators `&&`, `--` and `~~` combine what stands between them.

- `Regex.Nested`: a value with the number of levels at which its parts are nested.
- `Regex.Members`: the members of a class read so far.
- `Regex.classOpen?`: the class whose opening bracket has been read, and what follows it.
-/

namespace Directory.Regex

open Text (CodePoints isBlank)

/-- Something read, and at how many levels its parts are nested. -/
structure Nested (α : Type) where
  /-- What has been read. -/
  value : α
  /-- The number of levels. -/
  depth : Nat

/-- Members of a class. -/
structure Members where
  /-- The characters, in ranges. -/
  ranges : List (Nat × Nat)
  /-- How many members there are. -/
  count : Nat
  /-- The number of levels at which parts of them are nested. -/
  depth : Nat

namespace Members

/-- No members. -/
def none : Members :=
  ⟨[], 0, 0⟩

/-- A further member. -/
def add (m : Members) (s : Nested CodePoints) : Members :=
  ⟨s.value.ranges ++ m.ranges, m.count + 1, max m.depth s.depth⟩

/-- A further member that is a character. -/
def addChar (m : Members) (c : Char) : Members :=
  m.add ⟨.single c, 0⟩

/-- The class of the members. Two members or more are a level of their own. -/
def toClass (m : Members) : Nested CodePoints :=
  ⟨.ofRanges m.ranges, if 2 ≤ m.count then m.depth + 1 else m.depth⟩

end Members

/-! ## Single members -/

variable [Properties]

/-- A character of a class or a class in it. -/
def member? (f : Flags) : List Char → Option ((Char ⊕ CodePoints) × List Char)
  | [] => none
  | '\\' :: l => do
    match ← escape? f l with
    | (.literal c, l) => if f.allows c then some (.inl c, l) else none
    | (.set s, l) => some (.inr s, l)
    | (.assertion _, _) => none
  | c :: l => if f.allows c then some (.inl c, l) else none

/-- The class of one member. -/
def classOfMember : Char ⊕ CodePoints → CodePoints
  | .inl c => .single c
  | .inr s => s

/-- Where blanks are passed over, the first character that is neither blank nor the first number sign.
If there is none, and elsewhere, the next character. -/
def lookAhead (f : Flags) (l : List Char) : Option Char :=
  if f.verbose then
    match l.dropWhile isBlank with
    | '#' :: rest => (rest.find? fun c => !isBlank c).or l.head?
    | c :: _ => some c
    | [] => l.head?
  else l.head?

/-- A range, or a single member where no range follows. A hyphen before the end of the class or
before another hyphen makes no range. -/
def range? (f : Flags) (l : List Char) : Option (CodePoints × List Char) := do
  let (first, l) ← member? f l
  let l := skip f l
  match l with
  | [] => none
  | '-' :: rest =>
    match lookAhead f rest with
    | some ']' | some '-' => some (classOfMember first, l)
    | _ =>
      match first, ← member? f (skip f rest) with
      | .inl a, (.inl b, rest) =>
        if a ≤ b then some (⟨[(a.toNat, b.toNat)]⟩, rest) else none
      | _, _ => none
  | _ => some (classOfMember first, l)

/-- A named ASCII class whose opening bracket has been read: its name, whether what is outside is
meant, and what follows it. -/
def namedClass? : List Char → Option (Bool × CodePoints × List Char)
  | ':' :: l =>
    let (negated, l) :=
      match l with
      | '^' :: l => (true, l)
      | l => (false, l)
    match l.dropWhile (· ≠ ':') with
    | ':' :: ']' :: rest => (Class.named? (l.takeWhile (· ≠ ':'))).map (negated, ·, rest)
    | _ => none
  | _ => none

/-! ## Operators -/

/-- The class to the left of an operator, and the operator, if one is pending. -/
abbrev Pending := Option (Nested CodePoints × Class.Operator)

/-- Applies the pending operator to the members after it. Letter case is settled on both sides
first. -/
def combine (f : Flags) (pending : Pending) (m : Members) : Nested CodePoints :=
  let right := m.toClass
  match pending with
  | none => right
  | some (left, op) =>
    ⟨op.apply (f.fold left.value) (f.fold right.value), max left.depth right.depth + 1⟩

/-- The operator that two equal characters are. -/
def operator? : Char → Option Class.Operator
  | '&' => some .inter
  | '-' => some .diff
  | '~' => some .symmDiff
  | _ => none

/-- The operator at the start of a text, and what follows it. -/
def operatorAt? : List Char → Option (Class.Operator × List Char)
  | c :: d :: l => if c = d then (operator? c).map (·, l) else none
  | _ => none

/-! ## Brackets -/

/-- The hyphens with which a class begins, as members, and what follows them. -/
def leadingHyphens (f : Flags) (m : Members) (l : List Char) : Members × List Char :=
  match l with
  | '-' :: rest => leadingHyphens f (m.addChar '-') (skip f rest)
  | l => (m, l)
termination_by l.length
decreasing_by exact Nat.lt_succ_of_le (length_skip_le f _)

mutual

/-- A class whose opening bracket has been read. A closing bracket may be its first member. The first
number bounds the steps, the second the brackets inside one another. -/
def classOpen? : Nat → Nat → Flags → List Char → Option (Nested CodePoints × List Char)
  | 0, _, _, _ => none
  | _, 0, _, _ => none
  | fuel + 1, levels + 1, f, l => do
    let (negated, l) :=
      match skip f l with
      | '^' :: l => (true, skip f l)
      | l => (false, l)
    let (m, l) :=
      match l with
      | ']' :: l => (Members.none.addChar ']', skip f l)
      | l => leadingHyphens f .none l
    let (s, l) ← classBody? fuel levels f none m l
    some (⟨← f.inside? negated (f.fold s.value), s.depth + 1⟩, l)

/-- The rest of a class up to its closing bracket, after an operator and the members since. -/
def classBody? :
    Nat → Nat → Flags → Pending → Members → List Char → Option (Nested CodePoints × List Char)
  | 0, _, _, _, _, _ => none
  | fuel + 1, levels, f, pending, m, l =>
    match skip f l with
    | [] => none
    | ']' :: l => some (combine f pending m, l)
    | '[' :: l =>
      match namedClass? l with
      | some (negated, s, l) => do
        let s ← f.inside? negated (f.fold s)
        classBody? fuel levels f pending (m.add ⟨s, 0⟩) l
      | none => do
        let (s, l) ← classOpen? fuel levels f l
        classBody? fuel levels f pending (m.add s) l
    | l =>
      match operatorAt? l with
      | some (op, l) => classBody? fuel levels f (some (combine f pending m, op)) .none l
      | none => do
        let (s, l) ← range? f l
        classBody? fuel levels f pending (m.add ⟨s, 0⟩) l

end

end Directory.Regex
