import Directory.Text.Positions

/-!
# Glob patterns

A glob describes whole texts: `?` stands for any character, `*` for any run of characters, and
brackets for one character of a class (`[a-z_]`) or outside it (`[!0-9]`). A bracket that closes a
class may be its first member. Two stars that make up a component of a path, with the slash after
them, stand for any number of components. All other characters stand for themselves.

- `Glob.read?`: the pattern with a given text, or its fault.
- `Glob.accepts`: whether a text is one of those described.
-/

namespace Directory

open Text (Positions)

/-- A member of a character class. -/
inductive Glob.Member where
  /-- One character. -/
  | one (c : Char)
  /-- All characters from the first to the last. -/
  | range (first last : Char)
deriving DecidableEq, Repr

/-- A part of a pattern. -/
inductive Glob.Part where
  /-- The character itself. -/
  | char (c : Char)
  /-- Any character. -/
  | anyChar
  /-- Any run of characters, empty ones included. -/
  | anyRun
  /-- Any run of path components, each with the slash after it, or the rest of the text. -/
  | anyPath
  /-- One character inside the class, or outside it. -/
  | oneOf (inside : Bool) (members : List Glob.Member)
deriving DecidableEq, Repr

/-- A glob pattern. -/
structure Glob where
  /-- The text that spells it. -/
  source : String
  /-- Its parts. -/
  parts : List Glob.Part
deriving DecidableEq, Repr

namespace Glob

/-! ## Faults -/

/-- What can be wrong with a pattern. -/
inductive Fault where
  /-- A bracket opens no class. -/
  | notClass
  /-- Two stars are not all of a path component. -/
  | notComponent
  /-- There are more than two stars in a row. -/
  | tooManyStars
deriving DecidableEq, Repr

/-- A fault and its place, as the number of characters before it. -/
structure Error where
  /-- What is wrong. -/
  fault : Fault
  /-- How many characters come before. -/
  position : Nat
deriving DecidableEq, Repr

/-- What is wrong, in words. -/
def Fault.message : Fault → String
  | notClass => "invalid range pattern"
  | notComponent => "recursive wildcards must form a single path component"
  | tooManyStars => "wildcards are either regular \x60*\x60 or recursive \x60**\x60"

/-- The error and its place, in words. -/
def Error.message (e : Error) : String :=
  "Pattern syntax error near position " ++ toString e.position ++ ": " ++ e.fault.message

/-! ## Reading -/

/-- The members that the characters between brackets spell. -/
def membersOf : List Char → List Member
  | a :: '-' :: b :: l => .range a b :: membersOf l
  | a :: l => .one a :: membersOf l
  | [] => []

/-- The members of a class, of which there must be one, and what follows its closing bracket. -/
def members? : List Char → Option (List Member × List Char)
  | [] => none
  | a :: l =>
    if ']' ∈ l then
      some (membersOf (a :: l.takeWhile (· ≠ ']')), (l.dropWhile (· ≠ ']')).drop 1)
    else none

/-- A class whose opening bracket has been read, and what follows it. -/
def class? : List Char → Option (Part × List Char)
  | '!' :: l => (members? l).map fun (ms, l) => (.oneOf false ms, l)
  | l => (members? l).map fun (ms, l) => (.oneOf true ms, l)

/-- The parts of a pattern of which `total` characters are to be read in all. `startsComponent` says
whether a path component begins here. Each call reads at least one character. -/
def partsOf (total : Nat) : Nat → Bool → List Char → Except Error (List Part)
  | _, _, [] => .ok []
  | 0, _, _ => .ok []
  | fuel + 1, _, '?' :: l => (partsOf total fuel false l).map (.anyChar :: ·)
  | _ + 1, _, '*' :: '*' :: '*' :: l => .error ⟨.tooManyStars, total - (l.length + 1)⟩
  | fuel + 1, startsComponent, '*' :: '*' :: l =>
    if startsComponent then
      match l with
      | [] => .ok [.anyPath]
      | '/' :: l => (partsOf total fuel true l).map (.anyPath :: ·)
      | l => .error ⟨.notComponent, total - l.length⟩
    else .error ⟨.notComponent, total - (l.length + 3)⟩
  | fuel + 1, _, '*' :: l => (partsOf total fuel false l).map (.anyRun :: ·)
  | fuel + 1, _, '[' :: l =>
    match class? l with
    | some (p, rest) => (partsOf total fuel false rest).map (p :: ·)
    | none => .error ⟨.notClass, total - (l.length + 1)⟩
  | fuel + 1, _, c :: l => (partsOf total fuel (c == '/') l).map (.char c :: ·)

/-- The pattern that a text spells. -/
def read? (s : String) : Except Error Glob :=
  let l := s.toList
  (partsOf l.length l.length true l).map fun parts => ⟨s, parts⟩

/-! ## Matching -/

/-- Whether a character is covered by a member of a class. -/
def Member.covers (c : Char) : Member → Bool
  | one d => c == d
  | range first last => first ≤ c && c ≤ last

/-- The positions after a part, from those before it. -/
def advance (text : List Char) (s : Positions) : Part → Positions
  | .char c => s.step text (· == c)
  | .anyChar => s.step text fun _ => true
  | .anyRun => s.onward false
  | .anyPath => s.descend text
  | .oneOf inside ms => s.step text fun c => ms.any (·.covers c) == inside

/-- Whether the pattern describes the text. -/
def accepts (g : Glob) (text : List Char) : Bool :=
  (g.parts.foldl (advance text) (Positions.start text)).getLast?.getD false

end Glob

end Directory
