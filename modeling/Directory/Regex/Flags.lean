import Directory.Regex.Class
import Directory.Regex.Expr
import Directory.Text.Fold

/-!
# Flags

Flags change what the parts of an expression mean. They are switched on and off inside it.

- `Regex.Flags`: the flags in force at some place of an expression.
- `Regex.Flags.set?`: the flags after one is switched.
- `Regex.Flags.literal`, `Regex.Flags.dot?`, `Regex.Flags.shorthand?`: what parts mean under them.
- `Regex.skip`: what follows the blanks and comments that the flags tell to pass over.
- `length_skip_le`: nothing is added by that.
-/

namespace Directory.Regex

open Text (CodePoints isBlank)

/-- The flags in force at some place of an expression. -/
structure Flags where
  /-- Letters stand for all their cases. -/
  ignoreCase : Bool := false
  /-- The anchors `^` and `$` stand for the ends of lines. -/
  multiLine : Bool := false
  /-- The dot stands for line breaks too. -/
  dotAll : Bool := false
  /-- Lines may end in a carriage return. -/
  returns : Bool := false
  /-- Repetitions are lazy, and those marked lazy are not. -/
  reluctant : Bool := false
  /-- Classes and letter case are those of ASCII. -/
  ascii : Bool := false
  /-- Blanks and comments between the parts are passed over. -/
  verbose : Bool := false
deriving DecidableEq, Repr

namespace Flags

/-- The flags after one is switched on or off. -/
def set? (f : Flags) (on : Bool) : Char → Option Flags
  | 'i' => some { f with ignoreCase := on }
  | 'm' => some { f with multiLine := on }
  | 's' => some { f with dotAll := on }
  | 'R' => some { f with returns := on }
  | 'U' => some { f with reluctant := on }
  | 'u' => some { f with ascii := !on }
  | 'x' => some { f with verbose := on }
  | _ => none

/-! ## Classes -/

/-- A class in its written case or in any case. -/
def fold (f : Flags) (s : CodePoints) : CodePoints :=
  if f.ignoreCase then if f.ascii then Text.anyCaseAscii s else Text.anyCase s else s

/-- The characters outside a class. In ASCII there are none, since what is outside is no character. -/
def complement? (f : Flags) (s : CodePoints) : Option CodePoints :=
  if f.ascii then none else some s.complement

/-- The class or what is outside. -/
def inside? (f : Flags) (negated : Bool) (s : CodePoints) : Option CodePoints :=
  if negated then f.complement? s else some s

/-- A shorthand class or what is outside. -/
def shorthand? (f : Flags) (negated : Bool) (k : Class.Shorthand) : Option CodePoints :=
  f.inside? negated (if f.ascii then k.asciiMembers else k.members)

/-- Whether the character can be a member of a class. -/
def allows (f : Flags) (c : Char) : Bool :=
  !f.ascii || c.toNat < 0x80

/-! ## Parts of an expression -/

/-- What a character stands for. -/
def literal (f : Flags) (c : Char) : Expr :=
  .oneOf (f.fold (.single c))

/-- What a dot stands for. -/
def dot? (f : Flags) : Option Expr :=
  let breaks := if f.dotAll then [] else if f.returns then ['\n', '\r'] else ['\n']
  (f.complement? (Class.ofCharRanges (breaks.map fun c => (c, c)))).map .oneOf

/-- What the anchor at the start of a line stands for. -/
def startAnchor (f : Flags) : Assertion :=
  if f.multiLine then .lineStart f.returns else .textStart

/-- What the anchor at the end of a line stands for. -/
def endAnchor (f : Flags) : Assertion :=
  if f.multiLine then .lineEnd f.returns else .textEnd

end Flags

/-! ## Blanks -/

/-- The characters after blanks and comments. A comment goes from a number sign to the end of its
line. -/
def skipIgnored (inComment : Bool) : List Char → List Char
  | [] => []
  | c :: l =>
    if inComment then skipIgnored (c != '\n') l
    else if isBlank c then skipIgnored false l
    else if c = '#' then skipIgnored true l
    else c :: l

/-- The characters after those that the flags tell to pass over. -/
def skip (f : Flags) (l : List Char) : List Char :=
  if f.verbose then skipIgnored false l else l

theorem length_skipIgnored_le (inComment : Bool) (l : List Char) :
    (skipIgnored inComment l).length ≤ l.length := by
  induction l generalizing inComment with
  | nil => exact Nat.le_refl 0
  | cons c l ih =>
    have step (b : Bool) : (skipIgnored b l).length ≤ (c :: l).length :=
      Nat.le_succ_of_le (ih b)
    rw [skipIgnored]
    split
    · exact step _
    · split
      · exact step _
      · split
        · exact step _
        · exact Nat.le_refl _

/-- What is left after blanks and comments is no longer than the text. -/
theorem length_skip_le (f : Flags) (l : List Char) : (skip f l).length ≤ l.length := by
  unfold skip
  split
  · exact length_skipIgnored_le false l
  · exact Nat.le_refl _

theorem length_lt_of_skip_eq_cons {f : Flags} {c : Char} {l rest : List Char}
    (h : skip f l = c :: rest) : rest.length < l.length := by
  have hle := length_skip_le f l
  rw [h] at hle
  exact hle

end Directory.Regex
