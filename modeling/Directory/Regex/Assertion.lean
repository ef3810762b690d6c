import Directory.Text.Word

/-!
# Conditions on a position

A regular expression may demand of a position that the text, a line or a word begins or ends there.

- `Regex.WordEdge`: the ways in which a position can lie at the edge of a word.
- `Regex.Assertion`: a condition on a position.
- `Regex.Assertion.holds`: whether a position between two neighbours meets it.
-/

namespace Directory.Regex

open Text (isWord)

/-- How a position lies to the words around it. -/
inductive WordEdge where
  /-- A word begins or ends here. -/
  | border
  /-- No word begins or ends here. -/
  | noBorder
  /-- A word begins here. -/
  | start
  /-- A word ends here. -/
  | stop
  /-- No word comes before. -/
  | startHalf
  /-- No word comes after. -/
  | stopHalf
deriving DecidableEq, Repr

/-- Whether a position is such an edge, given whether its neighbours belong to words. -/
def WordEdge.holds (before after : Bool) : WordEdge → Bool
  | border => before != after
  | noBorder => before == after
  | start => !before && after
  | stop => before && !after
  | startHalf => !before
  | stopHalf => !after

/-- A condition on a position. -/
inductive Assertion where
  /-- The text begins here. -/
  | textStart
  /-- The text ends here. -/
  | textEnd
  /-- A line begins here. Lines end in a line feed, or else in one with or without a carriage return
  or in a carriage return alone. -/
  | lineStart (returns : Bool)
  /-- A line ends here. -/
  | lineEnd (returns : Bool)
  /-- The position is such an edge of a word, of ASCII characters alone or of all scripts. -/
  | word (edge : WordEdge) (ascii : Bool)
deriving DecidableEq, Repr

/-- Whether the neighbour of a position belongs to a word. -/
def inWord (ascii : Bool) (c : Option Char) : Bool :=
  c.any fun c => isWord c && (!ascii || c.toNat < 0x80)

/-- Whether an assertion holds between two neighbours, `none` standing for the ends of the text. -/
def Assertion.holds (before after : Option Char) : Assertion → Bool
  | textStart => before.isNone
  | textEnd => after.isNone
  | lineStart returns =>
    before.isNone || before == some '\n' ||
      (returns && before == some '\r' && after != some '\n')
  | lineEnd returns =>
    after.isNone || (returns && after == some '\r') ||
      (after == some '\n' && !(returns && before == some '\r'))
  | word edge ascii => edge.holds (inWord ascii before) (inWord ascii after)

end Directory.Regex
