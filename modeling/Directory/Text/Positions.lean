/-!
# Sets of positions in a text

Glob patterns are matched by following all positions that a part of the pattern can reach at once. A
text of `n` characters has `n + 1` positions, and a set of them is a list of as many truth values.

- `Positions.start`: the set from which matching begins.
- `Positions.step`: one character further.
- `Positions.onward`: any number of characters further.
- `Positions.descend`: any number of path components further.
-/

namespace Directory.Text

/-- A set of positions: whether each position of a text belongs to it, from first to last. -/
abbrev Positions := List Bool

namespace Positions

/-- The first position only. -/
def start (text : List Char) : Positions :=
  true :: text.map fun _ => false

/-- The positions one character after those of `s` where the character is accepted. -/
def step (text : List Char) (accepts : Char → Bool) (s : Positions) : Positions :=
  false :: List.zipWith (fun here c => here && accepts c) s text

/-- The positions of `s` and all later ones. -/
def onward (reached : Bool) : Positions → Positions
  | [] => []
  | here :: s => (reached || here) :: onward (reached || here) s

/-- The positions of `s`, and of the later ones those after a slash and the last. -/
def descend (text : List Char) (s : Positions) : Positions :=
  let landings := false :: (text.dropLast.map (· == '/') ++ [true])
  List.zipWith (fun here (later, landing) => here || (later && landing)) s
    (List.zip (s.onward false) landings)

end Positions

end Directory.Text
