import Directory.Regex.Matching

/-!
# Regular expressions

- `Regex`: a regular expression with the text that spells it.
- `Regex.accepts`: whether it matches somewhere in a text.
-/

namespace Directory

/-- A regular expression. -/
structure Regex where
  /-- The text that spells it. -/
  source : String
  /-- What it means. -/
  expr : Regex.Expr
deriving DecidableEq, Repr

/-- Whether the expression matches somewhere in the text. -/
def Regex.accepts (r : Regex) (text : List Char) : Bool :=
  r.expr.matchesIn text

end Directory
