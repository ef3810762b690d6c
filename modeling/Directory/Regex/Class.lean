import Directory.Text.Blank
import Directory.Text.Fold
import Directory.Text.Word

/-!
# Character classes of regular expressions

A class is a set of code points. Expressions write classes by their members, by names and by
operators on other classes.

- `Regex.Class.named?`: the ASCII classes that have names.
- `Regex.Class.Shorthand`: the digits, the blanks and the word characters, each a class of one
  letter.
- `Regex.Class.Operator`: the operators on classes.
-/

namespace Directory.Regex.Class

open Text (CodePoints)

/-- The class of several ranges of characters. -/
def ofCharRanges (l : List (Char × Char)) : CodePoints :=
  .ofRanges (l.map fun (first, last) => (first.toNat, last.toNat))

/-- The ASCII class of a name. -/
def named? : List Char → Option CodePoints
  | ['a', 'l', 'n', 'u', 'm'] => some (ofCharRanges [('0', '9'), ('A', 'Z'), ('a', 'z')])
  | ['a', 'l', 'p', 'h', 'a'] => some (ofCharRanges [('A', 'Z'), ('a', 'z')])
  | ['a', 's', 'c', 'i', 'i'] => some (ofCharRanges [('\x00', '\x7f')])
  | ['b', 'l', 'a', 'n', 'k'] => some (ofCharRanges [('\t', '\t'), (' ', ' ')])
  | ['c', 'n', 't', 'r', 'l'] => some (ofCharRanges [('\x00', '\x1f'), ('\x7f', '\x7f')])
  | ['d', 'i', 'g', 'i', 't'] => some (ofCharRanges [('0', '9')])
  | ['g', 'r', 'a', 'p', 'h'] => some (ofCharRanges [('!', '~')])
  | ['l', 'o', 'w', 'e', 'r'] => some (ofCharRanges [('a', 'z')])
  | ['p', 'r', 'i', 'n', 't'] => some (ofCharRanges [(' ', '~')])
  | ['p', 'u', 'n', 'c', 't'] =>
    some (ofCharRanges [('!', '/'), (':', '@'), ('[', '\x60'), ('\x7b', '~')])
  | ['s', 'p', 'a', 'c', 'e'] => some (ofCharRanges [('\t', '\r'), (' ', ' ')])
  | ['u', 'p', 'p', 'e', 'r'] => some (ofCharRanges [('A', 'Z')])
  | ['w', 'o', 'r', 'd'] => some (ofCharRanges [('0', '9'), ('A', 'Z'), ('_', '_'), ('a', 'z')])
  | ['x', 'd', 'i', 'g', 'i', 't'] => some (ofCharRanges [('0', '9'), ('A', 'F'), ('a', 'f')])
  | _ => none

/-- The classes that an escaped letter stands for. -/
inductive Shorthand where
  /-- The decimal digits. -/
  | digit
  /-- The blanks. -/
  | blank
  /-- The characters that words are made of. -/
  | word
deriving DecidableEq, Repr

/-- The members of a shorthand class among the characters of all scripts. -/
def Shorthand.members : Shorthand → CodePoints
  | digit => Text.decimalDigits
  | blank => Text.blanks
  | word => Text.wordCharacters

/-- The members of a shorthand class in ASCII. -/
def Shorthand.asciiMembers : Shorthand → CodePoints
  | digit => ofCharRanges [('0', '9')]
  | blank => ofCharRanges [('\t', '\r'), (' ', ' ')]
  | word => ofCharRanges [('0', '9'), ('A', 'Z'), ('_', '_'), ('a', 'z')]

/-- The operators that combine classes. -/
inductive Operator where
  /-- The characters of both. -/
  | inter
  /-- The characters of the left class only. -/
  | diff
  /-- The characters of exactly one. -/
  | symmDiff
deriving DecidableEq, Repr

/-- The class that an operator makes of two. -/
def Operator.apply : Operator → CodePoints → CodePoints → CodePoints
  | inter, s, t => s.inter t
  | diff, s, t => s.diff t
  | symmDiff, s, t => s.symmDiff t

end Directory.Regex.Class
