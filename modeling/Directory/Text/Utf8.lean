import Directory.Text.CodePoints

/-!
# Ranges of characters as bytes

In UTF-8 a character is one to four bytes. The characters of a range are written by finitely many
patterns that give a range of values for each byte.

- `Utf8.BytePattern`: a range of values for each byte of a character.
- `Utf8.cut?`: where a range has to be cut because no one pattern covers it.
- `Utf8.patterns`: the patterns of the characters of a set.
-/

namespace Directory.Text.Utf8

/-- The first and the last value of each byte of a character. -/
abbrev BytePattern := List (Nat × Nat)

/-- The characters of a range. The surrogates are left out. -/
def characters (r : Nat × Nat) : List (Nat × Nat) :=
  [(r.1, min r.2 0xD7FF), (max r.1 0xE000, r.2)].filter fun (a, b) => a ≤ b

/-- The number of code points with the same bytes but for the last one, two or three. -/
def blockSizes : List Nat :=
  [0x40, 0x1000, 0x40000]

/-- Where the second part of the range from `a` to `b` begins if one pattern does not cover it. The
parts have to agree in the number of bytes, and they may differ in a byte only if all later ones take
all their values. -/
def cut? (a b : Nat) : Option Nat :=
  match [0x80, 0x800, 0x10000].find? fun c => a < c && c ≤ b with
  | some c => some c
  | none =>
    if b < 0x80 then none
    else
      blockSizes.findSome? fun size =>
        if a / size = b / size then none
        else if a % size ≠ 0 then some (a - a % size + size)
        else if b % size ≠ size - 1 then some (b - b % size)
        else none

/-- The bytes of the character with a code point. -/
def bytesOf (n : Nat) : List Nat :=
  (String.utf8EncodeChar (Char.ofNat n)).map UInt8.toNat

/-- The patterns of the characters from `a` to `b`, in ascending order. -/
def patternsOfRange (a b : Nat) : List BytePattern :=
  match cut? a b with
  | none => [List.zip (bytesOf a) (bytesOf b)]
  | some c =>
    if _h : a < c ∧ c ≤ b then patternsOfRange a (c - 1) ++ patternsOfRange c b else []
termination_by b - a

/-- The patterns of the characters of a set, in ascending order. -/
def patterns (s : CodePoints) : List BytePattern :=
  s.ranges.flatMap fun r => (characters r).flatMap fun (a, b) => patternsOfRange a b

end Directory.Text.Utf8
