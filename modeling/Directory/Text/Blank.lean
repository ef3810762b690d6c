import Directory.Text.CodePoints

/-!
# Blanks

- `isBlank`: the White_Space property, 25 characters.
- `trim`: a text without the blanks at its ends.
-/

namespace Directory.Text

/-- The characters of the White_Space property. -/
def blanks : CodePoints where
  ranges := [
    (0x9, 0xD), (0x20, 0x20), (0x85, 0x85), (0xA0, 0xA0), (0x1680, 0x1680), (0x2000, 0x200A),
    (0x2028, 0x2029), (0x202F, 0x202F), (0x205F, 0x205F), (0x3000, 0x3000)]

/-- Whether the character is a blank. -/
def isBlank (c : Char) : Bool :=
  blanks.contains c.toNat

/-- The characters without the blanks at either end. -/
def trimChars (l : List Char) : List Char :=
  ((l.dropWhile isBlank).reverse.dropWhile isBlank).reverse

/-- The text without the blanks at either end. -/
def trim (s : String) : String :=
  String.ofList (trimChars s.toList)

end Directory.Text
