import Directory.Regex.Property
import Directory.Text.Blank
import Directory.Text.Word

/-!
# Properties with tables

The properties whose characters the other parts of the library know as well: the blanks, the decimal
digits, ASCII, and everything. A name without a table is the name of no property here.

- `Regex.PropertyName.norm`: what is left of a name without the differences that do not count.
- `Regex.standardProperties`: the properties with tables.
-/

namespace Directory.Regex

open Text (CodePoints)

namespace PropertyName

/-- The characters after the word that a name of a property may begin with. -/
def dropIs : List Char → List Char
  | 'i' :: 's' :: l | 'i' :: 'S' :: l | 'I' :: 's' :: l | 'I' :: 'S' :: l => l
  | l => l

/-- What is left of a name without letter case, blanks, low lines, hyphens, characters outside ASCII
and the word that it may begin with. -/
def norm (name : List Char) : String :=
  String.ofList <| (dropIs name).filterMap fun c =>
    if c == ' ' || c == '_' || c == '-' || 0x80 ≤ c.toNat then none else some c.toLower

end PropertyName

/-- The characters of a general category. -/
def category? : String → Option CodePoints
  | "any" => some ⟨[(0, CodePoints.greatest)]⟩
  | "ascii" => some ⟨[(0, 0x7F)]⟩
  | "nd" | "decimalnumber" | "digit" => some Text.decimalDigits
  | _ => none

/-- The characters of a property. -/
def PropertyName.members? : PropertyName → Option CodePoints
  | plain name =>
    match norm name with
    | "wspace" | "whitespace" | "space" => some Text.blanks
    | name => category? name
  | valued name value =>
    match norm name with
    | "gc" | "generalcategory" => category? (norm value)
    | _ => none

/-- The properties with tables. -/
instance standardProperties : Properties where
  ranges? name := name.members?.map fun s =>
    s.ranges.map fun (first, last) => (Char.ofNat first, Char.ofNat last)

end Directory.Regex
