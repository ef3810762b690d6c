/-!
# Properties of characters

An expression can name a class by a property that its members have, such as the script they belong
to. Which properties there are, and which characters have them, is data of the Unicode standard that
fills tables of hundreds of pages. Here it is taken as given.

- `Regex.PropertyName`: what an expression calls a property.
- `Regex.PropertyName.ofText`: the property that a text in braces names.
- `Regex.Properties`: the characters of each property.
-/

namespace Directory.Regex

/-- What an expression calls a property. -/
inductive PropertyName where
  /-- The name of a property, of a category or of a script. -/
  | plain (name : List Char)
  /-- The name of a property and one of its values. -/
  | valued (name value : List Char)
deriving DecidableEq, Repr

/-- The text before the first place where the mark stands, and the text after the mark. -/
def splitAt? (mark : List Char) : List Char → Option (List Char × List Char)
  | [] => none
  | c :: l =>
    if mark.isPrefixOf (c :: l) then some ([], (c :: l).drop mark.length)
    else (splitAt? mark l).map fun (before, after) => (c :: before, after)

/-- The property that a text in braces names, and whether the characters without it are meant. -/
def PropertyName.ofText (text : List Char) : Bool × PropertyName :=
  match splitAt? ['!', '='] text with
  | some (name, value) => (true, valued name value)
  | none =>
    match (splitAt? [':'] text).or (splitAt? ['='] text) with
    | some (name, value) => (false, valued name value)
    | none => (false, plain text)

/-- The properties that expressions can name. -/
class Properties where
  /-- The characters of a property, in ranges. -/
  ranges? : PropertyName → Option (List (Char × Char))

end Directory.Regex
