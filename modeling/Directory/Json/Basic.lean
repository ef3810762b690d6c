/-!
# JSON values

- `Json`: a JSON value as its text spells it out.
- `Json.Number`: what a number literal denotes, as far as documents here use numbers.
-/

namespace Directory

/-- What a number literal denotes. Documents hold integers only, so of all others (those with a
fraction or an exponent, and the negative zero) nothing is kept. -/
inductive Json.Number where
  /-- An integer of any size. -/
  | integer (n : Int)
  /-- A number that is not written as an integer. -/
  | other
deriving DecidableEq, Repr

/-- A JSON value. String literals whose escapes leave a surrogate unpaired denote no text; they are
kept as `none`, also where they are member names. Members stay in the order of the document,
repetitions included. -/
inductive Json where
  /-- The null value. -/
  | null
  /-- A truth value. -/
  | bool (b : Bool)
  /-- A number. -/
  | number (n : Json.Number)
  /-- A string literal. -/
  | text (t : Option String)
  /-- An array. -/
  | list (items : List Json)
  /-- An object. -/
  | record (members : List (Option String × Json))
deriving Inhabited, Repr

end Directory
