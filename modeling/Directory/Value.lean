import Directory.Decimal
import Directory.Text.Blank

/-!
# Attribute values

A value is an integer or a text. Queries look at a value through one of two views: its text
(`Value.rendered`) and its integer (`Value.asInt?`).
-/

namespace Directory

/-- A value of an attribute. -/
inductive Value where
  /-- An integer of 64 bits. -/
  | int (n : Int64)
  /-- A text. -/
  | text (s : String)
deriving DecidableEq

namespace Value

/-- The text of a value. -/
def rendered : Value → String
  | int n => Decimal.render n
  | text s => s

/-- The integer of a value: texts count if they spell one, with or without blanks at their ends. -/
def asInt? : Value → Option Int64
  | int n => some n
  | text s => Decimal.read? (Text.trimChars s.toList)

end Value

end Directory
