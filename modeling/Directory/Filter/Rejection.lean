import Directory.Filter.Basic

/-!
# Why a filter is rejected

- `Filter.Fault`: the causes, with a code for programs and a message for people.
- `Filter.Rejection`: a fault and the place of it, counted in bytes from the start of the text.
-/

namespace Directory.Filter

/-- What is wrong with the text of a filter. -/
inductive Fault where
  /-- The text is too short to hold a term. -/
  | tooShort (bytes : Nat)
  /-- The condition on the entries at the end of an edge is too short to hold a term. -/
  | targetTooShort (text : String)
  /-- The text begins with something else than a parenthesis. -/
  | startsUnopened
  /-- The text ends with something else than a parenthesis. -/
  | endsUnclosed
  /-- An opening parenthesis is missing. -/
  | expectedOpen
  /-- A closing parenthesis is missing before this character, or before the end. -/
  | expectedClose (found : Option Char)
  /-- A closing parenthesis stands in an attribute name. -/
  | closeInName
  /-- The text ends after an opening parenthesis. -/
  | endsAfterOpen
  /-- The text ends after a backslash. -/
  | endsAfterBackslash
  /-- The text ends within an attribute name. -/
  | endsInName
  /-- The text ends within a modifier. -/
  | endsInModifier
  /-- The text ends before a comparison sign. -/
  | endsBeforeComparator
  /-- The text ends within a value. -/
  | endsInValue
  /-- A group has no members. -/
  | emptyGroup
  /-- An attribute name is empty. -/
  | emptyName
  /-- A tilde stands before something else than an equals sign. -/
  | loneTilde
  /-- This character stands where a comparison sign should. -/
  | expectedComparator (found : Char)
  /-- The modifier or attribute goes with the equals sign only. -/
  | requiresEqual (subject : String) (found : Comparator)
  /-- There is no such modifier. -/
  | unknownModifier (modifier : String)
  /-- Attributes whose names begin with an underscore take no modifiers. -/
  | modifierOnSynthetic (modifier name : String)
  /-- There is no such attribute among those whose names begin with an underscore. -/
  | unknownSynthetic (name : String)
  /-- The value is no integer. -/
  | notInteger (purpose value : String)
  /-- The value is no regular expression. -/
  | invalidRegex
  /-- The value is no glob pattern. -/
  | invalidGlob (e : Glob.Error)
  /-- There is no such attack method. -/
  | unknownMethod (name : String)
  /-- The filter is followed by this. -/
  | trailing (rest : String)
deriving DecidableEq, Repr

/-- The code of a fault. -/
def Fault.code : Fault → String
  | tooShort _ | targetTooShort _ => "DQ_QUERY_TOO_SHORT"
  | startsUnopened | endsUnclosed | expectedOpen | expectedClose _ | closeInName =>
    "DQ_QUERY_UNBALANCED"
  | endsAfterOpen | endsAfterBackslash | endsInName | endsInModifier | endsBeforeComparator
  | endsInValue => "DQ_QUERY_TRUNCATED"
  | emptyGroup => "DQ_QUERY_EMPTY_GROUP"
  | emptyName => "DQ_QUERY_EMPTY_ATTRIBUTE"
  | loneTilde | expectedComparator _ | requiresEqual _ _ => "DQ_QUERY_INVALID_COMPARATOR"
  | unknownModifier _ | modifierOnSynthetic _ _ => "DQ_QUERY_UNKNOWN_MODIFIER"
  | unknownSynthetic _ => "DQ_QUERY_UNKNOWN_SYNTHETIC"
  | notInteger _ _ => "DQ_QUERY_NOT_INTEGER"
  | invalidRegex => "DQ_QUERY_INVALID_REGEX"
  | invalidGlob _ => "DQ_QUERY_INVALID_GLOB"
  | unknownMethod _ => "DQ_QUERY_UNKNOWN_METHOD"
  | trailing _ => "DQ_QUERY_TRAILING_DATA"

/-- The wording of a fault. -/
def Fault.message : Fault → String
  | tooShort bytes => "Query string too short (" ++ toString bytes ++ " bytes, minimum 5)"
  | targetTooShort text => "Nested target filter too short: '" ++ text ++ "'"
  | startsUnopened => "Query must start with '('"
  | endsUnclosed => "Query must end with ')'"
  | expectedOpen => "Expected '('"
  | expectedClose (some c) => "Expected ')', found '" ++ c.toString ++ "'"
  | expectedClose none => "Expected ')' at end of input"
  | closeInName => "Unexpected ')' in attribute name"
  | endsAfterOpen => "Query ends after '('"
  | endsAfterBackslash => "Escape at end of input"
  | endsInName => "Incomplete attribute name"
  | endsInModifier => "Modifier has no closing ':'"
  | endsBeforeComparator => "Missing comparator"
  | endsInValue => "Incomplete value"
  | emptyGroup => "Group must contain at least one subquery"
  | emptyName => "Attribute name is empty"
  | loneTilde => "'~' must be followed by '='"
  | expectedComparator c => "Expected comparator, found '" ++ c.toString ++ "'"
  | requiresEqual subject found =>
    "'" ++ subject ++ "' requires the '=' comparator, found '" ++ found.symbol ++ "'"
  | unknownModifier modifier => "Unknown modifier '" ++ modifier ++ "'"
  | modifierOnSynthetic modifier name =>
    "Modifier '" ++ modifier ++ "' is not supported on synthetic attribute '" ++ name ++ "'"
  | unknownSynthetic name => "Unknown synthetic attribute '" ++ name ++ "'"
  | notInteger purpose value =>
    "Could not convert '" ++ value ++ "' to integer for " ++ purpose
  | invalidRegex => "Invalid regular expression"
  | invalidGlob e => "Invalid glob pattern: " ++ e.message
  | unknownMethod name => "Could not convert '" ++ name ++ "' to an attack method"
  | trailing rest => "Extra data after query: '" ++ rest ++ "'"

/-- A fault, and where it is. -/
structure Rejection where
  /-- What is wrong. -/
  fault : Fault
  /-- The number of bytes before the place. -/
  offset : Nat
deriving DecidableEq, Repr

namespace Rejection

/-- The wording of a rejection, with its place. -/
def reason (e : Rejection) : String :=
  e.fault.message ++ " (at offset " ++ toString e.offset ++ ")"

/-- The whole report of a rejection: severity, code and wording. -/
def report (e : Rejection) : String :=
  "[REJECT] " ++ e.fault.code ++ ": " ++ e.reason

end Rejection

end Directory.Filter
