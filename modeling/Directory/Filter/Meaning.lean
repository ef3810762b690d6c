import Directory.Decimal
import Directory.Filter.Term
import Directory.Regex.Reader
import Directory.Text.Lower

/-!
# What terms mean

- `Filter.Term.condition`: the condition of a term on an attribute of entries. The attribute is
  interned first, whatever becomes of the rest.
- `Filter.Term.special`: what a term means whose name begins with an underscore.
-/

namespace Directory.Filter

open Text (lower lowerChars)

/-- A term whose name begins with an underscore. -/
inductive Special where
  /-- A limit on how often the question is answered with yes. -/
  | limit (max : Int64)
  /-- A comparison with a random number. -/
  | random (c : Comparator) (n : Int64)
  /-- An edge, perhaps with a condition on the entry it leads to: the number of bytes before the
  text of the condition, and that text. -/
  | edge (d : Direction) (method : Option AttackMethod) (target : Option (Nat × List Char))

/-- A pattern in which runs of stars are written as one star. -/
def squeezeStars : List Char → List Char
  | '*' :: '*' :: l => squeezeStars ('*' :: l)
  | c :: l => c :: squeezeStars l
  | [] => []

namespace Term

/-- The integer that the value denotes. -/
def integer (t : Term) (purpose : String) : Except Rejection Int64 :=
  match Decimal.read? t.value with
  | some n => .ok n
  | none => .error ⟨.notInteger purpose (String.ofList t.value), t.valueOffset⟩

/-- Refuses comparisons other than with the equals sign. -/
def requireEqual (t : Term) : Except Rejection Unit :=
  if t.comparator = .equal then .ok ()
  else
    let subject := t.modifier.elim t.name (·.2)
    .error ⟨.requiresEqual (String.ofList subject) t.comparator, t.valueOffset⟩

/-- Whether the value is a regular expression between slashes. -/
def isRegex (value : List Char) : Bool :=
  2 ≤ value.length && value.head? == some '/' && value.getLast? == some '/'

variable [Regex.Properties]

/-- The condition that the attribute has the value, which may be a pattern. -/
def match? (t : Term) (a : Attribute) (caseSensitive : Bool) : Except Rejection Node :=
  if t.value = ['*'] then .ok (.present a)
  else if isRegex t.value then
    match Regex.read? (!caseSensitive) (String.ofList (t.value.drop 1).dropLast) with
    | some pattern => .ok (.regex a pattern caseSensitive)
    | none => .error ⟨.invalidRegex, t.valueOffset⟩
  else if '?' ∈ t.value ∨ '*' ∈ t.value then
    let text := squeezeStars t.value
    let text := if caseSensitive then text else lowerChars text
    match Glob.read? (String.ofList text) with
    | .ok pattern => .ok (.glob a pattern caseSensitive)
    | .error e => .error ⟨.invalidGlob e, t.valueOffset⟩
  else if caseSensitive then .ok (.equals a (String.ofList t.value))
  else .ok (.equalsFolded a (String.ofList (lowerChars t.value)))

/-- The condition that a term without a modifier, or with the one for letter case, puts on an
attribute. -/
def comparison (t : Term) (a : Attribute) (caseSensitive : Bool) : Except Rejection Node :=
  if t.comparator = .equal then t.match? a caseSensitive
  else do return .compare a t.comparator (← t.integer "numeric comparison")

/-- The condition that a term with a modifier puts on an attribute. -/
def modified (t : Term) (a : Attribute) (offset : Nat) (modifier : String) :
    Except Rejection Node := do
  match modifier with
  | "caseExactMatch" => t.comparison a true
  | "count" => return .count a t.comparator (← t.integer "count modifier")
  | "len" | "length" => return .length a t.comparator (← t.integer "length modifier")
  | "1.2.840.113556.1.4.803" | "and" =>
    t.requireEqual
    return .allBits a (← t.integer "bitwise and")
  | "1.2.840.113556.1.4.804" | "or" =>
    t.requireEqual
    return .anyBit a (← t.integer "bitwise or")
  | "1.2.840.113556.1.4.1941" | "dnchain" =>
    t.requireEqual
    return .chain a (String.ofList t.value)
  | modifier => throw ⟨.unknownModifier modifier, offset⟩

/-- The condition of a term on an attribute of entries, and the registry that knows it. -/
def condition (t : Term) (r : Registry) : Except Rejection Node × Registry :=
  let (a, r) := r.intern (String.ofList t.name)
  (match t.modifier with
    | none => t.comparison a false
    | some (offset, modifier) => t.modified a offset (String.ofList modifier),
   r)

/-- Whether the name of the term begins with an underscore. -/
def isSpecial (t : Term) : Bool :=
  t.name.head? == some '_'

/-- An edge term in the given direction. Its value is a method, where an empty one or a star stands
for any, and perhaps a condition after a comma. -/
def edge (t : Term) (d : Direction) : Except Rejection Special := do
  t.requireEqual
  let word := t.value.takeWhile (· ≠ ',')
  let method ←
    if word = [] ∨ word = ['*'] then pure none
    else match AttackMethod.ofName? word with
      | some m => pure (some m)
      | none => throw ⟨.unknownMethod (String.ofList word), t.valueOffset⟩
  match t.value.dropWhile (· ≠ ',') with
  | [] => return .edge d method none
  | _ :: text => return .edge d method (some (t.valueOffset + byteLength word + 1, text))

/-- What a term means whose name begins with an underscore. -/
def special (t : Term) : Except Rejection Special := do
  let name := String.ofList t.name
  if let some (offset, modifier) := t.modifier then
    throw ⟨.modifierOnSynthetic (String.ofList modifier) name, offset⟩
  match name with
  | "_limit" =>
    t.requireEqual
    return .limit (← t.integer "limit")
  | "_random100" => return .random t.comparator (← t.integer "random100")
  | "_canpwn" => t.edge .canPwn
  | "_pwnable" => t.edge .pwnableBy
  | name => throw ⟨.unknownSynthetic name, t.nameOffset⟩

end Term

end Directory.Filter
