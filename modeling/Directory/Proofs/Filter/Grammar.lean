import Directory.Filter.Printer
import Directory.Filter.Reader

/-!
# The grammar of filter texts

The grammar says which texts are filters and what they mean, without regard to how they are read.
A derivation keeps every character of its text: redundant parentheses, backslashes, and which of
two signs was used for one comparison.

- `Filter.Resolves`: what a text with backslashes spells. `Filter.Paired`: its parentheses pair up.
- `Filter.Spelling`: a term as it is written. `Filter.Spelling.Denotes` is the rule for terms.
- `Filter.ValueMeans`, `Filter.TermMeans`: what a term asks of an attribute.
- `Filter.Derivation`: how a text is a filter. `Filter.Derivation.Yields` says which condition it
  is.
-/

namespace Directory.Filter

open Text (lowerChars)

/-! ## Texts with backslashes -/

/-- Whether the first text spells the second, where a backslash takes the next character as it is.
Stops do not occur without a backslash. -/
inductive Resolves (stops : List Char) : List Char → List Char → Prop where
  | nil : Resolves stops [] []
  | escape {c : Char} {raw l : List Char} :
      Resolves stops raw l → Resolves stops ('\\' :: c :: raw) (c :: l)
  | plain {c : Char} {raw l : List Char} :
      c ≠ '\\' → c ∉ stops → Resolves stops raw l → Resolves stops (c :: raw) (c :: l)

/-- The characters that end a name, or must not occur in it. -/
def nameStops : List Char :=
  [':', ')', '~', '=', '<', '>']

/-- Whether the parentheses without a backslash before them pair up. -/
inductive Paired : List Char → Prop where
  | nil : Paired []
  | escape {c : Char} {l : List Char} : Paired l → Paired ('\\' :: c :: l)
  | plain {c : Char} {l : List Char} : c ∉ ['\\', '(', ')'] → Paired l → Paired (c :: l)
  | nested {l m : List Char} : Paired l → Paired m → Paired ('(' :: l ++ ')' :: m)

/-! ## Terms -/

/-- How a comparison is written. -/
inductive Sign where
  | equal
  | tildeEqual
  | less
  | lessOrEqual
  | greater
  | greaterOrEqual
deriving DecidableEq, Repr

namespace Sign

/-- The characters of a sign. -/
def text : Sign → List Char
  | equal => ['=']
  | tildeEqual => ['~', '=']
  | less => ['<']
  | lessOrEqual => ['<', '=']
  | greater => ['>']
  | greaterOrEqual => ['>', '=']

/-- The comparison that a sign stands for. -/
def comparator : Sign → Comparator
  | equal | tildeEqual => .equal
  | less => .less
  | lessOrEqual => .lessOrEqual
  | greater => .greater
  | greaterOrEqual => .greaterOrEqual

/-- Whether a sign would be a longer one with an equals sign after it. -/
def isOpen : Sign → Bool
  | less | greater => true
  | _ => false

end Sign

/-- A modifier between its colons. -/
def modifierText : Option (List Char) → List Char
  | none => []
  | some m => ':' :: m ++ [':']

/-- A term as it is written, without its parentheses. -/
structure Spelling where
  /-- The name, with backslashes. -/
  name : List Char
  /-- What stands between the colons, if there are any. -/
  modifier : Option (List Char)
  /-- The comparison sign. -/
  sign : Sign
  /-- The value, with backslashes. -/
  value : List Char
deriving DecidableEq, Repr

namespace Spelling

/-- The characters of a term. -/
def text (p : Spelling) : List Char :=
  p.name ++ (modifierText p.modifier ++ (p.sign.text ++ p.value))

/-- The rule for terms: how a term is written that has the given name and value. -/
structure Denotes (p : Spelling) (name value : List Char) : Prop where
  /-- Backslashes in the name are resolved. -/
  named : Resolves nameStops p.name name
  /-- A name is not empty, and does not begin like a group or a filter in parentheses. -/
  start : ∃ c, p.name.head? = some c ∧ c ∉ ['(', '&', '|', '!']
  /-- A modifier extends up to the next colon. -/
  modifier : ∀ m, p.modifier = some m → ':' ∉ m
  /-- The longest sign counts. -/
  sign : p.sign.isOpen = true → p.value.head? ≠ some '='
  /-- Backslashes in the value are resolved, unless it holds a condition. -/
  value : if Term.holdsCondition name then Paired p.value ∧ p.value = value
    else Resolves [')'] p.value value

end Spelling

/-! ## What terms mean -/

/-- Whether a value is a regular expression between slashes. -/
def Slashed (value : List Char) : Prop :=
  ∃ source, value = '/' :: source ++ ['/']

/-- Whether a value has a wildcard. -/
def Wild (value : List Char) : Prop :=
  '?' ∈ value ∨ '*' ∈ value

/-- The text of a pattern, folded where letter case is ignored. -/
def globText (caseSensitive : Bool) (value : List Char) : List Char :=
  if caseSensitive then squeezeStars value else lowerChars (squeezeStars value)

variable [Regex.Properties]

/-- What a value asks of an attribute when it is compared for equality. -/
inductive ValueMeans (a : Attribute) (caseSensitive : Bool) : List Char → Node → Prop where
  | present : ValueMeans a caseSensitive ['*'] (.present a)
  | regex {source : List Char} {pattern : Regex} :
      Regex.read? (!caseSensitive) (String.ofList source) = some pattern →
      ValueMeans a caseSensitive ('/' :: source ++ ['/']) (.regex a pattern caseSensitive)
  | glob {value : List Char} {pattern : Glob} :
      value ≠ ['*'] → ¬ Slashed value → Wild value →
      Glob.read? (String.ofList (globText caseSensitive value)) = .ok pattern →
      ValueMeans a caseSensitive value (.glob a pattern caseSensitive)
  | equals {value : List Char} :
      caseSensitive = true → ¬ Slashed value → ¬ Wild value →
      ValueMeans a caseSensitive value (.equals a (String.ofList value))
  | equalsFolded {value : List Char} :
      caseSensitive = false → ¬ Slashed value → ¬ Wild value →
      ValueMeans a caseSensitive value (.equalsFolded a (String.ofList (lowerChars value)))

/-- The modifier that says whether letter case matters. -/
def caseWord (caseSensitive : Bool) : Option String :=
  if caseSensitive then some "caseExactMatch" else none

/-- What a term asks of an attribute. -/
inductive TermMeans (a : Attribute) (modifier : Option String) (c : Comparator)
    (value : List Char) : Node → Prop where
  | equal {n : Node} (caseSensitive : Bool) :
      modifier = caseWord caseSensitive → c = .equal → ValueMeans a caseSensitive value n →
      TermMeans a modifier c value n
  | compare {n : Int64} (caseSensitive : Bool) :
      modifier = caseWord caseSensitive → c ≠ .equal → Decimal.read? value = some n →
      TermMeans a modifier c value (.compare a c n)
  | count {n : Int64} :
      modifier = some "count" → Decimal.read? value = some n →
      TermMeans a modifier c value (.count a c n)
  | length {n : Int64} :
      modifier ∈ [some "len", some "length"] → Decimal.read? value = some n →
      TermMeans a modifier c value (.length a c n)
  | allBits {mask : Int64} :
      modifier ∈ [some "1.2.840.113556.1.4.803", some "and"] → c = .equal →
      Decimal.read? value = some mask → TermMeans a modifier c value (.allBits a mask)
  | anyBit {mask : Int64} :
      modifier ∈ [some "1.2.840.113556.1.4.804", some "or"] → c = .equal →
      Decimal.read? value = some mask → TermMeans a modifier c value (.anyBit a mask)
  | chain :
      modifier ∈ [some "1.2.840.113556.1.4.1941", some "dnchain"] → c = .equal →
      TermMeans a modifier c value (.chain a (String.ofList value))

/-- What the word for a method stands for. -/
inductive WordMeans : List Char → Option AttackMethod → Prop where
  | empty : WordMeans [] none
  | star : WordMeans ['*'] none
  | method {word : List Char} {m : AttackMethod} :
      AttackMethod.ofName? word = some m → WordMeans word (some m)

/-! ## Derivations -/

/-- How a text is a filter. -/
inductive Derivation where
  /-- A filter in further parentheses. -/
  | wrapped (d : Derivation)
  /-- All of one or more filters. -/
  | all (d : Derivation) (ds : List Derivation)
  /-- One of one or more filters. -/
  | any (d : Derivation) (ds : List Derivation)
  /-- A filter that must not hold. -/
  | not (d : Derivation)
  /-- A term. -/
  | term (p : Spelling)
  /-- An edge term with a condition: its name and sign, the word for the method, and the
  condition. -/
  | edgeTo (name : List Char) (sign : Sign) (word : List Char) (target : Derivation)

namespace Derivation

mutual

/-- The characters of a derivation. -/
def text : Derivation → List Char
  | wrapped d => '(' :: d.text ++ [')']
  | all d ds => '(' :: '&' :: (d.text ++ textAmong ds) ++ [')']
  | any d ds => '(' :: '|' :: (d.text ++ textAmong ds) ++ [')']
  | not d => '(' :: '!' :: d.text ++ [')']
  | term p => '(' :: p.text ++ [')']
  | edgeTo name sign word d =>
    '(' :: Spelling.text ⟨name, none, sign, word ++ ',' :: d.text⟩ ++ [')']

/-- The characters of several derivations, one after the other. -/
def textAmong : List Derivation → List Char
  | [] => []
  | d :: ds => d.text ++ textAmong ds

end

end Derivation

/-- What is known before and after a filter: the attributes, and the slot of the next limit. -/
structure Knowledge where
  /-- The attributes known by then. -/
  registry : Registry
  /-- The slot of the next limit. -/
  nextSlot : Nat

namespace Knowledge

/-- The attribute of a name. -/
def attributeOf (k : Knowledge) (name : List Char) : Attribute :=
  (k.registry.intern (String.ofList name)).1

/-- What is known after a name was seen. -/
def seen (k : Knowledge) (name : List Char) : Knowledge :=
  { k with registry := (k.registry.intern (String.ofList name)).2 }

/-- What is known after a limit. -/
def limited (k : Knowledge) : Knowledge :=
  { k with nextSlot := k.nextSlot + 1 }

end Knowledge

namespace Derivation

mutual

/-- The condition of a derivation, with what is known before and after it. -/
inductive Yields : Derivation → Knowledge → Node → Knowledge → Prop where
  | wrapped {d : Derivation} {k k' : Knowledge} {n : Node} :
      Yields d k n k' → Yields (.wrapped d) k n k'
  | all {d : Derivation} {ds : List Derivation} {k k' : Knowledge} {ns : List Node} :
      YieldsAmong (d :: ds) k ns k' → Yields (.all d ds) k (.all ns) k'
  | any {d : Derivation} {ds : List Derivation} {k k' : Knowledge} {ns : List Node} :
      YieldsAmong (d :: ds) k ns k' → Yields (.any d ds) k (.any ns) k'
  | not {d : Derivation} {k k' : Knowledge} {n : Node} :
      Yields d k n k' → Yields (.not d) k (.not n) k'
  | ordinary {p : Spelling} {name value : List Char} {k : Knowledge} {n : Node} :
      p.Denotes name value → name.head? ≠ some '_' →
      TermMeans (k.attributeOf name) (p.modifier.map String.ofList) p.sign.comparator value n →
      Yields (.term p) k n (k.seen name)
  | limit {p : Spelling} {value : List Char} {k : Knowledge} {max : Int64} :
      p.Denotes "_limit".toList value → p.modifier = none → p.sign.comparator = .equal →
      Decimal.read? value = some max →
      Yields (.term p) k (.limit k.nextSlot max) k.limited
  | random {p : Spelling} {value : List Char} {k : Knowledge} {n : Int64} :
      p.Denotes "_random100".toList value → p.modifier = none →
      Decimal.read? value = some n →
      Yields (.term p) k (.random p.sign.comparator n) k
  | edge {p : Spelling} {e : Direction} {value : List Char} {k : Knowledge}
      {m : Option AttackMethod} :
      p.Denotes (directionWord e).toList value → p.modifier = none →
      p.sign.comparator = .equal → ',' ∉ value → WordMeans value m →
      Yields (.term p) k (.edge e m) k
  | edgeTo {name : List Char} {sign : Sign} {word : List Char} {d : Derivation} {e : Direction}
      {k k' : Knowledge} {m : Option AttackMethod} {n : Node} :
      Spelling.Denotes ⟨name, none, sign, word ++ ',' :: d.text⟩ (directionWord e).toList
        (word ++ ',' :: d.text) →
      sign.comparator = .equal → ',' ∉ word → WordMeans word m →
      leastBytes ≤ byteLength d.text → Yields d k n k' →
      Yields (.edgeTo name sign word d) k (.edgeTo e m n) k'

/-- The conditions of several derivations. What one of them makes known is known to the next. -/
inductive YieldsAmong : List Derivation → Knowledge → List Node → Knowledge → Prop where
  | nil {k : Knowledge} : YieldsAmong [] k [] k
  | cons {d : Derivation} {ds : List Derivation} {k k' k'' : Knowledge} {n : Node}
      {ns : List Node} :
      Yields d k n k' → YieldsAmong ds k' ns k'' → YieldsAmong (d :: ds) k (n :: ns) k''

end

end Derivation

end Directory.Filter
