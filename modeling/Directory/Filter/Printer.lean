import Directory.Filter.Basic

/-!
# The canonical text of a filter

- `Filter.render`: the canonical text.
- `Filter.Node.text`: the same as characters, for one condition.
- `Filter.escaped`: a name or value in which the characters of the syntax are marked.
-/

namespace Directory.Filter

/-- Whether a character has a meaning in the syntax of filters. -/
def isSyntax (c : Char) : Bool :=
  c ∈ ['\\', '(', ')', ':', '=', '<', '>', '~']

/-- The characters with a backslash before each that has a meaning in the syntax. -/
def escaped (l : List Char) : List Char :=
  l.flatMap fun c => if isSyntax c then ['\\', c] else [c]

/-- The marked name of an attribute. -/
def nameText (r : Registry) (a : Attribute) : List Char :=
  escaped (r.nameOf a).toList

/-- The word for a direction. -/
def directionWord : Direction → String
  | .canPwn => "_canpwn"
  | .pwnableBy => "_pwnable"

/-- The method of an edge condition. A star stands for any. -/
def methodWord (m : Option AttackMethod) : List Char :=
  match m with
  | some m => m.name.toList
  | none => ['*']

/-- What stands between an attribute and the equals sign where case matters. -/
def caseModifier (caseSensitive : Bool) : List Char :=
  if caseSensitive then ":caseExactMatch:".toList else []

/-- A term: a left side, a middle part such as a comparison sign, and a right side. -/
def termText (left middle right : List Char) : List Char :=
  '(' :: left ++ middle ++ right ++ [')']

namespace Node

mutual

/-- The canonical text of a condition. Edge targets are written as they stand, without marks. -/
def text (r : Registry) : Node → List Char
  | all cs => '(' :: '&' :: textAmong r cs ++ [')']
  | any cs => '(' :: '|' :: textAmong r cs ++ [')']
  | not c => '(' :: '!' :: c.text r ++ [')']
  | present a => termText (nameText r a) ['='] ['*']
  | equals a v => termText (nameText r a) (caseModifier true ++ ['=']) (escaped v.toList)
  | equalsFolded a v => termText (nameText r a) ['='] (escaped v.toList)
  | glob a p cs => termText (nameText r a) (caseModifier cs ++ ['=']) (escaped p.source.toList)
  | regex a p cs =>
    termText (nameText r a) (caseModifier cs ++ ['=']) ('/' :: escaped p.source.toList ++ ['/'])
  | compare a c n => termText (nameText r a) c.symbol.toList (Decimal.digits n)
  | allBits a m => termText (nameText r a) ":and:=".toList (Decimal.digits m)
  | anyBit a m => termText (nameText r a) ":or:=".toList (Decimal.digits m)
  | count a c n => termText (nameText r a) (":count:".toList ++ c.symbol.toList) (Decimal.digits n)
  | length a c n =>
    termText (nameText r a) (":length:".toList ++ c.symbol.toList) (Decimal.digits n)
  | chain a dn => termText (nameText r a) ":dnchain:=".toList (escaped dn.toList)
  | limit _ max => termText "_limit".toList ['='] (Decimal.digits max)
  | random c n => termText "_random100".toList c.symbol.toList (Decimal.digits n)
  | edge d m => termText (directionWord d).toList ['='] (methodWord m)
  | edgeTo d m t => termText (directionWord d).toList ['='] (methodWord m ++ ',' :: t.text r)

/-- The canonical texts of several conditions, one after the other. -/
def textAmong (r : Registry) : List Node → List Char
  | [] => []
  | c :: cs => c.text r ++ textAmong r cs

end

/-- The canonical text of a condition. -/
def render (r : Registry) (n : Node) : String :=
  String.ofList (n.text r)

end Node

/-- The canonical text of a filter. -/
def render (r : Registry) (f : Filter) : String :=
  f.root.render r

end Directory.Filter
