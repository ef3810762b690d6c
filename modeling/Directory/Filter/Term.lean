import Directory.Filter.Rejection

/-!
# Terms of filter texts

A term is a name, perhaps a modifier between colons, a comparison sign and a value. Here its parts
are cut out of the text; what they mean is decided later.

- `Filter.Cursor`: the rest of a text and how far into the whole text it begins.
- `Filter.Term`: the parts of a term. `Filter.Term.read` cuts them out.
- `Filter.nameOf`, `Filter.modifierOf`, `Filter.comparatorOf`, `Filter.valueOf`: one part each.
-/

namespace Directory.Filter

/-- The rest of a text. -/
structure Cursor where
  /-- The characters still to be read. -/
  rest : List Char
  /-- The number of bytes of the whole text before them. -/
  offset : Nat
deriving DecidableEq, Repr

/-- The number of bytes that characters take. -/
def byteLength (l : List Char) : Nat :=
  l.foldr (fun c n => c.utf8Size + n) 0

/-- A name, and a cursor at the colon or comparison sign that ends it. Backslashes are resolved. -/
def nameOf (offset : Nat) : List Char → Except Rejection (List Char × Cursor)
  | [] => .error ⟨.endsInName, offset⟩
  | ['\\'] => .error ⟨.endsAfterBackslash, offset⟩
  | '\\' :: c :: l => do
    let (name, k) ← nameOf (offset + 1 + c.utf8Size) l
    return (c :: name, k)
  | c :: l =>
    if c = ')' then .error ⟨.closeInName, offset⟩
    else if c ∈ [':', '~', '=', '<', '>'] then .ok ([], ⟨c :: l, offset⟩)
    else do
      let (name, k) ← nameOf (offset + c.utf8Size) l
      return (c :: name, k)

/-- A modifier, as the number of bytes before it and its text, if the cursor is at a colon. -/
def modifierOf (k : Cursor) : Except Rejection (Option (Nat × List Char) × Cursor) :=
  match k.rest with
  | ':' :: l =>
    let modifier := l.takeWhile (· ≠ ':')
    match l.dropWhile (· ≠ ':') with
    | [] => .error ⟨.endsInModifier, k.offset⟩
    | _ :: rest => .ok (some (k.offset, modifier), ⟨rest, k.offset + byteLength modifier + 2⟩)
  | _ => .ok (none, k)

/-- A comparison sign. Signs with an equals sign at the end take precedence over those without. -/
def comparatorOf (k : Cursor) : Except Rejection (Comparator × Cursor) :=
  match k.rest with
  | [] => .error ⟨.endsBeforeComparator, k.offset⟩
  | '=' :: l => .ok (.equal, ⟨l, k.offset + 1⟩)
  | '~' :: '=' :: l => .ok (.equal, ⟨l, k.offset + 2⟩)
  | '~' :: _ => .error ⟨.loneTilde, k.offset⟩
  | '<' :: '=' :: l => .ok (.lessOrEqual, ⟨l, k.offset + 2⟩)
  | '<' :: l => .ok (.less, ⟨l, k.offset + 1⟩)
  | '>' :: '=' :: l => .ok (.greaterOrEqual, ⟨l, k.offset + 2⟩)
  | '>' :: l => .ok (.greater, ⟨l, k.offset + 1⟩)
  | c :: _ => .error ⟨.expectedComparator c, k.offset⟩

/-- A value, and a cursor after the parenthesis that ends it. Backslashes are resolved, unless the
value is to be kept verbatim; then parentheses in it must pair up, and `depth` are open. -/
def valueOf (verbatim : Bool) (depth offset : Nat) :
    List Char → Except Rejection (List Char × Cursor)
  | [] => .error ⟨.endsInValue, offset⟩
  | ['\\'] => .error ⟨.endsAfterBackslash, offset⟩
  | '\\' :: c :: l => do
    let (value, k) ← valueOf verbatim depth (offset + 1 + c.utf8Size) l
    return (if verbatim then '\\' :: c :: value else c :: value, k)
  | c :: l =>
    if c = ')' ∧ depth = 0 then .ok ([], ⟨l, offset + 1⟩)
    else do
      let depth :=
        if c = ')' then depth - 1 else if c = '(' ∧ verbatim then depth + 1 else depth
      let (value, k) ← valueOf verbatim depth (offset + c.utf8Size) l
      return (c :: value, k)

/-- The parts of a term. -/
structure Term where
  /-- The name. -/
  name : List Char
  /-- The number of bytes before the name. -/
  nameOffset : Nat
  /-- The number of bytes before the modifier and its text, if there is one. -/
  modifier : Option (Nat × List Char)
  /-- The comparison. -/
  comparator : Comparator
  /-- The value. -/
  value : List Char
  /-- The number of bytes before the value. -/
  valueOffset : Nat
deriving DecidableEq, Repr

namespace Term

/-- Whether values of the name hold conditions of their own. -/
def holdsCondition (name : List Char) : Bool :=
  name == "_canpwn".toList || name == "_pwnable".toList

/-- The term at a cursor that stands after its opening parenthesis, and a cursor after it. -/
def read (k : Cursor) : Except Rejection (Term × Cursor) := do
  let nameOffset := k.offset
  let (name, k) ← nameOf k.offset k.rest
  let (modifier, k) ← modifierOf k
  if name.isEmpty then throw ⟨.emptyName, nameOffset⟩
  let (comparator, k) ← comparatorOf k
  let valueOffset := k.offset
  let (value, k) ← valueOf (holdsCondition name) 0 k.offset k.rest
  return ({ name, nameOffset, modifier, comparator, value, valueOffset }, k)

end Term

end Directory.Filter
