import Directory.Proofs.Filter.Shifting

/-!
# Reading by byte positions

A text can be read without carrying its rest along: the reader keeps a byte position and cuts the
rest out of the text each time it looks at a character. Such a reader goes astray if it ever cuts
outside of the text or inside a character. Here it is written down with every cut that it makes, and
with the conditions at the ends of edges as texts of their own, each with the place it is said to
come from.

- `Filter.cut?`: the two parts of a text at a byte position.
- `Filter.Source`: a text that is read by positions, and the number of bytes said to stand before
  it.
- `Filter.Stop`: a cut that cannot be made, or a rejection. `Filter.Located`: a rejection, with the
  conditions at the ends of edges that it was found in.
- `Filter.slicedRead`, `Filter.slicedReadStart`: reading by positions.
-/

namespace Directory.Filter

/-- The two parts of a text at a byte position, unless it is outside of the text or inside a
character. -/
def cut? : Nat → List Char → Option (List Char × List Char)
  | 0, l => some ([], l)
  | _ + 1, [] => none
  | n + 1, c :: l =>
    if c.utf8Size ≤ n + 1 then
      (cut? (n + 1 - c.utf8Size) l).map fun (front, rest) => (c :: front, rest)
    else none

/-- Why a reading by positions stops. -/
inductive Stop (ε : Type) where
  /-- A cut is outside of the text or inside a character, or more characters were asked for than
  there are. -/
  | astray
  /-- The text is rejected. -/
  | rejected (e : ε)

/-- A text that is read by positions: that of a filter, or of a condition at the end of an edge. -/
structure Source where
  /-- The text. -/
  text : List Char
  /-- The number of bytes of the whole text before it. -/
  base : Nat
deriving DecidableEq, Repr

namespace Source

section Parts

variable {ε α : Type} (v : Source)

/-- The rest of the text from a position on. -/
def rest (pos : Nat) : Except (Stop ε) (List Char) :=
  match cut? pos v.text with
  | some (_, rest) => .ok rest
  | none => .error .astray

/-- The character at a position, if the text does not end there. -/
def peek (pos : Nat) : Except (Stop ε) (Option Char) := do
  return (← v.rest pos).head?

/-- The character at a position, and the position after it. -/
def bump (pos : Nat) : Except (Stop ε) (Option Char × Nat) := do
  match ← v.peek pos with
  | some c => return (some c, pos + c.utf8Size)
  | none => return (none, pos)

/-- Rejects the text at a position. -/
def refuse (pos : Nat) (fault : Fault) : Except (Stop Rejection) α :=
  .error (.rejected ⟨fault, v.base + pos⟩)

/-- The character after a backslash, and the position after it. -/
def escapedAt (pos : Nat) : Except (Stop Rejection) (Char × Nat) := do
  let (_, next) ← v.bump pos
  match ← v.bump next with
  | (some c, next) => return (c, next)
  | (none, _) => v.refuse pos .endsAfterBackslash

/-- A name, and the position of what ends it. -/
def nameAt : Nat → Nat → Except (Stop Rejection) (List Char × Nat)
  | 0, _ => .error .astray
  | fuel + 1, pos => do
    match ← v.peek pos with
    | none => v.refuse pos .endsInName
    | some c =>
      if c = '\\' then
        let (c, next) ← v.escapedAt pos
        let (name, next) ← nameAt fuel next
        return (c :: name, next)
      else if c = ')' then v.refuse pos .closeInName
      else if c ∈ [':', '~', '=', '<', '>'] then return ([], pos)
      else
        let (_, next) ← v.bump pos
        let (name, next) ← nameAt fuel next
        return (c :: name, next)

/-- A modifier, with its place, if there is a colon at the position, and the position after it. -/
def modifierAt (pos : Nat) : Except (Stop Rejection) (Option (Nat × List Char) × Nat) := do
  if (← v.peek pos) = some ':' then
    let (_, start) ← v.bump pos
    let rest ← v.rest start
    if ':' ∈ rest then
      let length := byteLength (rest.takeWhile (· ≠ ':'))
      match cut? length rest with
      | some (modifier, _) => return (some (v.base + pos, modifier), start + length + 1)
      | none => .error .astray
    else v.refuse pos .endsInModifier
  else return (none, pos)

/-- One of two comparisons, of which the second has an equals sign more. -/
def orEqualAt (strict inclusive : Comparator) (pos : Nat) :
    Except (Stop Rejection) (Comparator × Nat) := do
  if (← v.peek pos) = some '=' then
    let (_, next) ← v.bump pos
    return (inclusive, next)
  else return (strict, pos)

/-- A comparison sign, and the position after it. -/
def comparatorAt (pos : Nat) : Except (Stop Rejection) (Comparator × Nat) := do
  match ← v.bump pos with
  | (none, _) => v.refuse pos .endsBeforeComparator
  | (some c, next) =>
    if c = '=' then return (.equal, next)
    else if c = '~' then
      let (d, next) ← v.bump next
      if d = some '=' then return (.equal, next) else v.refuse pos .loneTilde
    else if c = '<' then v.orEqualAt .less .lessOrEqual next
    else if c = '>' then v.orEqualAt .greater .greaterOrEqual next
    else v.refuse pos (.expectedComparator c)

/-- A value, and the position after the parenthesis that ends it. -/
def valueAt (verbatim : Bool) : Nat → Nat → Nat → Except (Stop Rejection) (List Char × Nat)
  | 0, _, _ => .error .astray
  | fuel + 1, depth, pos => do
    match ← v.peek pos with
    | none => v.refuse pos .endsInValue
    | some c =>
      if c = '\\' then
        let (c, next) ← v.escapedAt pos
        let (value, next) ← valueAt verbatim fuel depth next
        return (if verbatim then '\\' :: c :: value else c :: value, next)
      else
        let (_, next) ← v.bump pos
        if c = ')' ∧ depth = 0 then return ([], next)
        else
          let depth :=
            if c = ')' then depth - 1 else if c = '(' ∧ verbatim then depth + 1 else depth
          let (value, next) ← valueAt verbatim fuel depth next
          return (c :: value, next)

/-- The parts of a term, and the position after it. -/
def termAt (pos : Nat) : Except (Stop Rejection) (Term × Nat) := do
  let fuel := v.text.length + 1
  let (name, next) ← v.nameAt fuel pos
  let (modifier, next) ← v.modifierAt next
  if name.isEmpty then v.refuse pos .emptyName
  let (comparator, next) ← v.comparatorAt next
  let valueOffset := v.base + next
  let (value, next) ← v.valueAt (Term.holdsCondition name) fuel 0 next
  return ({ name, nameOffset := v.base + pos, modifier, comparator, value, valueOffset }, next)

end Parts

end Source

/-- The text between the slashes of a value, cut out by positions. -/
def betweenSlashes (value : List Char) : Except (Stop Rejection) (List Char) :=
  match cut? (byteLength value - 1) value with
  | some (front, _) =>
    match cut? 1 front with
    | some (_, source) => .ok source
    | none => .error .astray
  | none => .error .astray

/-- How far a reading by positions has come. -/
structure Standing where
  /-- The position in the text. -/
  pos : Nat
  /-- The attributes known so far. -/
  registry : Registry
  /-- The slot of the next limit. -/
  nextSlot : Nat

/-- A rejected text, and where in it the fault was found. -/
structure Located where
  /-- The rejection, and the attributes known by then. -/
  failure : Failure
  /-- The conditions at the ends of edges in which the fault was found, from the outermost in. -/
  within : List Source

/-- What stops the reading of a term, given what is known. -/
def Stop.known (r : Registry) : Stop Rejection → Stop Located
  | astray => astray
  | rejected e => rejected ⟨⟨e, r⟩, []⟩

/-- Notes that what stops a reading was found in a text. -/
def Stop.inside (v : Source) : Stop Located → Stop Located
  | astray => astray
  | rejected e => rejected { e with within := v :: e.within }

/-- Rejects a text outside of conditions at the ends of edges. -/
def stopWith {α : Type} (e : Rejection) (r : Registry) : Except (Stop Located) α :=
  .error (.rejected ⟨⟨e, r⟩, []⟩)

namespace Source

section Steps

variable {α : Type} (v : Source) (s : Standing)

/-- Rejects the text at the position. -/
def fail (fault : Fault) : Except (Stop Located) α :=
  stopWith ⟨fault, v.base + s.pos⟩ s.registry

/-- Passes a character. -/
def skip : Except (Stop Located) Standing := do
  let (_, pos) ← v.bump s.pos
  return { s with pos }

/-- Reads an opening parenthesis. -/
def openAt : Except (Stop Located) Standing := do
  if (← v.peek s.pos) = some '(' then v.skip s else v.fail s .expectedOpen

/-- Reads a closing parenthesis. -/
def closeAt : Except (Stop Located) Standing := do
  let found ← v.peek s.pos
  if found = some ')' then v.skip s else v.fail s (.expectedClose found)

end Steps

end Source

variable [Regex.Properties]

mutual

/-- The condition at a position. -/
def queryAt : Nat → Source → Standing → Except (Stop Located) (Node × Standing)
  | 0, v, s => v.fail s .expectedOpen
  | fuel + 1, v, s => do
    let s ← v.openAt s
    match ← v.peek s.pos with
    | none => v.fail s .endsAfterOpen
    | some c =>
      if c = '(' then
        let (n, s) ← queryAt fuel v s
        return (n, ← v.closeAt s)
      else if c = '&' then
        let (ns, s) ← groupAt fuel v (← v.skip s)
        return (.all ns, s)
      else if c = '|' then
        let (ns, s) ← groupAt fuel v (← v.skip s)
        return (.any ns, s)
      else if c = '!' then
        let (n, s) ← queryAt fuel v (← v.skip s)
        return (.not n, ← v.closeAt s)
      else conditionAt fuel v s

/-- The conditions of a group up to the parenthesis that closes it. -/
def groupAt : Nat → Source → Standing → Except (Stop Located) (List Node × Standing)
  | 0, v, s => v.fail s (.expectedClose none)
  | fuel + 1, v, s => do
    let (ns, t) ← queriesAt fuel v s
    if (← v.peek t.pos) = some ')' ∧ ns = [] then v.fail s .emptyGroup
    else return (ns, ← v.closeAt t)

/-- As many conditions as follow one another. -/
def queriesAt : Nat → Source → Standing → Except (Stop Located) (List Node × Standing)
  | 0, _, s => .ok ([], s)
  | fuel + 1, v, s => do
    if (← v.peek s.pos) = some '(' then
      let (n, s) ← queryAt fuel v s
      let (ns, s) ← queriesAt fuel v s
      return (n :: ns, s)
    else return ([], s)

/-- The condition of a term whose opening parenthesis has been passed. A value between slashes is
cut in any case, even if it is not taken as a regular expression. -/
def conditionAt : Nat → Source → Standing → Except (Stop Located) (Node × Standing)
  | 0, v, s => v.fail s .endsInName
  | fuel + 1, v, s => do
    let (t, pos) ← (v.termAt s.pos).mapError (Stop.known s.registry)
    if t.isSpecial then
      match t.special with
      | .error e => stopWith e s.registry
      | .ok (.limit max) => return (.limit s.nextSlot max, ⟨pos, s.registry, s.nextSlot + 1⟩)
      | .ok (.random c n) => return (.random c n, { s with pos })
      | .ok (.edge d m none) => return (.edge d m, { s with pos })
      | .ok (.edge d m (some (base, text))) =>
        let (n, inner) ← targetAt fuel ⟨text, base⟩ { s with pos := 0 }
        return (.edgeTo d m n, { inner with pos })
    else
      if Term.isRegex t.value then
        let _ ← (betweenSlashes t.value).mapError (Stop.known s.registry)
      match t.condition s.registry with
      | (.error e, r) => stopWith e r
      | (.ok n, r) => return (n, ⟨pos, r, s.nextSlot⟩)

/-- The condition at the end of an edge, which is a text of its own. -/
def targetAt : Nat → Source → Standing → Except (Stop Located) (Node × Standing)
  | 0, v, s => v.fail s (.targetTooShort "")
  | fuel + 1, v, s =>
    Except.mapError (Stop.inside v) do
      if byteLength v.text < leastBytes then
        v.fail s (.targetTooShort (String.ofList v.text))
      let (n, t) ← queryAt fuel v s
      if t.pos < byteLength v.text then
        let rest ← v.rest t.pos
        v.fail t (.trailing (String.ofList rest))
      return (n, t)

end

/-- The filter at the start of a text with what follows it, and the attributes known by then, read
by positions. -/
def slicedReadStart (r : Registry) (text : String) :
    Except (Stop Located) ((Filter × List Char) × Registry) :=
  let v : Source := ⟨text.toList, 0⟩
  let bytes := byteLength v.text
  if bytes < leastBytes then stopWith ⟨.tooShort bytes, 0⟩ r
  else if v.text.head? ≠ some '(' then stopWith ⟨.startsUnopened, 0⟩ r
  else if v.text.getLast? ≠ some ')' then stopWith ⟨.endsUnclosed, bytes⟩ r
  else do
    let (n, s) ← queryAt (3 * v.text.length) v ⟨0, r, 0⟩
    let rest ← v.rest s.pos
    return ((ofNode n, rest), s.registry)

/-- The filter that a whole text spells, and the attributes known by then, read by positions. -/
def slicedRead (r : Registry) (text : String) : Except (Stop Located) (Filter × Registry) := do
  let ((f, rest), r) ← slicedReadStart r text
  if rest ≠ [] then
    let offset := byteLength text.toList - byteLength rest
    stopWith ⟨.trailing (String.ofList rest), offset⟩ r
  return (f, r)

end Directory.Filter
