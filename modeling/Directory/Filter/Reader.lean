import Directory.Filter.Meaning

/-!
# Reading filters

A filter is a term in parentheses, a group after `&`, `|` or `!`, or a filter in further
parentheses. Attributes are interned as their terms are read, so a registry comes out of a reading
whether it succeeds or not.

- `Filter.read`: the filter that a whole text spells.
- `Filter.readStart`: the filter at the start of a text, and what follows it.
- `Filter.State`: a cursor together with what reading has learnt so far.
-/

namespace Directory.Filter

/-- How far a reading has come. -/
structure State where
  /-- The rest of the text. -/
  cursor : Cursor
  /-- The attributes known so far. -/
  registry : Registry
  /-- The slot of the next limit. -/
  nextSlot : Nat

/-- A rejected text, and the attributes known by then. -/
structure Failure where
  /-- Why the text is rejected. -/
  rejection : Rejection
  /-- The attributes known by then. -/
  registry : Registry

namespace State

/-- Fails at the cursor. -/
def fail {α : Type} (s : State) (fault : Fault) : Except Failure α :=
  .error ⟨⟨fault, s.cursor.offset⟩, s.registry⟩

/-- Fails elsewhere. -/
def reject {α : Type} (s : State) (e : Rejection) : Except Failure α :=
  .error ⟨e, s.registry⟩

/-- The state after an ASCII character of which `rest` is what follows. -/
def past (s : State) (rest : List Char) : State :=
  { s with cursor := ⟨rest, s.cursor.offset + 1⟩ }

/-- Reads a closing parenthesis. -/
def close (s : State) : Except Failure State :=
  match s.cursor.rest with
  | ')' :: rest => .ok (s.past rest)
  | c :: _ => s.fail (.expectedClose (some c))
  | [] => s.fail (.expectedClose none)

end State

/-- The least number of bytes of a filter. -/
def leastBytes : Nat := 5

variable [Regex.Properties]

mutual

/-- The condition at a cursor. Each nested call is made after a character has been read, so the
first argument is spent no sooner than the text. -/
def query : Nat → State → Except Failure (Node × State)
  | 0, s => s.fail .expectedOpen
  | fuel + 1, s =>
    match s.cursor.rest with
    | '(' :: l =>
      let s := s.past l
      match l with
      | [] => s.fail .endsAfterOpen
      | '(' :: _ => do
        let (n, s) ← query fuel s
        return (n, ← s.close)
      | '&' :: l => do
        let (ns, s) ← group fuel (s.past l)
        return (.all ns, s)
      | '|' :: l => do
        let (ns, s) ← group fuel (s.past l)
        return (.any ns, s)
      | '!' :: l => do
        let (n, s) ← query fuel (s.past l)
        return (.not n, ← s.close)
      | _ => term fuel s
    | _ => s.fail .expectedOpen

/-- The conditions of a group up to the parenthesis that closes it. There must be one. -/
def group : Nat → State → Except Failure (List Node × State)
  | 0, s => s.fail (.expectedClose none)
  | fuel + 1, s => do
    let (ns, t) ← queries fuel s
    match ns, t.cursor.rest with
    | [], ')' :: _ => s.fail .emptyGroup
    | ns, _ => return (ns, ← t.close)

/-- As many conditions as follow one another. -/
def queries : Nat → State → Except Failure (List Node × State)
  | 0, s => .ok ([], s)
  | fuel + 1, s =>
    match s.cursor.rest with
    | '(' :: _ => do
      let (n, s) ← query fuel s
      let (ns, s) ← queries fuel s
      return (n :: ns, s)
    | _ => .ok ([], s)

/-- The condition of a term whose opening parenthesis has been read. -/
def term : Nat → State → Except Failure (Node × State)
  | 0, s => s.fail .endsInName
  | fuel + 1, s =>
    match Term.read s.cursor with
    | .error e => s.reject e
    | .ok (t, k) =>
      let s := { s with cursor := k }
      if t.isSpecial then
        match t.special with
        | .error e => s.reject e
        | .ok (.limit max) => .ok (.limit s.nextSlot max, { s with nextSlot := s.nextSlot + 1 })
        | .ok (.random c n) => .ok (.random c n, s)
        | .ok (.edge d m none) => .ok (.edge d m, s)
        | .ok (.edge d m (some (offset, text))) => do
          let (n, inner) ← target fuel { s with cursor := ⟨text, offset⟩ }
          return (.edgeTo d m n, { inner with cursor := k })
      else
        match t.condition s.registry with
        | (.error e, r) => State.reject { s with registry := r } e
        | (.ok n, r) => .ok (n, { s with registry := r })

/-- The condition on the entries at the end of an edge: the whole text at the cursor. -/
def target : Nat → State → Except Failure (Node × State)
  | 0, s => s.fail (.targetTooShort "")
  | fuel + 1, s => do
    let text := s.cursor.rest
    if byteLength text < leastBytes then s.fail (.targetTooShort (String.ofList text))
    let (n, t) ← query fuel s
    match t.cursor.rest with
    | [] => return (n, t)
    | rest => t.fail (.trailing (String.ofList rest))

end

/-- What came of reading a text, and the attributes known by then. -/
structure Reading (α : Type) where
  /-- The result, or why the text is rejected. -/
  outcome : Except Rejection α
  /-- The attributes known by then. -/
  registry : Registry

/-- The filter at the start of a text, and what follows it. The text as a whole must begin and end
with a parenthesis. -/
def readStart (r : Registry) (text : String) : Reading (Filter × List Char) :=
  let l := text.toList
  let bytes := byteLength l
  if bytes < leastBytes then ⟨.error ⟨.tooShort bytes, 0⟩, r⟩
  else if l.head? ≠ some '(' then ⟨.error ⟨.startsUnopened, 0⟩, r⟩
  else if l.getLast? ≠ some ')' then ⟨.error ⟨.endsUnclosed, bytes⟩, r⟩
  else
    match query (3 * l.length) ⟨⟨l, 0⟩, r, 0⟩ with
    | .ok (n, s) => ⟨.ok (ofNode n, s.cursor.rest), s.registry⟩
    | .error e => ⟨.error e.rejection, e.registry⟩

/-- The filter that a whole text spells. -/
def read (r : Registry) (text : String) : Reading Filter :=
  let reading := readStart r text
  match reading.outcome with
  | .ok (f, []) => ⟨.ok f, reading.registry⟩
  | .ok (_, rest) =>
    let offset := byteLength text.toList - byteLength rest
    ⟨.error ⟨.trailing (String.ofList rest), offset⟩, reading.registry⟩
  | .error e => ⟨.error e, reading.registry⟩

end Directory.Filter
