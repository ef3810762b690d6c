import Directory.Json.Basic
import Directory.Text.Hex

/-!
# Reading JSON

A strict reader: one value, blanks around it, nothing else. Nesting may be of any depth.

- `Json.read?`: the value of a document.
- `Json.value?`: one value at the start of a text, and what follows it.
- `Json.units?`, `Json.joined?`: the code units of a string literal, and the text they denote.
-/

namespace Directory.Json

open Text (hexDigit?)

/-- The characters after the blanks at the start. -/
def skipBlanks (l : List Char) : List Char :=
  l.dropWhile Char.isWhitespace

/-! ## Numbers -/

/-- Whether a fraction follows, and what comes after it. A point needs digits. -/
def fraction? : List Char → Option (Bool × List Char)
  | '.' :: l =>
    if (l.takeWhile Char.isDigit).isEmpty then none else some (true, l.dropWhile Char.isDigit)
  | l => some (false, l)

/-- The characters after an optional sign. -/
def skipSign : List Char → List Char
  | '+' :: l => l
  | '-' :: l => l
  | l => l

/-- Whether an exponent follows, and what comes after it. An exponent needs digits. -/
def exponent? : List Char → Option (Bool × List Char)
  | [] => some (false, [])
  | c :: l =>
    if c = 'e' ∨ c = 'E' then
      let l := skipSign l
      if (l.takeWhile Char.isDigit).isEmpty then none else some (true, l.dropWhile Char.isDigit)
    else some (false, c :: l)

/-- A number without its sign, and what follows it. -/
def magnitude? (negative : Bool) (l : List Char) : Option (Number × List Char) :=
  let ds := l.takeWhile Char.isDigit
  if ds.isEmpty || (ds.head? == some '0' && ds.length != 1) then none
  else do
    let (hasFraction, l) ← fraction? (l.dropWhile Char.isDigit)
    let (hasExponent, l) ← exponent? l
    let n := Nat.ofDigitChars 10 ds 0
    if hasFraction || hasExponent || (negative && n == 0) then some (.other, l)
    else some (.integer (if negative then -(n : Int) else n), l)

/-- A number, and what follows it. -/
def number? : List Char → Option (Number × List Char)
  | '-' :: l => magnitude? true l
  | l => magnitude? false l

/-! ## String literals -/

/-- The character that a backslash and a letter stand for. -/
def escape? : Char → Option Char
  | '"' => some '"'
  | '\\' => some '\\'
  | '/' => some '/'
  | 'b' => some '\x08'
  | 'f' => some '\x0c'
  | 'n' => some '\n'
  | 'r' => some '\r'
  | 't' => some '\t'
  | _ => none

/-- The code units of a string literal whose opening quote has been read, and what follows it. A
character counts as one unit; an escape with four digits may name half of a surrogate pair. -/
def units? : List Char → Option (List Nat × List Char)
  | [] => none
  | '"' :: l => some ([], l)
  | '\\' :: 'u' :: a :: b :: c :: d :: l => do
    let u := (← hexDigit? a) * 4096 + (← hexDigit? b) * 256 + (← hexDigit? c) * 16 + (← hexDigit? d)
    let (us, l) ← units? l
    some (u :: us, l)
  | '\\' :: c :: l => do
    let e ← escape? c
    let (us, l) ← units? l
    some (e.toNat :: us, l)
  | c :: l =>
    if c.toNat < 0x20 ∨ c = '\\' then none
    else do
      let (us, l) ← units? l
      some (c.toNat :: us, l)

/-- Whether the unit is the first half of a surrogate pair. -/
def isHighSurrogate (u : Nat) : Bool :=
  0xD800 ≤ u && u < 0xDC00

/-- Whether the unit is the second half of a surrogate pair. -/
def isLowSurrogate (u : Nat) : Bool :=
  0xDC00 ≤ u && u < 0xE000

/-- The characters that code units denote. A half of a surrogate pair alone denotes none. -/
def joined? : List Nat → Option (List Char)
  | [] => some []
  | u :: us =>
    if isHighSurrogate u then
      match us with
      | v :: us =>
        if isLowSurrogate v then
          (joined? us).map (Char.ofNat ((u - 0xD800) * 0x400 + (v - 0xDC00) + 0x10000) :: ·)
        else none
      | [] => none
    else if isLowSurrogate u then none
    else (joined? us).map (Char.ofNat u :: ·)

/-- The text that code units denote. -/
def textOfUnits? (us : List Nat) : Option String :=
  (joined? us).map String.ofList

/-! ## Values -/

mutual

/-- One value, and what follows it. The first argument bounds the number of nested calls. -/
def value? : Nat → List Char → Option (Json × List Char)
  | 0, _ => none
  | fuel + 1, l =>
    match skipBlanks l with
    | 'n' :: 'u' :: 'l' :: 'l' :: l => some (.null, l)
    | 't' :: 'r' :: 'u' :: 'e' :: l => some (.bool true, l)
    | 'f' :: 'a' :: 'l' :: 's' :: 'e' :: l => some (.bool false, l)
    | '"' :: l => do
      let (us, l) ← units? l
      some (.text (textOfUnits? us), l)
    | '[' :: l =>
      match skipBlanks l with
      | ']' :: l => some (.list [], l)
      | l => do
        let (items, l) ← items? fuel l
        some (.list items, l)
    | '\x7b' :: l =>
      match skipBlanks l with
      | '\x7d' :: l => some (.record [], l)
      | l => do
        let (members, l) ← members? fuel l
        some (.record members, l)
    | l => do
      let (n, l) ← number? l
      some (.number n, l)

/-- The items of a nonempty array up to its closing bracket, and what follows. -/
def items? : Nat → List Char → Option (List Json × List Char)
  | 0, _ => none
  | fuel + 1, l => do
    let (item, l) ← value? fuel l
    match skipBlanks l with
    | ']' :: l => some ([item], l)
    | ',' :: l =>
      let (items, l) ← items? fuel l
      some (item :: items, l)
    | _ => none

/-- The members of a nonempty object up to its closing brace, and what follows. -/
def members? : Nat → List Char → Option (List (Option String × Json) × List Char)
  | 0, _ => none
  | fuel + 1, l =>
    match skipBlanks l with
    | '"' :: l => do
      let (us, l) ← units? l
      match skipBlanks l with
      | ':' :: l =>
        let (value, l) ← value? fuel l
        let member := (textOfUnits? us, value)
        match skipBlanks l with
        | '\x7d' :: l => some ([member], l)
        | ',' :: l =>
          let (members, l) ← members? fuel l
          some (member :: members, l)
        | _ => none
      | _ => none
    | _ => none

end

/-- The value of a document. A value needs no more nested calls than twice its characters. -/
def read? (s : String) : Option Json :=
  match value? (2 * s.toList.length + 1) s.toList with
  | some (value, l) => if (skipBlanks l).isEmpty then some value else none
  | none => none

end Directory.Json
