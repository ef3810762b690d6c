/-!
# Writing JSON

Output is written without spaces. Values are put together from written parts.

- `Json.writeText`: a string literal.
- `Json.writeRecord`: an object whose values are already written.
-/

namespace Directory.Json

/-- A character below the space, as an escape of four lower-case digits. -/
def controlEscape (c : Char) : List Char :=
  ['\\', 'u', '0', '0', Nat.digitChar (c.toNat / 16), Nat.digitChar (c.toNat % 16)]

/-- One character of a string literal. -/
def writeChar (c : Char) : List Char :=
  match c with
  | '"' => ['\\', '"']
  | '\\' => ['\\', '\\']
  | '\x08' => ['\\', 'b']
  | '\x0c' => ['\\', 'f']
  | '\n' => ['\\', 'n']
  | '\r' => ['\\', 'r']
  | '\t' => ['\\', 't']
  | c => if c.toNat < 0x20 then controlEscape c else [c]

/-- A string literal. -/
def writeText (s : String) : String :=
  String.ofList ('"' :: s.toList.flatMap writeChar ++ ['"'])

/-- A truth value. -/
def writeBool (b : Bool) : String :=
  if b then "true" else "false"

/-- A number without a sign. -/
def writeNat (n : Nat) : String :=
  String.ofList (Nat.toDigits 10 n)

/-- An object with the given names and written values, in this order. -/
def writeRecord (members : List (String × String)) : String :=
  "\x7b" ++ ",".intercalate (members.map fun (name, value) => writeText name ++ ":" ++ value)
    ++ "\x7d"

end Directory.Json
