/-!
# Decimal texts of integers

Integers have 64 bits. They are written in base ten without a sign unless they are negative; a
reader also takes a leading plus and leading zeros. Only ASCII digits count.

- `Decimal.digits`: the written form of an integer, as characters.
- `Decimal.read?`: the integer that a list of characters denotes, if it denotes one.
-/

namespace Directory.Decimal

/-- The written form of an integer. -/
def digits (n : Int64) : List Char :=
  if n.toInt < 0 then '-' :: Nat.toDigits 10 n.toInt.natAbs else Nat.toDigits 10 n.toInt.natAbs

/-- The written form of an integer. -/
def render (n : Int64) : String :=
  String.ofList (digits n)

/-- The number that a nonempty list of digits denotes. -/
def natural? (l : List Char) : Option Nat :=
  if l.isEmpty || !l.all Char.isDigit then none else some (Nat.ofDigitChars 10 l 0)

/-- The integer as a 64-bit one, if it is in range. -/
def ofInt? (n : Int) : Option Int64 :=
  if Int64.minValue.toInt ≤ n ∧ n ≤ Int64.maxValue.toInt then some (Int64.ofInt n) else none

/-- The integer that the characters denote: an optional sign, then digits, and in range. -/
def read? : List Char → Option Int64
  | '-' :: l => (natural? l).bind fun n => ofInt? (-n)
  | '+' :: l => (natural? l).bind fun n => ofInt? n
  | l => (natural? l).bind fun n => ofInt? n

end Directory.Decimal
