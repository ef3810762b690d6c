import Directory.Text.Hex

/-!
# Globally unique identifiers

- `Guid`: 128 bits.
- `Guid.render`: the usual form: lower-case hexadecimal digits in groups of 8, 4, 4, 4 and 12.
- `Guid.read?`: also takes upper-case digits, braces around that form, the prefix of a resource
  name before it, or the 32 digits without hyphens.
-/

namespace Directory

open Text (hexDigit?)

/-- A globally unique identifier. -/
structure Guid where
  /-- The bits, the first digit of the written form in the highest place. -/
  bits : BitVec 128
deriving DecidableEq, Repr

namespace Guid

/-- The identifier with the given 32 digits. -/
def ofDigits? (l : List Char) : Option Guid :=
  if l.length = 32 then
    (l.mapM hexDigit?).map fun ds => ⟨BitVec.ofNat 128 (ds.foldl (fun n d => 16 * n + d) 0)⟩
  else none

/-- The identifier with the given digits in five groups with hyphens between. -/
def ofGroups? (l : List Char) : Option Guid :=
  let hyphenAt (i : Nat) : Bool := l[i]? == some '-'
  if l.length = 36 ∧ hyphenAt 8 ∧ hyphenAt 13 ∧ hyphenAt 18 ∧ hyphenAt 23 then
    ofDigits? (l.take 8 ++ (l.drop 9).take 4 ++ (l.drop 14).take 4 ++ (l.drop 19).take 4
      ++ l.drop 24)
  else none

/-- The prefix of an identifier that is written as a resource name. -/
def resourcePrefix : List Char :=
  "urn:uuid:".toList

/-- The identifier that a text denotes. -/
def read? (s : String) : Option Guid :=
  let l := s.toList
  if l.length = 32 then ofDigits? l
  else if l.length = 36 then ofGroups? l
  else if l.length = 38 ∧ l.head? = some '\x7b' ∧ l.getLast? = some '\x7d' then
    ofGroups? (l.drop 1).dropLast
  else if l.length = 45 ∧ (l.take 9).map Char.toLower = resourcePrefix then ofGroups? (l.drop 9)
  else none

/-- The 32 digits of an identifier. -/
def digits (g : Guid) : List Char :=
  (List.range 32).map fun i => Nat.digitChar (g.bits.toNat >>> (4 * (31 - i)) % 16)

/-- The usual form of an identifier. -/
def render (g : Guid) : String :=
  let l := g.digits
  String.ofList (l.take 8 ++ '-' :: (l.drop 8).take 4 ++ '-' :: (l.drop 12).take 4
    ++ '-' :: (l.drop 16).take 4 ++ '-' :: l.drop 20)

end Guid

end Directory
