import Directory.Entry
import Directory.Proofs.Decimal

/-!
# Values are told by their texts

The integer of a value is that of its text, since integers survive being written. So whatever is
asked about the values of an entry can be told from the texts alone.

- `Value.asInt?_eq`: the integer of a value by its text.
- `Entry.has_eq`, `Entry.intOf?_eq`, `Entry.length_valuesOf`: what is asked about the values of an
  attribute, by their texts.
-/

namespace Directory

namespace Text

/-- Digits and the minus sign are no blanks. -/
theorem isBlank_eq_false_of_mem_digits {c : Char} {n : Int64} (h : c ∈ Decimal.digits n) :
    isBlank c = false := by
  have hrange : 32 < c.toNat ∧ c.toNat < 0x85 := by
    rcases Decimal.mem_digits h with rfl | hdigit
    · decide
    · rw [Char.isDigit, Bool.and_eq_true, decide_eq_true_iff, decide_eq_true_iff] at hdigit
      have hlow : 48 ≤ c.toNat := hdigit.1
      have hhigh : c.toNat ≤ 57 := hdigit.2
      omega
  -- the character lies between the second and the third range
  rw [isBlank, CodePoints.contains, blanks, CodePoints.contains.go, if_neg (by omega),
    if_neg (by omega), CodePoints.contains.go, if_neg (by omega), if_neg (by omega),
    CodePoints.contains.go, if_pos (by omega)]

theorem trimChars_digits (n : Int64) : trimChars (Decimal.digits n) = Decimal.digits n := by
  have hkept : ∀ l : List Char, (∀ c ∈ l, c ∈ Decimal.digits n) → l.dropWhile isBlank = l := by
    intro l hl
    cases l with
    | nil => rfl
    | cons c l =>
      rw [List.dropWhile_cons, isBlank_eq_false_of_mem_digits (hl c List.mem_cons_self)]
      rfl
  rw [trimChars, hkept _ fun _ hc => hc, hkept _ fun _ hc => List.mem_reverse.mp hc,
    List.reverse_reverse]

end Text

/-- The integer of a value is that of its text. -/
theorem Value.asInt?_eq (v : Value) : v.asInt? = (text v.rendered).asInt? := by
  cases v with
  | int n =>
    rw [asInt?, asInt?, rendered, Decimal.render, String.toList_ofList, Text.trimChars_digits,
      Decimal.read?_digits]
  | text s => rfl

namespace Entry

variable (e : Entry) (a : Attribute)

theorem has_eq : e.has a = !(e.renderedOf a).isEmpty := by
  rw [has, renderedOf, List.isEmpty_map]

theorem intOf?_eq : e.intOf? a = (e.renderedOf a).head?.bind fun t => (Value.text t).asInt? := by
  rw [intOf?, renderedOf, List.head?_map, Option.bind_map]
  exact congrArg _ (funext Value.asInt?_eq)

theorem length_valuesOf : (e.valuesOf a).length = (e.renderedOf a).length := by
  rw [renderedOf, List.length_map]

end Entry

end Directory
