import Directory.Decimal

/-!
# Integers survive being written

- `Decimal.read?_digits`: the written form of an integer is read as that integer.
- `Decimal.mem_digits`: it consists of digits, after a minus sign if there is one.
-/

namespace Directory.Decimal

theorem isDigit_toDigits {c : Char} {n : Nat} (h : c ∈ Nat.toDigits 10 n) : c.isDigit = true :=
  Nat.isDigit_of_mem_toDigits (by decide) (by decide) h

theorem natural?_toDigits (n : Nat) : natural? (Nat.toDigits 10 n) = some n := by
  have hempty : (Nat.toDigits 10 n).isEmpty = false :=
    List.isEmpty_eq_false_iff.mpr Nat.toDigits_ne_nil
  have hdigits : (Nat.toDigits 10 n).all Char.isDigit = true :=
    List.all_eq_true.mpr fun c hc => isDigit_toDigits hc
  rw [natural?, hempty, hdigits, Nat.ofDigitChars_ten_toDigits]
  rfl

theorem ofInt?_toInt (n : Int64) : ofInt? n.toInt = some n := by
  have hlow : Int64.minValue.toInt ≤ n.toInt := Int64.minValue_le_toInt n
  have hhigh : n.toInt ≤ Int64.maxValue.toInt := Int64.toInt_le n
  rw [ofInt?, if_pos ⟨hlow, hhigh⟩, Int64.ofInt_toInt]

/-- What does not begin with a sign is read as digits. -/
theorem read?_of_isDigit {c : Char} (hc : c.isDigit = true) (l : List Char) :
    read? (c :: l) = (natural? (c :: l)).bind fun n => ofInt? n := by
  rw [read?]
  · rintro m h
    rw [(List.cons.inj h).1] at hc
    exact absurd hc (by decide)
  · rintro m h
    rw [(List.cons.inj h).1] at hc
    exact absurd hc (by decide)

/-- The written form of an integer is read as that integer. -/
theorem read?_digits (n : Int64) : read? (digits n) = some n := by
  rw [digits]
  split
  · rename_i hneg
    have hvalue : -(n.toInt.natAbs : Int) = n.toInt := by omega
    rw [read?, natural?_toDigits, Option.bind_some, hvalue, ofInt?_toInt]
  · rename_i hnonneg
    have hvalue : (n.toInt.natAbs : Int) = n.toInt := by omega
    have hne : Nat.toDigits 10 n.toInt.natAbs ≠ [] := Nat.toDigits_ne_nil
    obtain ⟨c, l, hl⟩ := List.exists_cons_of_ne_nil hne
    have hc : c.isDigit = true := isDigit_toDigits (hl ▸ List.mem_cons_self)
    rw [hl, read?_of_isDigit hc, ← hl, natural?_toDigits, Option.bind_some, hvalue, ofInt?_toInt]

theorem mem_digits {c : Char} {n : Int64} (h : c ∈ digits n) : c = '-' ∨ c.isDigit = true := by
  rw [digits] at h
  split at h
  · exact (List.mem_cons.mp h).imp_right isDigit_toDigits
  · exact .inr (isDigit_toDigits h)

end Directory.Decimal
