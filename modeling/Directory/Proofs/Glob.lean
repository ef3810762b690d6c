import Directory.Glob
import Mathlib.Data.List.Infix

/-!
# What globs describe

A pattern without classes and without two stars in a row is read character by character, and a text
is matched by following all positions at once. That comes to the same as laying the pattern along
the text: a question mark over one character, a star over a run, any other character over itself.

- `Glob.Describes`: how a pattern can be laid along a text.
- `Glob.partsOf_plain`: the parts of such a pattern.
- `Glob.foldl_advance`: the positions that are reached are those that leave the rest described.
- `Glob.accepts_iff`: a text is accepted exactly if the pattern describes it.
-/

namespace Directory

namespace Text.Positions

variable {text : List Char} {s : Positions} {i : Nat}

theorem getElem?_start : (start text)[i]? = some true ↔ i = 0 := by
  cases i with
  | zero => simp [start]
  | succ i => simp [start, List.getElem?_replicate]

theorem length_step (accepts : Char → Bool) (hs : s.length = text.length + 1) :
    (step text accepts s).length = text.length + 1 := by
  rw [step, List.length_cons, List.length_zipWith, hs]
  omega

/-- The positions after one character are those behind a position before it. -/
theorem getElem?_step {accepts : Char → Bool} : (step text accepts s)[i]? = some true ↔
    ∃ j c, i = j + 1 ∧ s[j]? = some true ∧ text[j]? = some c ∧ accepts c = true := by
  cases i with
  | zero => simp [step]
  | succ i =>
    rw [step, List.getElem?_cons_succ, List.getElem?_zipWith]
    cases hs : s[i]? <;> cases ht : text[i]? <;> simp [hs, ht]

theorem length_onward (reached : Bool) : (s.onward reached).length = s.length := by
  induction s generalizing reached with
  | nil => rfl
  | cons here s ih => rw [onward, List.length_cons, List.length_cons, ih]

/-- The positions after a run are those at or behind a position before it. -/
theorem getElem?_onward {reached : Bool} : (s.onward reached)[i]? = some true ↔
    i < s.length ∧ (reached = true ∨ ∃ j ≤ i, s[j]? = some true) := by
  induction s generalizing reached i with
  | nil => simp [onward]
  | cons here s ih =>
    rw [onward]
    cases i with
    | zero => simp
    | succ i =>
      rw [List.getElem?_cons_succ, ih, List.length_cons, Nat.add_lt_add_iff_right,
        Bool.or_eq_true, or_assoc]
      refine and_congr_right fun _ => or_congr_right ?_
      constructor
      · rintro (hhere | ⟨j, hj, hs⟩)
        · exact ⟨0, Nat.zero_le _, by rw [List.getElem?_cons_zero, hhere]⟩
        · exact ⟨j + 1, Nat.succ_le_succ hj, hs⟩
      · rintro ⟨j, hj, hs⟩
        cases j with
        | zero => exact .inl (Option.some.inj hs)
        | succ j => exact .inr ⟨j, Nat.le_of_succ_le_succ hj, hs⟩

end Text.Positions

namespace Glob

open Text (Positions)

/-! ## Descriptions -/

/-- How a pattern of stars, question marks and other characters can be laid along a text. -/
inductive Describes : List Char → List Char → Prop where
  | nil : Describes [] []
  /-- A character lies over itself. -/
  | char (c : Char) {pattern text : List Char} :
      Describes pattern text → Describes (c :: pattern) (c :: text)
  /-- A question mark lies over one character. -/
  | anyChar (c : Char) {pattern text : List Char} :
      Describes pattern text → Describes ('?' :: pattern) (c :: text)
  /-- A star lies over a run of characters. -/
  | anyRun (run : List Char) {pattern text : List Char} :
      Describes pattern text → Describes ('*' :: pattern) (run ++ text)

namespace Describes

variable {c : Char} {pattern text : List Char}

theorem nil_iff : Describes [] text ↔ text = [] := by
  constructor
  · intro h
    cases h
    rfl
  · rintro rfl
    exact .nil

theorem char_iff (hquestion : c ≠ '?') (hstar : c ≠ '*') :
    Describes (c :: pattern) text ↔ ∃ rest, text = c :: rest ∧ Describes pattern rest := by
  constructor
  · intro h
    cases h with
    | char _ h => exact ⟨_, rfl, h⟩
    | anyChar => exact absurd rfl hquestion
    | anyRun => exact absurd rfl hstar
  · rintro ⟨rest, rfl, h⟩
    exact .char c h

theorem anyChar_iff :
    Describes ('?' :: pattern) text ↔ ∃ d rest, text = d :: rest ∧ Describes pattern rest := by
  constructor
  · intro h
    cases h with
    | char _ h => exact ⟨_, _, rfl, h⟩
    | anyChar d h => exact ⟨d, _, rfl, h⟩
  · rintro ⟨d, rest, rfl, h⟩
    exact .anyChar d h

theorem anyRun_iff :
    Describes ('*' :: pattern) text ↔ ∃ run rest, text = run ++ rest ∧ Describes pattern rest := by
  constructor
  · intro h
    cases h with
    | char _ h => exact ⟨['*'], _, rfl, h⟩
    | anyRun run h => exact ⟨run, _, rfl, h⟩
  · rintro ⟨run, rest, rfl, h⟩
    exact .anyRun run h

/-- Characters lie over themselves. -/
theorem append (h : Describes pattern text) (l : List Char) :
    Describes (l ++ pattern) (l ++ text) := by
  induction l with
  | nil => exact h
  | cons c l ih => exact .char c ih

end Describes

/-! ## Parts -/

/-- The part that a character of a pattern spells, outside of classes. -/
def partOf : Char → Part
  | '?' => .anyChar
  | '*' => .anyRun
  | c => .char c

theorem partOf_char {c : Char} (hquestion : c ≠ '?') (hstar : c ≠ '*') : partOf c = .char c := by
  unfold partOf
  split
  · exact absurd rfl hquestion
  · exact absurd rfl hstar
  · rfl

/-- The parts of a pattern without classes and without two stars in a row. -/
theorem partsOf_plain {total : Nat} {l : List Char} (hclass : '[' ∉ l)
    (hstars : ¬ ['*', '*'] <:+: l) :
    ∀ {fuel : Nat} (startsComponent : Bool), l.length ≤ fuel →
      partsOf total fuel startsComponent l = .ok (l.map partOf) := by
  induction l with
  | nil =>
    intro fuel _ _
    cases fuel <;> rfl
  | cons c l ih =>
    intro fuel startsComponent hfuel
    obtain ⟨fuel, rfl⟩ : ∃ k, fuel = k + 1 := ⟨fuel - 1, by simp at hfuel; omega⟩
    rw [List.mem_cons, not_or] at hclass
    have hrest : ∀ b, partsOf total fuel b l = .ok (l.map partOf) := fun b =>
      ih hclass.2 (fun h => hstars (h.trans (List.suffix_cons c l).isInfix)) b
        (Nat.le_of_succ_le_succ hfuel)
    by_cases hquestion : c = '?'
    · subst hquestion
      rw [partsOf, hrest]
      rfl
    · by_cases hstar : c = '*'
      -- the next character is no star
      · subst hstar
        have hnext : ∀ m, l ≠ '*' :: m := by
          rintro m rfl
          exact hstars ⟨[], m, rfl⟩
        rw [partsOf.eq_8 _ _ _ _ (fun _ => hnext _) hnext, hrest]
        rfl
      · rw [partsOf, hrest, List.map_cons, partOf_char hquestion hstar]
        · rfl
        · exact hquestion
        · exact fun _ h _ => hstar h
        · exact fun _ h _ => hstar h
        · exact hstar
        · exact fun h => hclass.1 h.symm

/-! ## Positions -/

section Positions

variable {pattern text : List Char} {s : Positions}

theorem drop_eq_cons_iff {i : Nat} {c : Char} {rest : List Char} :
    text.drop i = c :: rest ↔ text[i]? = some c ∧ rest = text.drop (i + 1) := by
  constructor
  · intro h
    have hget : text[i]? = some c := by
      rw [← List.head?_drop, h]
      rfl
    refine ⟨hget, ?_⟩
    rw [← List.tail_drop, h]
    rfl
  · rintro ⟨hget, rfl⟩
    obtain ⟨hlt, rfl⟩ := List.getElem?_eq_some_iff.mp hget
    exact List.drop_eq_getElem_cons hlt

/-- One character further, the rest is described if it is described behind that character. -/
theorem exists_step {accepts : Char → Bool} :
    (∃ i, (s.step text accepts)[i]? = some true ∧ Describes pattern (text.drop i)) ↔
      ∃ i, s[i]? = some true ∧ ∃ c rest, text.drop i = c :: rest ∧ accepts c = true ∧
        Describes pattern rest := by
  constructor
  · rintro ⟨i, hi, h⟩
    obtain ⟨j, c, rfl, hj, hc, haccepts⟩ := Text.Positions.getElem?_step.mp hi
    exact ⟨j, hj, c, _, drop_eq_cons_iff.mpr ⟨hc, rfl⟩, haccepts, h⟩
  · rintro ⟨i, hi, c, rest, hdrop, haccepts, h⟩
    obtain ⟨hc, rfl⟩ := drop_eq_cons_iff.mp hdrop
    exact ⟨i + 1, Text.Positions.getElem?_step.mpr ⟨i, c, rfl, hi, hc, haccepts⟩, h⟩

/-- Any number of characters further, the rest is described if it is described behind a run. -/
theorem exists_onward (hs : s.length = text.length + 1) :
    (∃ i, (s.onward false)[i]? = some true ∧ Describes pattern (text.drop i)) ↔
      ∃ i, s[i]? = some true ∧ ∃ run rest, text.drop i = run ++ rest ∧
        Describes pattern rest := by
  constructor
  · rintro ⟨i, hi, h⟩
    obtain ⟨-, hreached | ⟨j, hj, hs⟩⟩ := Text.Positions.getElem?_onward.mp hi
    · exact absurd hreached (by decide)
    · have hdrop : (text.drop j).drop (i - j) = text.drop i := by
        rw [List.drop_drop, Nat.add_sub_cancel' hj]
      exact ⟨j, hs, _, _, (List.take_append_drop (i - j) (text.drop j)).symm, hdrop ▸ h⟩
  · rintro ⟨i, hi, run, rest, hdrop, h⟩
    have hlt : i < s.length := (List.getElem?_eq_some_iff.mp hi).1
    have hlength : (text.drop i).length = run.length + rest.length := by
      rw [hdrop, List.length_append]
    rw [List.length_drop] at hlength
    have hrest : text.drop (i + run.length) = rest := by
      rw [← List.drop_drop, hdrop, List.drop_left]
    refine ⟨i + run.length, Text.Positions.getElem?_onward.mpr ⟨by omega, .inr ⟨i, ?_, hi⟩⟩,
      hrest ▸ h⟩
    exact Nat.le_add_right _ _

/-- From some positions the end of the text is reached if the rest behind one of them is
described. -/
theorem foldl_advance (hs : s.length = text.length + 1) :
    ((pattern.map partOf).foldl (advance text) s).getLast?.getD false = true ↔
      ∃ i, s[i]? = some true ∧ Describes pattern (text.drop i) := by
  induction pattern generalizing s with
  | nil =>
    rw [List.map_nil, List.foldl_nil, List.getLast?_eq_getElem?, hs, Nat.add_sub_cancel]
    constructor
    · intro h
      refine ⟨text.length, ?_, Describes.nil_iff.mpr List.drop_length⟩
      cases hlast : s[text.length]? with
      | none => exact absurd h (by simp [hlast])
      | some b => rw [← h, hlast]; rfl
    · rintro ⟨i, hi, h⟩
      have hlt : i < s.length := (List.getElem?_eq_some_iff.mp hi).1
      have hle : text.length ≤ i := List.drop_eq_nil_iff.mp (Describes.nil_iff.mp h)
      obtain rfl : i = text.length := by omega
      rw [hi]
      rfl
  | cons c pattern ih =>
    rw [List.map_cons, List.foldl_cons]
    -- each kind of part moves the positions in its own way
    by_cases hquestion : c = '?'
    · subst hquestion
      show ((pattern.map partOf).foldl (advance text) (s.step text fun _ => true)).getLast?.getD
        false = true ↔ _
      rw [ih (Text.Positions.length_step _ hs), exists_step]
      simp only [Describes.anyChar_iff, true_and]
    · by_cases hstar : c = '*'
      · subst hstar
        show ((pattern.map partOf).foldl (advance text) (s.onward false)).getLast?.getD false =
          true ↔ _
        rw [ih ((Text.Positions.length_onward false).trans hs), exists_onward hs]
        simp only [Describes.anyRun_iff]
      · rw [partOf_char hquestion hstar, advance, ih (Text.Positions.length_step _ hs),
          exists_step]
        simp only [Describes.char_iff hquestion hstar, beq_iff_eq]
        refine exists_congr fun i => and_congr_right fun _ => ?_
        constructor
        · rintro ⟨d, rest, hdrop, rfl, h⟩
          exact ⟨rest, hdrop, h⟩
        · rintro ⟨rest, hdrop, h⟩
          exact ⟨c, rest, hdrop, rfl, h⟩

end Positions

/-- A pattern without classes and without two stars in a row accepts the texts that it describes. -/
theorem accepts_iff {source : String} {g : Glob} (hg : read? source = .ok g)
    (hclass : '[' ∉ source.toList) (hstars : ¬ ['*', '*'] <:+: source.toList) (text : List Char) :
    g.accepts text = true ↔ Describes source.toList text := by
  rw [read?, partsOf_plain hclass hstars true (Nat.le_refl _)] at hg
  obtain rfl := Except.ok.inj hg
  rw [accepts, foldl_advance (by simp [Text.Positions.start])]
  simp only [Text.Positions.getElem?_start, exists_eq_left, List.drop_zero]

end Glob

end Directory
