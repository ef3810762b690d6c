import Directory.Text.Lower

/-!
# Lower-casing is idempotent

Lower-casing never yields a letter that it would change again, so a text in lower case stays as it
is. That is a fact about the table of runs, settled once by `lowerCase_avoids`: the images of each
run keep clear of all runs.

- `lowerChars_lowerChars`, `lower_lower`: lower-casing twice is lower-casing once.
- `IsMark`: a character such as a star or a slash. Marks come from themselves only and keep their
  places (`mem_lowerAfter_iff`, `head?_lowerAfter`, `getLast?_lowerAfter`,
  `pair_infix_lowerAfter`).
-/

namespace Directory.Text

/-! ## The runs of the table -/

/-- Whether no run covers one of the code points `a`, `a + step`, …, `b`. The runs ascend. -/
def avoids (a b step : Nat) : List CaseRun → Bool
  | [] => true
  | r :: rest =>
    if r.last < a then avoids a b step rest
    else if b < r.first then true
    else
      (a == b || step == 2) && r.step == 2 && (a + r.first) % 2 == 1 && avoids a b step rest

/-- A code point that all runs avoid stays where it is. -/
theorem go_of_avoids {a b step n : Nat} (hn : n ≤ b) (hstep : (n - a) % step = 0) (ha : a ≤ n) :
    ∀ {runs : List CaseRun}, avoids a b step runs = true → CaseMap.apply.go n runs = n
  | [], _ => rfl
  | r :: rest, h => by
    rw [avoids] at h
    rw [CaseMap.apply.go]
    split
    · rfl
    · rename_i hfirst
      have hcovers : r.covers n = false ∧ avoids a b step rest = true := by
        split at h
        · rename_i hlast
          refine ⟨?_, h⟩
          simp only [CaseRun.covers, Bool.and_eq_false_iff, decide_eq_false_iff_not]
          omega
        · split at h
          · omega
          -- the run overlaps the images, which all have the other parity
          · simp only [Bool.and_eq_true, Bool.or_eq_true, beq_iff_eq] at h
            obtain ⟨⟨⟨hsteps, hr⟩, hparity⟩, hrest⟩ := h
            refine ⟨?_, hrest⟩
            simp only [CaseRun.covers, hr, Bool.and_eq_false_iff, beq_eq_false_iff_ne]
            right
            rcases hsteps with rfl | rfl <;> omega
      rw [hcovers.1]
      exact go_of_avoids hn hstep ha hcovers.2

/-- The images of each run keep clear of all runs. -/
theorem lowerCase_avoids :
    (lowerCase.runs.all fun r =>
      avoids (r.image r.first) (r.image r.last) r.step lowerCase.runs) = true := by
  decide +kernel

/-- Images are characters other than the dotted capital, and none comes before the small
letters. -/
theorem lowerCase_images :
    (lowerCase.runs.all fun r =>
      r.step != 0 && decide (0x61 ≤ r.first + r.shift) &&
        decide (r.last + r.shift < 0x130 ∨ 0x130 < r.first + r.shift) &&
        decide (r.last + r.shift < 0xD800 ∨
          0xDFFF < r.first + r.shift ∧ r.last + r.shift < 0x110000)) = true := by
  decide +kernel

/-- What a look-up finds: the image under a run that covers the code point, or the point itself. -/
theorem go_eq (n : Nat) : ∀ runs : List CaseRun,
    CaseMap.apply.go n runs = n ∨
      ∃ r ∈ runs, r.covers n = true ∧ CaseMap.apply.go n runs = r.image n
  | [] => .inl rfl
  | r :: rest => by
    rw [CaseMap.apply.go]
    split
    · exact .inl rfl
    · split
      · rename_i hcovers
        exact .inr ⟨r, List.mem_cons_self, hcovers, rfl⟩
      · rcases go_eq n rest with h | ⟨s, hs, hcovers, h⟩
        · exact .inl h
        · exact .inr ⟨s, List.mem_cons_of_mem _ hs, hcovers, h⟩

/-- Either a code point stays where it is, or it moves to a letter, which stays where it is. -/
theorem apply_lowerCase (n : Nat) :
    lowerCase.apply n = n ∨
      lowerCase.apply (lowerCase.apply n) = lowerCase.apply n ∧ 0x61 ≤ lowerCase.apply n ∧
        lowerCase.apply n ≠ 0x130 ∧ (lowerCase.apply n).isValidChar := by
  rcases go_eq n lowerCase.runs with h | ⟨r, hr, hcovers, h⟩
  · exact .inl h
  · right
    have himages := List.all_eq_true.mp lowerCase_images r hr
    have havoids := List.all_eq_true.mp lowerCase_avoids r hr
    simp only [Bool.and_eq_true, decide_eq_true_eq, bne_iff_ne] at himages
    simp only [CaseRun.covers, Bool.and_eq_true, decide_eq_true_eq, beq_iff_eq] at hcovers
    obtain ⟨⟨⟨hstep, hsmall⟩, hdotted⟩, hvalid⟩ := himages
    obtain ⟨⟨hfirst, hlast⟩, hmod⟩ := hcovers
    have himage : lowerCase.apply n = ((n : Int) + r.shift).toNat := h
    -- the image lies as far into its run as the point does
    have hshift : r.image n - r.image r.first = n - r.first := by
      simp only [CaseRun.image]
      omega
    have hfixed : lowerCase.apply (r.image n) = r.image n := by
      refine go_of_avoids ?_ (by rw [hshift]; exact hmod) ?_ havoids
      · simp only [CaseRun.image]
        omega
      · simp only [CaseRun.image]
        omega
    rw [himage]
    refine ⟨hfixed, by omega, by omega, ?_⟩
    rw [Nat.isValidChar]
    omega

/-! ## Characters -/

/-- Whether lower-casing leaves a character as it is. -/
def IsLower (c : Char) : Prop := lowerChar c = [c]

instance (c : Char) : Decidable (IsLower c) := inferInstanceAs (Decidable (lowerChar c = [c]))

/-- Whether a character has no letter case and comes before the small letters. -/
def IsMark (c : Char) : Prop := IsLower c ∧ c.toNat < 0x61

instance (c : Char) : Decidable (IsMark c) := inferInstanceAs (Decidable (_ ∧ _))

/-- What a character becomes stays as it is, and a mark comes from itself only. -/
theorem mem_lowerChar {c d : Char} (h : d ∈ lowerChar c) : IsLower d ∧ (IsMark d → d = c) := by
  have hletter : 0x61 ≤ d.toNat → IsMark d → d = c := fun hd hmark =>
    absurd hmark.2 (Nat.not_lt.mpr hd)
  rw [lowerChar] at h
  split at h
  -- the dotted capital becomes a letter and a dot above
  · simp only [List.mem_cons, List.not_mem_nil, or_false] at h
    rcases h with rfl | rfl
    · exact ⟨by decide +kernel, hletter (by decide)⟩
    · exact ⟨by decide +kernel, hletter (by decide)⟩
  · rename_i hc
    rw [List.mem_singleton] at h
    subst h
    rcases apply_lowerCase c.toNat with happly | ⟨hfixed, hsmall, hdotted, hvalid⟩
    · rw [happly, Char.ofNat_toNat]
      exact ⟨by rw [IsLower, lowerChar, if_neg hc, happly, Char.ofNat_toNat], fun _ => rfl⟩
    · have htoNat : (Char.ofNat (lowerCase.apply c.toNat)).toNat = lowerCase.apply c.toNat := by
        rw [Char.ofNat, dif_pos hvalid]
        rfl
      have hne : Char.ofNat (lowerCase.apply c.toNat) ≠ 'İ' := by
        intro heq
        rw [heq] at htoNat
        exact hdotted htoNat.symm
      refine ⟨?_, hletter (by omega)⟩
      rw [IsLower, lowerChar, if_neg hne, htoNat, hfixed]

theorem lowerChar_ne_nil (c : Char) : lowerChar c ≠ [] := by
  rw [lowerChar]
  split
  · exact List.cons_ne_nil _ _
  · exact List.cons_ne_nil _ _

theorem isLower_lowerSigma (before after : List Char) : IsLower (lowerSigma before after) := by
  rw [lowerSigma]
  split
  · decide +kernel
  · decide +kernel

theorem not_isLower_sigma : ¬ IsLower 'Σ' := by
  decide +kernel

/-! ## Texts -/

/-- The first character of a text becomes some characters that stay as they are. A mark becomes
itself and nothing else becomes a mark. -/
theorem lowerAfter_cons (before : List Char) (c : Char) (rest : List Char) :
    ∃ first, first ≠ [] ∧ (∀ d ∈ first, IsLower d ∧ (IsMark d → d = c)) ∧
      (IsMark c → first = [c]) ∧
      lowerAfter before (c :: rest) = first ++ lowerAfter (c :: before) rest := by
  rw [lowerAfter]
  split
  -- a capital sigma becomes one of two small letters, and is no mark
  · rename_i hc
    refine ⟨_, List.cons_ne_nil _ _, ?_, ?_, rfl⟩
    · intro d hd
      rw [List.mem_singleton.mp hd]
      refine ⟨isLower_lowerSigma _ _, fun hmark => absurd hmark.2 ?_⟩
      rw [lowerSigma]
      split
      · decide
      · decide
    · intro hmark
      exact absurd (hc ▸ hmark.1) not_isLower_sigma
  · exact ⟨_, lowerChar_ne_nil c, fun d hd => mem_lowerChar hd, fun hmark => hmark.1, rfl⟩

theorem isLower_of_mem_lowerAfter {d : Char} :
    ∀ {before l : List Char}, d ∈ lowerAfter before l → IsLower d
  | _, [], h => absurd h List.not_mem_nil
  | before, c :: rest, h => by
    obtain ⟨first, -, hfirst, -, heq⟩ := lowerAfter_cons before c rest
    rw [heq] at h
    rcases List.mem_append.mp h with h | h
    · exact (hfirst d h).1
    · exact isLower_of_mem_lowerAfter h

theorem lowerAfter_eq_self :
    ∀ {before l : List Char}, (∀ c ∈ l, IsLower c) → lowerAfter before l = l
  | _, [], _ => rfl
  | before, c :: rest, h => by
    have hc : IsLower c := h c List.mem_cons_self
    have hne : c ≠ 'Σ' := fun heq => not_isLower_sigma (heq ▸ hc)
    rw [lowerAfter, if_neg hne, hc, lowerAfter_eq_self fun d hd => h d (List.mem_cons_of_mem _ hd)]
    rfl

theorem lowerAfter_eq_nil_iff : ∀ {before l : List Char}, lowerAfter before l = [] ↔ l = []
  | _, [] => Iff.rfl
  | before, c :: rest => by
    obtain ⟨first, hne, -, -, heq⟩ := lowerAfter_cons before c rest
    rw [heq]
    simp [hne]

@[simp] theorem lowerChars_lowerChars (l : List Char) :
    lowerChars (lowerChars l) = lowerChars l :=
  lowerAfter_eq_self fun _ h => isLower_of_mem_lowerAfter h

@[simp] theorem lower_lower (s : String) : lower (lower s) = lower s := by
  simp [lower]

/-! ## Marks -/

/-- Where two equal characters in a row may stand in a text. -/
theorem pair_infix_cons {m c : Char} {l : List Char} :
    [m, m] <:+: c :: l ↔ (m = c ∧ l.head? = some m) ∨ [m, m] <:+: l := by
  rw [List.infix_cons_iff, List.cons_prefix_cons]
  cases l with
  | nil => simp
  | cons d l => simp [List.cons_prefix_cons, eq_comm]

theorem pair_infix_append {m : Char} :
    ∀ {first l : List Char}, m ∉ first → ([m, m] <:+: first ++ l ↔ [m, m] <:+: l)
  | [], _, _ => Iff.rfl
  | c :: first, l, h => by
    rw [List.mem_cons, not_or] at h
    rw [List.cons_append, pair_infix_cons, pair_infix_append h.2]
    simp [h.1]

section Marks

variable {m : Char} (hm : IsMark m)

include hm

theorem mem_lowerAfter_iff :
    ∀ {before l : List Char}, m ∈ lowerAfter before l ↔ m ∈ l
  | _, [] => Iff.rfl
  | before, c :: rest => by
    obtain ⟨first, -, hfirst, hmark, heq⟩ := lowerAfter_cons before c rest
    rw [heq, List.mem_append, mem_lowerAfter_iff, List.mem_cons]
    refine or_congr_left ⟨fun h => (hfirst m h).2 hm, ?_⟩
    rintro rfl
    rw [hmark hm]
    exact List.mem_singleton_self _

theorem head?_lowerAfter :
    ∀ {before l : List Char}, (lowerAfter before l).head? = some m ↔ l.head? = some m
  | _, [] => Iff.rfl
  | before, c :: rest => by
    obtain ⟨first, hne, hfirst, hmark, heq⟩ := lowerAfter_cons before c rest
    obtain ⟨d, first, rfl⟩ := List.exists_cons_of_ne_nil hne
    rw [heq]
    simp only [List.cons_append, List.head?_cons, Option.some.injEq]
    refine ⟨fun h => ?_, fun h => ?_⟩
    · rw [← h] at hm ⊢
      exact ((hfirst d List.mem_cons_self).2 hm).symm
    · subst h
      exact (List.cons.inj (hmark hm)).1

theorem getLast?_lowerAfter :
    ∀ {before l : List Char}, (lowerAfter before l).getLast? = some m ↔ l.getLast? = some m
  | _, [] => Iff.rfl
  | before, [c] => by
    obtain ⟨first, hne, hfirst, hmark, heq⟩ := lowerAfter_cons before c []
    rw [heq, lowerAfter, List.append_nil]
    refine ⟨fun h => ?_, fun h => ?_⟩
    · rw [(hfirst m (List.mem_of_getLast? h)).2 hm]
      rfl
    · rw [List.getLast?_singleton, Option.some.injEq] at h
      rw [hmark (h ▸ hm), h]
      rfl
  | before, c :: d :: rest => by
    -- what the rest becomes is not empty, so the last character is in it
    obtain ⟨first, -, -, -, heq⟩ := lowerAfter_cons before c (d :: rest)
    obtain ⟨second, hne, -, -, heq'⟩ := lowerAfter_cons (c :: before) d rest
    have hne : lowerAfter (c :: before) (d :: rest) ≠ [] := by
      rw [heq']
      exact List.append_ne_nil_of_left_ne_nil hne _
    rw [heq, List.getLast?_append, List.getLast?_eq_some_getLast hne, Option.some_or,
      ← List.getLast?_eq_some_getLast hne, getLast?_lowerAfter, List.getLast?_cons_cons]

theorem lowerAfter_eq_singleton_iff {before l : List Char} :
    lowerAfter before l = [m] ↔ l = [m] := by
  cases l with
  | nil => simp [lowerAfter]
  | cons c rest =>
    obtain ⟨first, -, -, hmark, heq⟩ := lowerAfter_cons before c rest
    refine ⟨fun h => ?_, fun h => ?_⟩
    · have hc : c = m := by
        have hhead : (lowerAfter before (c :: rest)).head? = some m := by
          rw [h]
          rfl
        exact Option.some.inj ((head?_lowerAfter hm).mp hhead)
      subst hc
      rw [heq, hmark hm] at h
      rw [lowerAfter_eq_nil_iff.mp (List.cons.inj h).2]
    · obtain ⟨rfl, rfl⟩ := List.cons.inj h
      rw [heq, hmark hm]
      rfl

/-- Two marks in a row come from two marks in a row. -/
theorem pair_infix_lowerAfter :
    ∀ {before l : List Char}, [m, m] <:+: lowerAfter before l ↔ [m, m] <:+: l
  | _, [] => Iff.rfl
  | before, c :: rest => by
    obtain ⟨first, -, hfirst, hmark, heq⟩ := lowerAfter_cons before c rest
    rw [heq]
    by_cases hc : c = m
    · rw [hmark (hc ▸ hm), List.singleton_append, pair_infix_cons, pair_infix_cons,
        head?_lowerAfter hm, pair_infix_lowerAfter]
    -- no pair begins in what another character becomes
    · have hnot : m ∉ first := fun h => hc ((hfirst m h).2 hm).symm
      rw [pair_infix_append hnot, pair_infix_lowerAfter, pair_infix_cons]
      simp [Ne.symm hc]

end Marks

end Directory.Text
