import Directory.Filter.Evaluation
import Directory.Proofs.Store.Alike

/-!
# What draws decide

A condition without limits takes finitely many draws for an entry, and these decide its answer. So
draws can be put before others, or left out, without any effect on later answers. Draws decide
nothing about a condition without random conditions.

- `Draws.Begins`: the next draws of a stream.
- `Filter.Samples`: a question takes finitely many draws, which decide the answer.
- `Filter.Node.samples_eval`: the statement for one condition; the induction goes through groups and
  along edges.
- `Filter.Node.eval_withDraws`: a condition without random conditions leaves the draws alone.
-/

namespace Directory

namespace Draws

/-- Whether the next draws are the given ones. -/
def Begins (d : Draws) (us : List UInt64) : Prop :=
  ∀ i u, us[i]? = some u → d.stream (d.position + i) = u

/-- The stream after some more draws. -/
def skip (d : Draws) (n : Nat) : Draws :=
  { d with position := d.position + n }

theorem skip_skip (d : Draws) (m n : Nat) : (d.skip m).skip n = d.skip (m + n) := by
  rw [skip, skip, skip, Nat.add_assoc]

theorem begins_nil (d : Draws) : d.Begins [] :=
  nofun

theorem begins_singleton {d : Draws} {u : UInt64} : d.Begins [u] ↔ d.next.1 = u := by
  constructor
  · intro h
    exact h 0 u rfl
  · intro h i v hv
    cases i with
    | zero =>
      obtain rfl := Option.some.inj hv
      exact h
    | succ i => exact nomatch hv

theorem begins_append {d : Draws} {us vs : List UInt64} :
    d.Begins (us ++ vs) ↔ d.Begins us ∧ (d.skip us.length).Begins vs := by
  constructor
  · intro h
    refine ⟨fun i u hu => h i u ?_, fun i u hu => ?_⟩
    · rw [List.getElem?_append_left (List.getElem?_eq_some_iff.mp hu).1]
      exact hu
    · show d.stream (d.position + us.length + i) = u
      rw [Nat.add_assoc]
      refine h _ u ?_
      rw [List.getElem?_append_right (Nat.le_add_right _ _), Nat.add_sub_cancel_left]
      exact hu
  · rintro ⟨hus, hvs⟩ i u hu
    rw [List.getElem?_append] at hu
    split at hu
    · exact hus i u hu
    · rename_i hle
      have hstream := hvs (i - us.length) u hu
      have hposition : d.position + us.length + (i - us.length) = d.position + i := by omega
      rw [← hposition]
      exact hstream

theorem begins_ofList (us : List UInt64) : (ofList us).Begins us := by
  intro i u hu
  show us[0 + i]?.getD 0 = u
  rw [Nat.zero_add, hu]
  rfl

/-- The draws that are taken decide the number. -/
theorem percentWithin_decided : ∀ (tries : Nat) (d : Draws), ∃ us r, d.Begins us ∧
    ∀ d' : Draws, d'.Begins us → percentWithin tries d' = (r, d'.skip us.length)
  | 0, d => by
    refine ⟨[d.next.1], (timesHundred d.next.1).2, begins_singleton.mpr rfl, fun d' hd' => ?_⟩
    rw [percentWithin, begins_singleton.mp hd']
    rfl
  | tries + 1, d => by
    by_cases hlow : (timesHundred d.next.1).1 ≤ acceptBound
    · refine ⟨[d.next.1], (timesHundred d.next.1).2, begins_singleton.mpr rfl, fun d' hd' => ?_⟩
      have hlow' : (timesHundred d'.next.1).1 ≤ acceptBound := begins_singleton.mp hd' ▸ hlow
      rw [percentWithin]
      dsimp only
      rw [if_pos hlow', begins_singleton.mp hd']
      rfl
    · obtain ⟨us, r, hus, h⟩ := percentWithin_decided tries d.next.2
      refine ⟨[d.next.1] ++ us, r, begins_append.mpr ⟨begins_singleton.mpr rfl, hus⟩,
        fun d' hd' => ?_⟩
      obtain ⟨hfirst, hrest⟩ := begins_append.mp hd'
      have hlow' : ¬(timesHundred d'.next.1).1 ≤ acceptBound := begins_singleton.mp hfirst ▸ hlow
      rw [percentWithin]
      dsimp only
      rw [if_neg hlow', h d'.next.2 hrest, List.length_append, ← skip_skip]
      rfl

theorem percent_decided (d : Draws) : ∃ us r, d.Begins us ∧
    ∀ d' : Draws, d'.Begins us → d'.percent = (r, d'.skip us.length) :=
  percentWithin_decided _ d

end Draws

namespace Filter

/-- The memory with other draws. -/
def Memory.withDraws (m : Memory) (d : Draws) : Memory :=
  { m with draws := d }

theorem Memory.askLimit_withDraws (m : Memory) (d : Draws) (slot : Nat) :
    (m.withDraws d).askLimit slot = ((m.askLimit slot).1, (m.askLimit slot).2.withDraws d) := by
  obtain ⟨counters, draws⟩ := m
  rw [askLimit, askLimit]
  dsimp only [withDraws]
  cases counters[slot]? <;> rfl

theorem askRandom_eq {m : Memory} {r : Nat} {d : Draws} (h : m.draws.percent = (r, d))
    (c : Comparator) (n : Int64) :
    m.askRandom c n = (c.holds (Int64.ofNat r) n, { m with draws := d }) := by
  rw [Memory.askRandom, h]

/-- Whether a question takes finitely many draws, which decide the answer, and leaves the counters
as they are. -/
def Samples (ask : Memory → Bool × Memory) : Prop :=
  ∀ (c : List Int64) (d : Draws), ∃ us yes, d.Begins us ∧
    ∀ d' : Draws, d'.Begins us → ask ⟨c, d'⟩ = (yes, ⟨c, d'.skip us.length⟩)

namespace Samples

theorem answer (yes : Bool) : Samples fun m => (yes, m) :=
  fun _ d => ⟨[], yes, d.begins_nil, fun _ _ => rfl⟩

/-- A question may decide which question comes next. -/
theorem branch {ask next next' both : Memory → Bool × Memory} (h : Samples ask)
    (hnext : Samples next) (hnext' : Samples next')
    (hboth : ∀ m, both m = if (ask m).1 then next (ask m).2 else next' (ask m).2) :
    Samples both := by
  intro c d
  obtain ⟨us, yes, hus, hask⟩ := h c d
  have hlater : ∃ vs answer, (d.skip us.length).Begins vs ∧ ∀ d' : Draws, d'.Begins vs →
      (if yes then next ⟨c, d'⟩ else next' ⟨c, d'⟩) = (answer, ⟨c, d'.skip vs.length⟩) := by
    cases yes with
    | true => exact hnext c _
    | false => exact hnext' c _
  obtain ⟨vs, answer, hvs, hthen⟩ := hlater
  refine ⟨us ++ vs, answer, Draws.begins_append.mpr ⟨hus, hvs⟩, fun d' hd' => ?_⟩
  obtain ⟨hfirst, hrest⟩ := Draws.begins_append.mp hd'
  rw [hboth, hask d' hfirst, hthen _ hrest, List.length_append, Draws.skip_skip]

theorem askRandom (c : Comparator) (n : Int64) : Samples fun m => m.askRandom c n := by
  intro k d
  obtain ⟨us, r, hus, hr⟩ := d.percent_decided
  exact ⟨us, _, hus, fun d' hd' => askRandom_eq (m := ⟨k, d'⟩) (hr d' hd') c n⟩

theorem anyInOrder {α : Type} {ask : α → Memory → Bool × Memory} (h : ∀ x, Samples (ask x)) :
    ∀ l : List α, Samples (Directory.anyInOrder ask l)
  | [] => answer false
  | x :: l => by
    refine (h x).branch (answer true) (anyInOrder h l) fun m => ?_
    rw [Directory.anyInOrder]
    rcases ask x m with ⟨_ | _, m'⟩ <;> rfl

end Samples

namespace Node

variable (s : Store)

mutual

/-- A condition without limits takes finitely many draws for an entry, and these decide the
answer. -/
theorem samples_eval : ∀ {n : Node}, n.hasLimit = false → ∀ id e, Samples (n.eval s id e)
  | all cs, h, id, e => samples_evalAll h id e
  | any cs, h, id, e => samples_evalAny h id e
  | not c, h, id, e => by
    intro k d
    obtain ⟨us, yes, hus, hc⟩ := samples_eval (n := c) h id e k d
    refine ⟨us, !yes, hus, fun d' hd' => ?_⟩
    rw [eval, hc d' hd']
  | edgeTo d method target, h, id, _ => by
    refine Samples.anyInOrder (fun edge => ?_) (edgesBy s d method id)
    cases s.entry? (edge.far d) with
    | none => exact .answer false
    | some e => exact samples_eval (n := target) h (edge.far d) e
  | random c n, _, _, _ => .askRandom c n
  | limit _ _, h, _, _ => absurd h (by simp [hasLimit])
  | present .., _, _, _ | equals .., _, _, _ | equalsFolded .., _, _, _ | glob .., _, _, _
  | regex .., _, _, _ | compare .., _, _, _ | allBits .., _, _, _ | anyBit .., _, _, _
  | count .., _, _, _ | length .., _, _, _ | chain .., _, _, _ | edge .., _, _, _ => .answer _

theorem samples_evalAll :
    ∀ {cs : List Node}, hasLimitAmong cs = false → ∀ id e, Samples (evalAll s cs id e)
  | [], _, _, _ => .answer true
  | c :: cs, h, id, e => by
    rw [hasLimitAmong, Bool.or_eq_false_iff] at h
    refine (samples_eval h.1 id e).branch (samples_evalAll h.2 id e) (.answer false) fun m => ?_
    rw [evalAll]
    rcases c.eval s id e m with ⟨_ | _, m'⟩ <;> rfl

theorem samples_evalAny :
    ∀ {cs : List Node}, hasLimitAmong cs = false → ∀ id e, Samples (evalAny s cs id e)
  | [], _, _, _ => .answer false
  | c :: cs, h, id, e => by
    rw [hasLimitAmong, Bool.or_eq_false_iff] at h
    refine (samples_eval h.1 id e).branch (.answer true) (samples_evalAny h.2 id e) fun m => ?_
    rw [evalAny]
    rcases c.eval s id e m with ⟨_ | _, m'⟩ <;> rfl

end

/-! ## No draws -/

mutual

/-- Whatever draws are put in, a condition without random conditions has the same answer and leaves
the draws alone. -/
theorem eval_withDraws (d : Draws) : ∀ {n : Node}, n.hasRandom = false → ∀ id e m,
    n.eval s id e (m.withDraws d) = ((n.eval s id e m).1, (n.eval s id e m).2.withDraws d)
  | all _, hr, id, e, m => evalAll_withDraws d hr id e m
  | any _, hr, id, e, m => evalAny_withDraws d hr id e m
  | not c, hr, id, e, m => by rw [eval, eval, eval_withDraws d (n := c) hr id e m]
  | edgeTo k method target, hr, id, _, m => by
    refine anyInOrder_map (g := (·.withDraws d)) (fun edge m => ?_) (edgesBy s k method id) m
    cases s.entry? (edge.far k) with
    | none => rfl
    | some e => exact eval_withDraws d (n := target) hr (edge.far k) e m
  | limit slot _, _, _, _, m => m.askLimit_withDraws d slot
  | random _ _, hr, _, _, _ => absurd hr (by simp [hasRandom])
  | present .., _, _, _, _ | equals .., _, _, _, _ | equalsFolded .., _, _, _, _
  | glob .., _, _, _, _ | regex .., _, _, _, _ | compare .., _, _, _, _ | allBits .., _, _, _, _
  | anyBit .., _, _, _, _ | count .., _, _, _, _ | length .., _, _, _, _ | chain .., _, _, _, _
  | edge .., _, _, _, _ => rfl

theorem evalAll_withDraws (d : Draws) : ∀ {cs : List Node}, hasRandomAmong cs = false → ∀ id e m,
    evalAll s cs id e (m.withDraws d) =
      ((evalAll s cs id e m).1, (evalAll s cs id e m).2.withDraws d)
  | [], _, _, _, _ => rfl
  | c :: cs, hr, id, e, m => by
    rw [hasRandomAmong, Bool.or_eq_false_iff] at hr
    rw [evalAll, evalAll, eval_withDraws d hr.1 id e m]
    rcases c.eval s id e m with ⟨_ | _, m'⟩
    · rfl
    · exact evalAll_withDraws d hr.2 id e m'

theorem evalAny_withDraws (d : Draws) : ∀ {cs : List Node}, hasRandomAmong cs = false → ∀ id e m,
    evalAny s cs id e (m.withDraws d) =
      ((evalAny s cs id e m).1, (evalAny s cs id e m).2.withDraws d)
  | [], _, _, _, _ => rfl
  | c :: cs, hr, id, e, m => by
    rw [hasRandomAmong, Bool.or_eq_false_iff] at hr
    rw [evalAny, evalAny, eval_withDraws d hr.1 id e m]
    rcases c.eval s id e m with ⟨_ | _, m'⟩
    · exact evalAny_withDraws d hr.2 id e m'
    · rfl

end

end Node

end Filter

end Directory
