import Directory.Filter.Evaluation

/-!
# Conditions without memory

A condition in which neither limits nor random conditions occur gives the same answer whatever was
asked before it, and leaves everything that an evaluation carries along as it is.

- `Filter.Node.eval_stateless`: the statement for one condition; the induction goes through groups
  and along edges.
- `Filter.Node.holds`: the answer that a condition has when nothing was asked before. It is the only
  one of a condition without memory (`Filter.Node.eval_eq_holds`).
-/

namespace Directory.Filter.Node

/-- Asking several items in order is asking whether one of them has the answer yes. -/
theorem anyInOrder_eq_any {α σ : Type} {ask : α → σ → Bool × σ} {yes : α → Bool}
    (h : ∀ x t, ask x t = (yes x, t)) (l : List α) (t : σ) :
    anyInOrder ask l t = (l.any yes, t) := by
  induction l with
  | nil => rfl
  | cons x l ih =>
    rw [anyInOrder, h, List.any_cons]
    cases yes x with
    | true => rfl
    | false => exact ih

/-- Asking several items in order carries nothing along if no item does. -/
theorem anyInOrder_stateless {α σ : Type} {ask : α → σ → Bool × σ}
    (h : ∀ x, ∃ yes, ∀ t, ask x t = (yes, t)) (l : List α) :
    ∃ yes, ∀ t, anyInOrder ask l t = (yes, t) := by
  obtain ⟨yes, hyes⟩ := Classical.skolem.mp h
  exact ⟨l.any yes, anyInOrder_eq_any hyes l⟩

variable (s : Store)

mutual

/-- A condition without limits and random conditions has one answer for an entry, and leaves the
memory as it is. -/
theorem eval_stateless :
    ∀ {n : Node}, n.hasLimit = false → n.hasRandom = false → ∀ id e,
      ∃ yes, ∀ m, n.eval s id e m = (yes, m)
  | all _, hl, hr, id, e => evalAll_stateless hl hr id e
  | any _, hl, hr, id, e => evalAny_stateless hl hr id e
  | not c, hl, hr, id, e => by
    obtain ⟨yes, h⟩ := eval_stateless (n := c) hl hr id e
    exact ⟨!yes, fun m => by rw [eval, h]⟩
  | edgeTo d method target, hl, hr, id, _ => by
    refine anyInOrder_stateless (fun edge => ?_) (edgesBy s d method id)
    cases s.entry? (edge.far d) with
    | none => exact ⟨false, fun _ => rfl⟩
    | some e => exact eval_stateless (n := target) hl hr (edge.far d) e
  | limit _ _, hl, _, _, _ => absurd hl (by simp [hasLimit])
  | random _ _, _, hr, _, _ => absurd hr (by simp [hasRandom])
  | present .., _, _, _, _ | equals .., _, _, _, _ | equalsFolded .., _, _, _, _
  | glob .., _, _, _, _ | regex .., _, _, _, _ | compare .., _, _, _, _ | allBits .., _, _, _, _
  | anyBit .., _, _, _, _ | count .., _, _, _, _ | length .., _, _, _, _ | chain .., _, _, _, _
  | edge .., _, _, _, _ => ⟨_, fun _ => rfl⟩

theorem evalAll_stateless :
    ∀ {cs : List Node}, hasLimitAmong cs = false → hasRandomAmong cs = false → ∀ id e,
      ∃ yes, ∀ m, evalAll s cs id e m = (yes, m)
  | [], _, _, _, _ => ⟨true, fun _ => rfl⟩
  | c :: cs, hl, hr, id, e => by
    rw [hasLimitAmong, Bool.or_eq_false_iff] at hl
    rw [hasRandomAmong, Bool.or_eq_false_iff] at hr
    obtain ⟨yes, hc⟩ := eval_stateless hl.1 hr.1 id e
    cases yes with
    | false => exact ⟨false, fun m => by rw [evalAll, hc]⟩
    | true =>
      obtain ⟨yes, hcs⟩ := evalAll_stateless hl.2 hr.2 id e
      exact ⟨yes, fun m => by rw [evalAll, hc]; exact hcs m⟩

theorem evalAny_stateless :
    ∀ {cs : List Node}, hasLimitAmong cs = false → hasRandomAmong cs = false → ∀ id e,
      ∃ yes, ∀ m, evalAny s cs id e m = (yes, m)
  | [], _, _, _, _ => ⟨false, fun _ => rfl⟩
  | c :: cs, hl, hr, id, e => by
    rw [hasLimitAmong, Bool.or_eq_false_iff] at hl
    rw [hasRandomAmong, Bool.or_eq_false_iff] at hr
    obtain ⟨yes, hc⟩ := eval_stateless hl.1 hr.1 id e
    cases yes with
    | true => exact ⟨true, fun m => by rw [evalAny, hc]⟩
    | false =>
      obtain ⟨yes, hcs⟩ := evalAny_stateless hl.2 hr.2 id e
      exact ⟨yes, fun m => by rw [evalAny, hc]; exact hcs m⟩

end

/-! ## Answers -/

/-- Whether a condition holds of an entry if nothing was asked before and every draw is zero. -/
def holds (n : Node) (id : Nat) (e : Entry) : Bool :=
  (n.eval s id e ⟨[], ⟨fun _ => 0, 0⟩⟩).1

theorem eval_eq_holds {n : Node} (hl : n.hasLimit = false) (hr : n.hasRandom = false) (id : Nat)
    (e : Entry) (m : Memory) : n.eval s id e m = (n.holds s id e, m) := by
  obtain ⟨yes, h⟩ := eval_stateless s hl hr id e
  rw [holds, h, h]

theorem evalAll_eq_all {cs : List Node} (hl : hasLimitAmong cs = false)
    (hr : hasRandomAmong cs = false) (id : Nat) (e : Entry) (m : Memory) :
    evalAll s cs id e m = (cs.all fun c => c.holds s id e, m) := by
  induction cs with
  | nil => rfl
  | cons c cs ih =>
    rw [hasLimitAmong, Bool.or_eq_false_iff] at hl
    rw [hasRandomAmong, Bool.or_eq_false_iff] at hr
    rw [evalAll, eval_eq_holds s hl.1 hr.1, List.all_cons]
    cases c.holds s id e with
    | true => exact ih hl.2 hr.2
    | false => rfl

theorem evalAny_eq_any {cs : List Node} (hl : hasLimitAmong cs = false)
    (hr : hasRandomAmong cs = false) (id : Nat) (e : Entry) (m : Memory) :
    evalAny s cs id e m = (cs.any fun c => c.holds s id e, m) := by
  induction cs with
  | nil => rfl
  | cons c cs ih =>
    rw [hasLimitAmong, Bool.or_eq_false_iff] at hl
    rw [hasRandomAmong, Bool.or_eq_false_iff] at hr
    rw [evalAny, eval_eq_holds s hl.1 hr.1, List.any_cons]
    cases c.holds s id e with
    | true => rfl
    | false => exact ih hl.2 hr.2

@[simp] theorem holds_not (c : Node) (id : Nat) (e : Entry) :
    (not c).holds s id e = !c.holds s id e := by
  rw [holds, eval]
  rfl

theorem holds_all {cs : List Node} (hl : hasLimitAmong cs = false)
    (hr : hasRandomAmong cs = false) (id : Nat) (e : Entry) :
    (all cs).holds s id e = cs.all fun c => c.holds s id e := by
  rw [holds, eval, evalAll_eq_all s hl hr]

theorem holds_any {cs : List Node} (hl : hasLimitAmong cs = false)
    (hr : hasRandomAmong cs = false) (id : Nat) (e : Entry) :
    (any cs).holds s id e = cs.any fun c => c.holds s id e := by
  rw [holds, eval, evalAny_eq_any s hl hr]

/-- A condition on the other end of an edge is asked of the entries there. -/
theorem holds_edgeTo (d : Direction) (m : Option AttackMethod) {t : Node}
    (hl : t.hasLimit = false) (hr : t.hasRandom = false) (id : Nat) (e : Entry) :
    (edgeTo d m t).holds s id e =
      (edgesBy s d m id).any fun x => (s.entry? (x.far d)).any (t.holds s (x.far d)) := by
  rw [holds, eval]
  refine congrArg Prod.fst (anyInOrder_eq_any (fun x k => ?_) _ _)
  cases s.entry? (x.far d) with
  | none => rfl
  | some e => exact eval_eq_holds s hl hr _ e k

end Directory.Filter.Node
