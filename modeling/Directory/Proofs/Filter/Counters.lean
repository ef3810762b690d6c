import Directory.Proofs.Filter.Asking
import Directory.Proofs.Filter.Limits

/-!
# The counters of a filter

A filter starts with one counter for each slot up to the greatest one. Where several limits share a
slot the last of them sets the counter, and a slot between those of the limits starts at zero. No
counter is taken away during an evaluation, so each limit that is asked has one.

- `Filter.Node.lastMax?`: the number of the last limit with a slot.
- `Filter.Node.eval?`, `Filter.askEach?`: evaluations that stop at a limit without a counter.
- `Filter.Memory.Serves`: a memory with a counter for each of some slots. Evaluations keep it so.
- `Filter.counters_found`: the counters of a filter, and that none is missing in any evaluation.
-/

namespace Directory

/-- Whether an item answers yes, for questions that may fail. The first failure ends the search. -/
def anyInOrder? {α σ : Type} (ask : α → σ → Option (Bool × σ)) : List α → σ → Option (Bool × σ)
  | [], t => some (false, t)
  | x :: xs, t =>
    match ask x t with
    | some (false, t) => anyInOrder? ask xs t
    | result => result

/-- Questions that do not fail in the states of a kind, and lead from each to another, do not fail
one after the other. -/
theorem anyInOrder?_eq_some {α σ : Type} {P : σ → Prop} {ask? : α → σ → Option (Bool × σ)}
    {ask : α → σ → Bool × σ} (hask : ∀ x {t}, P t → ask? x t = some (ask x t))
    (hkeep : ∀ x {t}, P t → P (ask x t).2) (l : List α) :
    ∀ {t : σ}, P t → anyInOrder? ask? l t = some (anyInOrder ask l t) := by
  induction l with
  | nil => exact fun _ => rfl
  | cons x l ih =>
    intro t ht
    have hnext := hkeep x ht
    rw [anyInOrder?, anyInOrder, hask x ht]
    cases hanswer : ask x t with
    | mk yes t' =>
      rw [hanswer] at hnext
      cases yes with
      | true => rfl
      | false => exact ih hnext

namespace Filter

namespace Node

/-! ## Initial values -/

/-- The number that stands last with a slot. -/
def lastAt? (ps : List (Nat × Int64)) (slot : Nat) : Option Int64 :=
  ((ps.filter (·.1 == slot)).map (·.2)).getLast?

/-- The number of the last limit with a slot, depth first and from left to right. -/
def lastMax? (n : Node) (slot : Nat) : Option Int64 :=
  lastAt? (n.nodes.filterMap limit?) slot

theorem getD_lastAt?_cons (p : Nat × Int64) (ps : List (Nat × Int64)) (slot : Nat) (n : Int64) :
    (lastAt? (p :: ps) slot).getD n = (lastAt? ps slot).getD (if p.1 = slot then p.2 else n) := by
  by_cases hp : p.1 = slot
  · rw [lastAt?, List.filter_cons_of_pos (by simpa using hp), List.map_cons, List.getLast?_cons,
      if_pos hp]
    rfl
  · rw [lastAt?, List.filter_cons_of_neg (by simpa using hp), if_neg hp]
    rfl

/-- Setting a counter leaves the others as they are, missing ones at zero. -/
theorem getD_setCounter (n : Int64) : ∀ (slot : Nat) (l : List Int64) (k : Nat),
    (setCounter n slot l).getD k 0 = if slot = k then n else l.getD k 0
  | 0, [], 0 | 0, _ :: _, 0 => rfl
  | 0, [], k + 1 | 0, _ :: _, k + 1 => rfl
  | slot + 1, [], 0 | slot + 1, _ :: _, 0 => rfl
  | slot + 1, [], k + 1 => by
    rw [setCounter, List.getD_cons_succ, getD_setCounter n slot [] k]
    simp only [Nat.add_right_cancel_iff, List.getD_nil]
  | slot + 1, m :: l, k + 1 => by
    rw [setCounter, List.getD_cons_succ, getD_setCounter n slot l k, List.getD_cons_succ]
    simp only [Nat.add_right_cancel_iff]

/-- The number that is set last in a slot stays there. -/
theorem getD_setCounters (slot : Nat) (ps : List (Nat × Int64)) (l : List Int64) :
    (setCounters ps l).getD slot 0 = (lastAt? ps slot).getD (l.getD slot 0) := by
  induction ps generalizing l with
  | nil => rfl
  | cons p ps ih => rw [setCounters_cons, ih, getD_setCounter, getD_lastAt?_cons]

/-- The last limit with a slot sets its counter. -/
theorem getElem?_limits {n : Node} {slot : Nat} (h : slot < (ofNode n).limits.length) :
    (ofNode n).limits[slot]? = some ((n.lastMax? slot).getD 0) := by
  have hvalue : (ofNode n).limits.getD slot 0 = (n.lastMax? slot).getD 0 := by
    rw [ofNode, counters_eq, getD_setCounters]
    rfl
  rw [← hvalue, List.getD_eq_getElem?_getD, List.getElem?_eq_getElem h, Option.getD_some]

/-- The counters end with the one in the greatest slot. -/
theorem length_limits (n : Node) :
    (ofNode n).limits.length = n.slots.max?.elim 0 (· + 1) := by
  cases hmax : n.slots.max? with
  | none =>
    have hslots : n.slots = [] := List.max?_eq_none_iff.mp hmax
    refine Nat.eq_zero_of_not_pos fun hpos => ?_
    obtain ⟨slot, hslot, -⟩ := lt_length_limits.mp hpos
    exact nomatch hslots ▸ hslot
  | some k =>
    obtain ⟨hk, hgreatest⟩ := List.max?_eq_some_iff.mp hmax
    refine Nat.le_antisymm (Nat.le_of_not_lt fun hlt => ?_) (lt_length_counters hk)
    obtain ⟨slot, hslot, hle⟩ := lt_length_limits.mp hlt
    exact Nat.not_le_of_lt hle (hgreatest slot hslot)

end Node

/-! ## Counters that are not missing -/

namespace Memory

/-- Asks the limit in a slot. This fails if there is no counter for the slot. -/
def askLimit? (m : Memory) (slot : Nat) : Option (Bool × Memory) :=
  match m.counters[slot]? with
  | some _ => some (m.askLimit slot)
  | none => none

/-- Whether there is a counter for each of some slots. -/
def Serves (m : Memory) (slots : List Nat) : Prop :=
  ∀ slot ∈ slots, slot < m.counters.length

namespace Serves

variable {m : Memory} {slots : List Nat}

theorem left {slots' : List Nat} (h : m.Serves (slots ++ slots')) : m.Serves slots :=
  fun slot hslot => h slot (List.mem_append_left _ hslot)

theorem right {slots' : List Nat} (h : m.Serves (slots' ++ slots)) : m.Serves slots :=
  fun slot hslot => h slot (List.mem_append_right _ hslot)

/-- An evaluation takes no counters away, it only spends them. -/
theorem eval (h : m.Serves slots) (s : Store) (n : Node) (id : Nat) (e : Entry) :
    (n.eval s id e m).2.Serves slots := by
  intro slot hslot
  have hlt : slot < m.counters.length := h slot hslot
  obtain ⟨hspent, -⟩ := n.spends_eval s slot id e m _ (List.getElem?_eq_getElem hlt)
  exact (List.getElem?_eq_some_iff.mp hspent).1

theorem askBeyond (h : m.Serves slots) (s : Store) (d : Direction) (target : Node) (edge : Edge) :
    (target.askBeyond s d edge m).2.Serves slots := by
  rw [Node.askBeyond]
  cases s.entry? (edge.far d) with
  | some e => exact h.eval s target (edge.far d) e
  | none => exact h

end Serves

end Memory

namespace Node

open Memory (Serves)

mutual

/-- Whether a condition holds of an entry. This fails if a limit without a counter is asked. -/
def eval? (s : Store) : Node → Nat → Entry → Memory → Option (Bool × Memory)
  | all cs, id, e, m => evalAll? s cs id e m
  | any cs, id, e, m => evalAny? s cs id e m
  | not c, id, e, m => (c.eval? s id e m).map fun (yes, m) => (!yes, m)
  | limit slot _, _, _, m => m.askLimit? slot
  | edgeTo d method target, id, _, m =>
    anyInOrder?
      (fun edge m =>
        match s.entry? (edge.far d) with
        | some e => target.eval? s (edge.far d) e m
        | none => some (false, m))
      (edgesBy s d method id) m
  -- the other conditions have no parts and ask no limits
  | n, id, e, m => some (n.eval s id e m)

/-- Whether all conditions hold, asked from left to right until one does not or fails. -/
def evalAll? (s : Store) : List Node → Nat → Entry → Memory → Option (Bool × Memory)
  | [], _, _, m => some (true, m)
  | c :: cs, id, e, m =>
    match c.eval? s id e m with
    | some (true, m) => evalAll? s cs id e m
    | result => result

/-- Whether a condition holds, asked from left to right until one does or fails. -/
def evalAny? (s : Store) : List Node → Nat → Entry → Memory → Option (Bool × Memory)
  | [], _, _, m => some (false, m)
  | c :: cs, id, e, m =>
    match c.eval? s id e m with
    | some (false, m) => evalAny? s cs id e m
    | result => result

end

variable (s : Store)

mutual

/-- Where there is a counter for each limit, no evaluation fails. -/
theorem eval?_eq_some : ∀ {n : Node} {m : Memory}, m.Serves n.slots → ∀ (id : Nat) (e : Entry),
    n.eval? s id e m = some (n.eval s id e m)
  | all cs, _, h, id, e => @evalAll?_eq_some cs _ h id e
  | any cs, _, h, id, e => @evalAny?_eq_some cs _ h id e
  | not c, _, h, id, e => by
    rw [eval?, @eval?_eq_some c _ h id e]
    rfl
  | limit slot _, m, h, _, _ => by
    have hslot : slot < m.counters.length := h slot (List.mem_singleton_self slot)
    rw [eval?, Memory.askLimit?, List.getElem?_eq_getElem hslot]
    rfl
  | edgeTo d method t, m, h, id, _ => by
    have hserves : m.Serves t.slots := h
    rw [eval?, eval_edgeTo]
    refine anyInOrder?_eq_some (P := (·.Serves t.slots)) (fun edge m h => ?_)
      (fun edge m h => h.askBeyond s d t edge) _ hserves
    rw [askBeyond]
    cases s.entry? (edge.far d) with
    | some e => exact eval?_eq_some h (edge.far d) e
    | none => rfl
  | present .., _, _, _, _ | equals .., _, _, _, _ | equalsFolded .., _, _, _, _
  | glob .., _, _, _, _ | regex .., _, _, _, _ | compare .., _, _, _, _ | allBits .., _, _, _, _
  | anyBit .., _, _, _, _ | count .., _, _, _, _ | length .., _, _, _, _ | chain .., _, _, _, _
  | random .., _, _, _, _ | edge .., _, _, _, _ => rfl

theorem evalAll?_eq_some : ∀ {cs : List Node} {m : Memory}, m.Serves (slotsAmong cs) →
    ∀ (id : Nat) (e : Entry), evalAll? s cs id e m = some (evalAll s cs id e m)
  | [], _, _, _, _ => rfl
  | c :: cs, m, h, id, e => by
    rw [slotsAmong_cons] at h
    have hnext := h.right.eval s c id e
    rw [evalAll?, evalAll, eval?_eq_some h.left id e]
    cases hanswer : c.eval s id e m with
    | mk yes m' =>
      rw [hanswer] at hnext
      cases yes with
      | true => exact evalAll?_eq_some hnext id e
      | false => rfl

theorem evalAny?_eq_some : ∀ {cs : List Node} {m : Memory}, m.Serves (slotsAmong cs) →
    ∀ (id : Nat) (e : Entry), evalAny? s cs id e m = some (evalAny s cs id e m)
  | [], _, _, _, _ => rfl
  | c :: cs, m, h, id, e => by
    rw [slotsAmong_cons] at h
    have hnext := h.right.eval s c id e
    rw [evalAny?, evalAny, eval?_eq_some h.left id e]
    cases hanswer : c.eval s id e m with
    | mk yes m' =>
      rw [hanswer] at hnext
      cases yes with
      | true => rfl
      | false => exact evalAny?_eq_some hnext id e

end

/-- A memory with a single counter does not serve a limit in the second slot. -/
example (id : Nat) (e : Entry) (d : Draws) :
    (not (limit 1 5)).eval? s id e ⟨[3], d⟩ = none := rfl

end Node

/-- The answers for entries that are shown one after the other, and what is carried on. This fails
if a limit without a counter is asked. -/
def askEach? (f : Filter) (s : Store) :
    List (Nat × Entry) → Memory → Option (List Bool × Memory)
  | [], m => some ([], m)
  | (id, e) :: shown, m => do
    let (yes, m) ← f.root.eval? s id e m
    let (answers, m) ← askEach? f s shown m
    return (yes :: answers, m)

theorem askEach?_eq_some {f : Filter} (s : Store) (shown : List (Nat × Entry)) :
    ∀ {m : Memory}, m.Serves f.root.slots → f.askEach? s shown m = some (f.askEach s shown m) := by
  induction shown with
  | nil => exact fun _ => rfl
  | cons p shown ih =>
    intro m h
    have hrest := ih (h.eval s f.root p.1 p.2)
    rw [askEach?, Node.eval?_eq_some s h]
    dsimp only [Option.bind_eq_bind, Option.bind_some]
    rw [hrest]
    rfl

/-- **Limits find their counters.** A filter depends on the order of questions exactly if it has
limits. Its counters are those of the slots up to the greatest one. Each starts with the number of
the last limit that has its slot, or with zero if none has. So no limit that is asked in any
evaluation, about whichever entries, is without a counter. -/
theorem counters_found (n : Node) :
    (ofNode n).isOrderDependent = n.hasLimit ∧
      (ofNode n).limits.length = n.slots.max?.elim 0 (· + 1) ∧
      (∀ slot < (ofNode n).limits.length,
        (ofNode n).limits[slot]? = some ((n.lastMax? slot).getD 0)) ∧
      ∀ (s : Store) (shown : List (Nat × Entry)) (d : Draws),
        (ofNode n).askEach? s shown ((ofNode n).start d) =
          some ((ofNode n).askEach s shown ((ofNode n).start d)) := by
  refine ⟨n.isOrderDependent_eq, n.length_limits, fun _ => Node.getElem?_limits, ?_⟩
  intro s shown d
  have hserves : ((ofNode n).start d).Serves n.slots := fun _ => Node.lt_length_counters
  exact askEach?_eq_some s shown hserves

/-- Limits that leave slots out and share one, some of them at the end of an edge. -/
def scattered : Node :=
  .all [.limit 3 7, .edgeTo .canPwn none (.any [.limit 1 2, .not (.limit 3 (-4))]), .present ⟨0⟩]

/-- The counter of a slot that two limits share, and the one of a slot without limits. -/
theorem counters_found_scattered :
    (ofNode scattered).limits.length = 4 ∧
      3 < (ofNode scattered).limits.length ∧ (ofNode scattered).limits[3]? = some (-4 : Int64) ∧
      2 < (ofNode scattered).limits.length ∧ (ofNode scattered).limits[2]? = some (0 : Int64) ∧
      ∀ s shown d,
        ((ofNode scattered).askEach? s shown ((ofNode scattered).start d)).isSome = true := by
  obtain ⟨-, hlength, hstart, hasked⟩ := counters_found scattered
  refine ⟨hlength.trans (by decide), ?three, (hstart 3 ?three).trans (by decide), ?two,
    (hstart 2 ?two).trans (by decide), fun s shown d => ?_⟩
  · decide
  · decide
  · rw [hasked s shown d]
    rfl

end Filter

end Directory
