import Directory.Filter.Evaluation
import Directory.Proofs.Filter.Tree
import Mathlib.Logic.Function.Iterate

/-!
# What limits answer

However often the limits in a slot are asked, and about whichever entries, the first questions get
the answer yes, as many as the counter of the slot says at first, and all later ones get the answer
no.

- `Filter.Node.answers`: the answers that the limits in a condition give while it is evaluated.
- `Filter.answers`: the same for a filter that is asked about several entries.
- `Filter.Memory.Spends`: what answers do to a counter.
- `Filter.Node.spends_eval`: the limits that an evaluation asks spend their counters.
-/

namespace Directory

/-- What is noted of the items that are asked in order until one answers yes. -/
def notedInOrder {α β σ : Type} (ask : α → σ → Bool × σ) (note : α → σ → List β) :
    List α → σ → List β
  | [], _ => []
  | x :: xs, t =>
    note x t ++
      match ask x t with
      | (true, _) => []
      | (false, t) => notedInOrder ask note xs t

namespace Filter

/-! ## Counters -/

theorem toInt_decrement (n : Int64) :
    (decrement n).toInt = if n = Int64.minValue then n.toInt else n.toInt - 1 := by
  rw [decrement]
  split
  · rfl
  · rename_i hn
    have hlow : -2 ^ 63 ≤ n.toInt := Int64.le_toInt n
    have hhigh : n.toInt < 2 ^ 63 := Int64.toInt_lt n
    have hne : n.toInt ≠ -2 ^ 63 := fun h => hn (Int64.toInt_inj.mp h)
    have hsub : (n - 1).toInt = (n.toInt - 1).bmod (2 ^ 64) := Int64.toInt_sub n 1
    rw [hsub, Int.bmod_eq_of_le (by omega) (by omega)]

/-- A counter says yes once less after it went down, and none is below the least integer. -/
theorem toNatClampNeg_decrement (n : Int64) :
    (decrement n).toNatClampNeg = n.toNatClampNeg - 1 := by
  rw [← Int64.toNat_toInt, ← Int64.toNat_toInt, toInt_decrement]
  split
  · rename_i hn
    rw [hn]
    rfl
  · omega

theorem toNatClampNeg_iterate (n : Int64) :
    ∀ k : Nat, (decrement^[k] n).toNatClampNeg = n.toNatClampNeg - k
  | 0 => rfl
  | k + 1 => by
    rw [Function.iterate_succ_apply', toNatClampNeg_decrement, toNatClampNeg_iterate n k]
    omega

theorem decrement_nonneg (n : Int64) : 0 ≤ decrement n ↔ 0 < n.toNatClampNeg := by
  rw [Int64.le_iff_toInt_le, toInt_decrement, ← Int64.toNat_toInt]
  show 0 ≤ _ ↔ _
  split
  · rename_i hn
    rw [hn]
    decide
  · omega

/-! ## Answers -/

/-- The answers of the limits in a slot. -/
def answersOf (slot : Nat) (l : List (Nat × Bool)) : List Bool :=
  (l.filter (·.1 == slot)).map (·.2)

theorem answersOf_append (slot : Nat) (l k : List (Nat × Bool)) :
    answersOf slot (l ++ k) = answersOf slot l ++ answersOf slot k := by
  rw [answersOf, List.filter_append, List.map_append]
  rfl

namespace Node

/-- Asks the target condition about the entry at the other end of an edge. -/
def askBeyond (s : Store) (d : Direction) (target : Node) (edge : Edge) (m : Memory) :
    Bool × Memory :=
  match s.entry? (edge.far d) with
  | some e => target.eval s (edge.far d) e m
  | none => (false, m)

theorem eval_edgeTo (s : Store) (d : Direction) (method : Option AttackMethod) (target : Node)
    (id : Nat) (e : Entry) (m : Memory) :
    (edgeTo d method target).eval s id e m =
      anyInOrder (target.askBeyond s d) (edgesBy s d method id) m := rfl

mutual

/-- The answers that the limits in a condition give while it is evaluated, in order, each with the
slot of the limit. -/
def answers (s : Store) : Node → Nat → Entry → Memory → List (Nat × Bool)
  | all cs, id, e, m => answersAll s cs id e m
  | any cs, id, e, m => answersAny s cs id e m
  | not c, id, e, m => c.answers s id e m
  | limit slot _, _, _, m => [(slot, (m.askLimit slot).1)]
  | edgeTo d method target, id, _, m =>
    notedInOrder (target.askBeyond s d)
      (fun edge m =>
        match s.entry? (edge.far d) with
        | some e => target.answers s (edge.far d) e m
        | none => [])
      (edgesBy s d method id) m
  | _, _, _, _ => []

/-- The answers that limits give while conditions are asked until one does not hold. -/
def answersAll (s : Store) : List Node → Nat → Entry → Memory → List (Nat × Bool)
  | [], _, _, _ => []
  | c :: cs, id, e, m =>
    c.answers s id e m ++
      match c.eval s id e m with
      | (true, m) => answersAll s cs id e m
      | (false, _) => []

/-- The answers that limits give while conditions are asked until one holds. -/
def answersAny (s : Store) : List Node → Nat → Entry → Memory → List (Nat × Bool)
  | [], _, _, _ => []
  | c :: cs, id, e, m =>
    c.answers s id e m ++
      match c.eval s id e m with
      | (true, _) => []
      | (false, m) => answersAny s cs id e m

end

end Node

/-- The answers that the limits of a filter give while it is asked about one entry after the
other. -/
def answers (s : Store) (f : Filter) : List (Nat × Entry) → Memory → List (Nat × Bool)
  | [], _ => []
  | (id, e) :: rest, m => f.root.answers s id e m ++ answers s f rest (f.ask s id e m).2

/-- The answers that the limits in a slot give while a filter is asked about one entry after the
other, from the start. -/
def answersIn (slot : Nat) (s : Store) (f : Filter) (l : List (Nat × Entry)) (d : Draws) :
    List Bool :=
  answersOf slot (f.answers s l (f.start d))

/-! ## Spending -/

/-- Whether a memory comes about from another when limits give some answers: those in the slot say
yes as often as its counter allows, and the counter goes down with each of them. -/
def Memory.Spends (slot : Nat) (m : Memory) (l : List (Nat × Bool)) (m' : Memory) : Prop :=
  ∀ n, m.counters[slot]? = some n →
    m'.counters[slot]? = some (decrement^[(answersOf slot l).length] n) ∧
      ∀ j yes, (answersOf slot l)[j]? = some yes → (yes = true ↔ j < n.toNatClampNeg)

namespace Memory.Spends

theorem refl (slot : Nat) (m : Memory) : m.Spends slot [] m :=
  fun _ hn => ⟨hn, nofun⟩

theorem append {slot : Nat} {m m' m'' : Memory} {l k : List (Nat × Bool)}
    (h : m.Spends slot l m') (h' : m'.Spends slot k m'') : m.Spends slot (l ++ k) m'' := by
  intro n hn
  obtain ⟨hn', hanswers⟩ := h n hn
  obtain ⟨hn'', hanswers'⟩ := h' _ hn'
  rw [answersOf_append]
  refine ⟨?_, fun j yes hj => ?_⟩
  · rw [hn'', List.length_append, Nat.add_comm, Function.iterate_add_apply]
  · rw [List.getElem?_append] at hj
    split at hj
    · exact hanswers j yes hj
    · rw [hanswers' _ yes hj, toNatClampNeg_iterate]
      omega

theorem askLimit (slot k : Nat) (m : Memory) :
    m.Spends slot [(k, (m.askLimit k).1)] (m.askLimit k).2 := by
  intro n hn
  by_cases hk : k = slot
  · subst hk
    have hlt : k < m.counters.length := (List.getElem?_eq_some_iff.mp hn).1
    rw [Memory.askLimit, hn]
    have hone : answersOf k [(k, decide (0 ≤ decrement n))] = [decide (0 ≤ decrement n)] := by
      simp [answersOf]
    dsimp only
    rw [hone]
    refine ⟨List.getElem?_set_self hlt, fun j yes hj => ?_⟩
    cases j with
    | zero =>
      obtain rfl := Option.some.inj hj
      rw [decide_eq_true_iff, decrement_nonneg]
    | succ j => exact nomatch hj
  -- a limit in another slot leaves the counter as it is
  · have hnone : answersOf slot [(k, (m.askLimit k).1)] = [] := by simp [answersOf, hk]
    rw [hnone]
    refine ⟨?_, nofun⟩
    rw [Memory.askLimit]
    split
    · rw [List.getElem?_set_ne hk]
      exact hn
    · exact hn

theorem anyInOrder {α : Type} {slot : Nat} {ask : α → Memory → Bool × Memory}
    {note : α → Memory → List (Nat × Bool)}
    (h : ∀ x (m : Memory), m.Spends slot (note x m) (ask x m).2) :
    ∀ (l : List α) (m : Memory),
      m.Spends slot (notedInOrder ask note l m) (Directory.anyInOrder ask l m).2
  | [], m => refl slot m
  | x :: l, m => by
    have hx := h x m
    rw [notedInOrder, Directory.anyInOrder]
    cases hask : ask x m with
    | mk yes m' =>
      rw [hask] at hx
      cases yes with
      | true => exact hx.append (refl slot m')
      | false => exact hx.append (anyInOrder h l m')

end Memory.Spends

namespace Node

open Memory (Spends)

variable (s : Store) (slot : Nat)

mutual

/-- The limits that an evaluation asks spend their counters. -/
theorem spends_eval : ∀ (n : Node) (id : Nat) (e : Entry) (m : Memory),
    m.Spends slot (n.answers s id e m) (n.eval s id e m).2
  | all cs, id, e, m => spends_evalAll cs id e m
  | any cs, id, e, m => spends_evalAny cs id e m
  | not c, id, e, m => spends_eval c id e m
  | limit k _, _, _, m => .askLimit slot k m
  | edgeTo d method target, id, e, m => by
    rw [eval_edgeTo, answers]
    refine Spends.anyInOrder (fun edge m => ?_) _ m
    rw [askBeyond]
    cases s.entry? (edge.far d) with
    | some e => exact spends_eval target (edge.far d) e m
    | none => exact .refl slot m
  | present .., _, _, m | equals .., _, _, m | equalsFolded .., _, _, m | glob .., _, _, m
  | regex .., _, _, m | compare .., _, _, m | allBits .., _, _, m | anyBit .., _, _, m
  | count .., _, _, m | length .., _, _, m | chain .., _, _, m | random .., _, _, m
  | edge .., _, _, m => .refl slot m

theorem spends_evalAll : ∀ (cs : List Node) (id : Nat) (e : Entry) (m : Memory),
    m.Spends slot (answersAll s cs id e m) (evalAll s cs id e m).2
  | [], _, _, m => .refl slot m
  | c :: cs, id, e, m => by
    have hc := spends_eval c id e m
    rw [answersAll, evalAll]
    cases heval : c.eval s id e m with
    | mk yes m' =>
      rw [heval] at hc
      cases yes with
      | true => exact hc.append (spends_evalAll cs id e m')
      | false => exact hc.append (.refl slot m')

theorem spends_evalAny : ∀ (cs : List Node) (id : Nat) (e : Entry) (m : Memory),
    m.Spends slot (answersAny s cs id e m) (evalAny s cs id e m).2
  | [], _, _, m => .refl slot m
  | c :: cs, id, e, m => by
    have hc := spends_eval c id e m
    rw [answersAny, evalAny]
    cases heval : c.eval s id e m with
    | mk yes m' =>
      rw [heval] at hc
      cases yes with
      | true => exact hc.append (.refl slot m')
      | false => exact hc.append (spends_evalAny cs id e m')

end

end Node

end Filter

end Directory
