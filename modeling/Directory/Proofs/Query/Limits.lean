import Directory.Proofs.Filter.Alike
import Directory.Proofs.Filter.Limits
import Directory.Proofs.Query.Transparency

/-!
# Queries with limits

A limit in a conjunction says yes to the first entries that get as far as the limit. An index would
show the filter other entries, so no index drives such a query.

- `Query.select_limited`: a conjunction with one limit selects among the first entries on which the
  conditions before the limit hold.
- `Query.execute_limited`: the answers of limits in any filter, and the answer to such a
  conjunction.
-/

namespace Directory

namespace Filter.Node

/-- Whether all conditions hold of a numbered entry. -/
def allHold (s : Store) (cs : List Node) (p : Nat × Entry) : Bool :=
  cs.all fun c => c.holds s p.1 p.2

theorem evalAll_append (s : Store) (cs ds : List Node) (id : Nat) (e : Entry) (m : Memory) :
    evalAll s (cs ++ ds) id e m =
      match evalAll s cs id e m with
      | (true, m) => evalAll s ds id e m
      | (false, m) => (false, m) := by
  induction cs generalizing m with
  | nil => rfl
  | cons c cs ih =>
    rw [List.cons_append, evalAll, evalAll]
    cases c.eval s id e m with
    | mk yes m' =>
      cases yes with
      | true => exact ih m'
      | false => rfl

theorem hasLimitAmong_append (cs ds : List Node) :
    hasLimitAmong (cs ++ ds) = (hasLimitAmong cs || hasLimitAmong ds) := by
  induction cs with
  | nil => rfl
  | cons c cs ih => rw [List.cons_append, hasLimitAmong, hasLimitAmong, ih, Bool.or_assoc]

end Filter.Node

namespace Query

open Directory.Filter Directory.Filter.Node

theorem select_registry (s : Store) (r : Registry) (f : Filter) :
    ∀ (l : List (Nat × Entry)) (m : Memory),
      select { s with registry := r } f l m = select s f l m
  | [], _ => rfl
  | p :: l, m => by
    have hask : f.ask { s with registry := r } p.1 p.2 m = f.ask s p.1 p.2 m :=
      eval_registry s r f.root p.1 p.2 m
    rw [select_cons, select_cons, hask, select_registry s r f l]

/-- No index drives a query with a limit. -/
theorem execute_of_hasLimit (s : Store) {n : Node} (h : n.hasLimit = true) (d : Draws) :
    (execute s (ofNode n) d).1 = ⟨(scan s (ofNode n) d).1, .fullScan, s.size⟩ := by
  have horder : (ofNode n).isOrderDependent = true := (isOrderDependent_eq n).trans h
  have hdriving : (plan s (ofNode n)).driving = none := by
    rw [Plan.driving, driver_plan, if_pos horder]
    rfl
  rw [execute_of_driving_eq_none hdriving]

/-- The limits that a run asks spend their counters. -/
theorem spends_select (s : Store) (f : Filter) (slot : Nat) :
    ∀ (l : List (Nat × Entry)) (m : Memory),
      m.Spends slot (f.answers s l m) (select s f l m).2
  | [], m => .refl slot m
  | (id, e) :: l, m =>
    (f.root.spends_eval s slot id e m).append (spends_select s f slot l (f.ask s id e m).2)

section Limited

variable {s : Store} {P Q : List Node} (hP : hasLimitAmong P = false)
  (hP' : hasRandomAmong P = false) (hQ : hasLimitAmong Q = false)
  (hQ' : hasRandomAmong Q = false)
include hP hP' hQ hQ'

/-- The limit in a conjunction is asked about the entries on which the conditions before it hold. -/
theorem ask_limited {slot : Nat} {max n : Int64} {m : Memory} (hn : m.counters[slot]? = some n)
    (p : Nat × Entry) :
    (ofNode (.all (P ++ .limit slot max :: Q))).ask s p.1 p.2 m =
      if allHold s P p then
        (decide (0 < n.toNatClampNeg) && allHold s Q p,
          { m with counters := m.counters.set slot (decrement n) })
      else (false, m) := by
  have hask : m.askLimit slot = (decide (0 < n.toNatClampNeg),
      { m with counters := m.counters.set slot (decrement n) }) := by
    rw [Memory.askLimit, hn]
    simp only [decrement_nonneg]
  rw [ask]
  show evalAll s (P ++ .limit slot max :: Q) p.1 p.2 m = _
  rw [evalAll_append, evalAll_eq_all s hP hP', ← allHold]
  cases allHold s P p with
  | false => rfl
  | true =>
    show evalAll s (.limit slot max :: Q) p.1 p.2 m = _
    rw [evalAll, eval, hask, if_pos rfl]
    cases decide (0 < n.toNatClampNeg) with
    | false => rfl
    | true => exact evalAll_eq_all s hQ hQ' p.1 p.2 _

/-- A conjunction with one limit selects among the first entries on which the conditions before the
limit hold. -/
theorem select_limited (slot : Nat) (max : Int64) :
    ∀ (l : List (Nat × Entry)) {n : Int64} {m : Memory}, m.counters[slot]? = some n →
      (select s (ofNode (.all (P ++ .limit slot max :: Q))) l m).1 =
        (((l.filter (allHold s P)).take n.toNatClampNeg).filter (allHold s Q)).map (·.1)
  | [], _, _, _ => by simp [select]
  | p :: l, n, m, hn => by
    have hlt : slot < m.counters.length := (List.getElem?_eq_some_iff.mp hn).1
    have hnext := select_limited slot max l (n := decrement n)
      (m := { m with counters := m.counters.set slot (decrement n) }) (List.getElem?_set_self hlt)
    rw [toNatClampNeg_decrement] at hnext
    rw [select_cons, ask_limited hP hP' hQ hQ' hn, List.filter_cons]
    cases allHold s P p with
    | false => exact select_limited slot max l hn
    | true =>
      rw [if_pos rfl, if_pos rfl]
      dsimp only
      rw [hnext]
      cases n.toNatClampNeg with
      | zero => rfl
      | succ k =>
        rw [List.take_succ_cons, List.filter_cons]
        cases allHold s Q p with
        | true => rfl
        | false => rfl

end Limited

/-- **Limits admit the first.** While a filter is asked about any entries, the limits in a slot give
the answer yes as often as their counter says, and only no after that. So a conjunction with one
limit is always scanned for, and its answer is among the first entries on which the conditions
before the limit hold; it is the same again when more names are known and other draws come. -/
theorem execute_limited (s : Store) :
    (∀ (n : Node) (d : Draws) (l : List (Nat × Entry)), ∀ slot ∈ n.slots,
      ∃ max, (ofNode n).limits[slot]? = some max ∧
        (select s (ofNode n) l ((ofNode n).start d)).2.counters[slot]? =
          some (decrement^[((ofNode n).answersIn slot s l d).length] max) ∧
        ∀ (j : Nat) (yes : Bool), ((ofNode n).answersIn slot s l d)[j]? = some yes →
          (yes = true ↔ (j : Int) + 1 ≤ max.toInt)) ∧
      ∀ (P Q : List Node) (slot : Nat) (max : Int64), hasLimitAmong P = false →
        hasRandomAmong P = false → hasLimitAmong Q = false → hasRandomAmong Q = false →
        ∀ (r : Registry) (d : Draws),
          (execute { s with registry := r } (ofNode (.all (P ++ .limit slot max :: Q))) d).1 =
            ⟨(((s.numbered.filter (allHold s P)).take max.toNatClampNeg).filter
              (allHold s Q)).map (·.1), .fullScan, s.size⟩ := by
  constructor
  · intro n d l slot hslot
    have hlt : slot < (ofNode n).limits.length := lt_length_counters hslot
    have hmax : (ofNode n).limits[slot]? = some (ofNode n).limits[slot] :=
      List.getElem?_eq_getElem hlt
    obtain ⟨hcounter, hanswers⟩ := spends_select s (ofNode n) slot l ((ofNode n).start d) _ hmax
    refine ⟨_, hmax, hcounter, fun j yes hyes => ?_⟩
    rw [hanswers j yes hyes, ← Int64.toNat_toInt]
    omega
  · intro P Q slot max hP hP' hQ hQ' r d
    have hlimit : (Node.all (P ++ .limit slot max :: Q)).hasLimit = true := by
      rw [hasLimit, hasLimitAmong_append]
      simp [hasLimitAmong, hasLimit]
    have hcounter : ((ofNode (.all (P ++ .limit slot max :: Q))).start d).counters[slot]? =
        some max := by
      show (countersAmong (P ++ .limit slot max :: Q) [])[slot]? = some max
      rw [countersAmong_append, countersAmong_eq_self hP, countersAmong,
        countersAmong_eq_self hQ]
      exact getElem?_setCounter max slot []
    rw [execute_of_hasLimit _ hlimit, scan, select_registry]
    exact congrArg (Result.mk · .fullScan s.size)
      (select_limited hP hP' hQ hQ' slot max s.numbered hcounter)

/-- A limit that may be asked twice about an entry. -/
def twice : Node :=
  .any [.not (.limit 0 2), .limit 0 2]

/-- The third answer of a limit, and the twin among the first two entries. -/
theorem execute_limited_twins :
    ∃ s, twins.build = .ok s ∧
      ((ofNode twice).answersIn 0 s s.numbered (Draws.ofList []))[2]? = some false ∧
      (∃ max, (ofNode twice).limits[0]? = some max ∧
        (false = true ↔ ((2 : Nat) : Int) + 1 ≤ max.toInt)) ∧
      (execute { s with registry := .empty }
        (ofNode (.all ([.present ⟨0⟩] ++ .limit 0 2 :: [.equalsFolded ⟨0⟩ "eve"])))
        (Draws.ofList [])).1 = ⟨[0], .fullScan, 3⟩ := by
  have hbuild : twins.build = .ok _ := rfl
  refine ⟨_, hbuild, ?third, ?_, ?_⟩
  · decide +kernel
  · obtain ⟨max, hmax, -, hanswers⟩ :=
      (execute_limited _).1 twice (Draws.ofList []) _ 0 (by decide +kernel)
    exact ⟨max, hmax, hanswers 2 false ?third⟩
  · rw [(execute_limited _).2 [.present ⟨0⟩] [.equalsFolded ⟨0⟩ "eve"] 0 2 rfl rfl rfl rfl]
    decide +kernel

end Query

end Directory
