import Directory.Filter.Basic

/-!
# The conditions in a condition

- `Filter.Node.nodes`: a condition and all conditions in it, depth first and from left to right,
  edge targets included.
- `Filter.Node.attribute?`, `Filter.Node.target?`, `Filter.Node.slot?`: what a condition asks about,
  the condition at the end of an edge, and the slot of a limit.
- `Filter.Node.slots`: the slots of the limits in a condition, in the same order.
- `Filter.Node.counters_eq`: the counters of a condition are set limit by limit.
- `Filter.Node.isOrderDependent_eq`: a filter has counters exactly if it has limits.
- `Filter.Node.limits_ofNode`: counters of limits that are numbered in order.
-/

namespace Directory.Filter.Node

mutual

/-- A condition and all conditions in it, depth first and from left to right. -/
def nodes : Node → List Node
  | all cs => all cs :: nodesAmong cs
  | any cs => any cs :: nodesAmong cs
  | not c => not c :: c.nodes
  | edgeTo d m t => edgeTo d m t :: t.nodes
  | n => [n]

/-- Several conditions and all conditions in them. -/
def nodesAmong : List Node → List Node
  | [] => []
  | c :: cs => c.nodes ++ nodesAmong cs

end

theorem mem_nodes_self (n : Node) : n ∈ n.nodes := by
  cases n <;> simp [nodes]

theorem mem_nodesAmong {n : Node} {cs : List Node} :
    n ∈ nodesAmong cs ↔ ∃ c ∈ cs, n ∈ c.nodes := by
  induction cs with
  | nil => simp [nodesAmong]
  | cons c cs ih => simp [nodesAmong, ih]

mutual

/-- What is in a condition in a condition is in the latter. -/
theorem mem_nodes_trans : ∀ {n m l : Node}, l ∈ m.nodes → m ∈ n.nodes → l ∈ n.nodes
  | all cs, m, l, hl, hm | any cs, m, l, hl, hm => by
    rcases List.mem_cons.mp hm with rfl | hm
    · exact hl
    · exact List.mem_cons_of_mem _ (mem_nodesAmong_trans hl hm)
  | not c, m, l, hl, hm => by
    rcases List.mem_cons.mp hm with rfl | hm
    · exact hl
    · exact List.mem_cons_of_mem _ (mem_nodes_trans hl hm)
  | edgeTo _ _ t, m, l, hl, hm => by
    rcases List.mem_cons.mp hm with rfl | hm
    · exact hl
    · exact List.mem_cons_of_mem _ (mem_nodes_trans hl hm)
  | present .., m, l, hl, hm | equals .., m, l, hl, hm | equalsFolded .., m, l, hl, hm
  | glob .., m, l, hl, hm | regex .., m, l, hl, hm | compare .., m, l, hl, hm
  | allBits .., m, l, hl, hm | anyBit .., m, l, hl, hm | count .., m, l, hl, hm
  | length .., m, l, hl, hm | chain .., m, l, hl, hm | limit .., m, l, hl, hm
  | random .., m, l, hl, hm | edge .., m, l, hl, hm => List.mem_singleton.mp hm ▸ hl

theorem mem_nodesAmong_trans :
    ∀ {cs : List Node} {m l : Node}, l ∈ m.nodes → m ∈ nodesAmong cs → l ∈ nodesAmong cs
  | [], _, _, _, hm => nomatch hm
  | c :: cs, m, l, hl, hm => by
    rcases List.mem_append.mp hm with hm | hm
    · exact List.mem_append_left _ (mem_nodes_trans hl hm)
    · exact List.mem_append_right _ (mem_nodesAmong_trans hl hm)

end

/-- The attribute of a condition. -/
def attribute? : Node → Option Attribute
  | present a | equals a _ | equalsFolded a _ | glob a _ _ | regex a _ _ | compare a _ _
  | allBits a _ | anyBit a _ | count a _ _ | length a _ _ | chain a _ => some a
  | _ => none

/-- The condition at the end of an edge. -/
def target? : Node → Option Node
  | edgeTo _ _ t => some t
  | _ => none

theorem nodes_of_target? {n t c : Node} (ht : t ∈ n.target?) (hc : c ∈ t.nodes) : c ∈ n.nodes := by
  cases n with
  | edgeTo e m u =>
    obtain rfl : u = t := Option.some.inj ht
    exact List.mem_cons_of_mem _ hc
  | _ => exact nomatch ht

/-! ## Limits and their counters -/

/-- The slot of a limit and its number. -/
def limit? : Node → Option (Nat × Int64)
  | limit slot max => some (slot, max)
  | _ => none

/-- The slot of a limit. -/
def slot? : Node → Option Nat
  | limit slot _ => some slot
  | _ => none

/-- The slots of the limits in a condition. -/
def slots (n : Node) : List Nat :=
  n.nodes.filterMap slot?

/-- The slots of the limits in several conditions. -/
def slotsAmong (cs : List Node) : List Nat :=
  (nodesAmong cs).filterMap slot?

theorem slot?_eq (n : Node) : n.slot? = n.limit?.map (·.1) := by
  cases n <;> rfl

theorem filterMap_slot? (ns : List Node) :
    ns.filterMap slot? = (ns.filterMap limit?).map (·.1) := by
  rw [List.map_filterMap]
  exact congrArg (ns.filterMap ·) (funext slot?_eq)

theorem slotsAmong_cons (c : Node) (cs : List Node) :
    slotsAmong (c :: cs) = c.slots ++ slotsAmong cs := by
  rw [slotsAmong, nodesAmong, List.filterMap_append]
  rfl

mutual

/-- The limits that are looked for in a condition are those that stand in it. -/
theorem slots_eq_nil_iff : ∀ {n : Node}, n.slots = [] ↔ n.hasLimit = false
  | all cs | any cs => @slotsAmong_eq_nil_iff cs
  | not c => @slots_eq_nil_iff c
  | edgeTo _ _ t => @slots_eq_nil_iff t
  | limit .. => ⟨nofun, nofun⟩
  | present .. | equals .. | equalsFolded .. | glob .. | regex .. | compare .. | allBits ..
  | anyBit .. | count .. | length .. | chain .. | random .. | edge .. =>
    ⟨fun _ => rfl, fun _ => rfl⟩

theorem slotsAmong_eq_nil_iff : ∀ {cs : List Node}, slotsAmong cs = [] ↔ hasLimitAmong cs = false
  | [] => ⟨fun _ => rfl, fun _ => rfl⟩
  | c :: cs => by
    rw [slotsAmong_cons, List.append_eq_nil_iff, hasLimitAmong, Bool.or_eq_false_iff,
      slots_eq_nil_iff, slotsAmong_eq_nil_iff]

end

theorem length_setCounter (n : Int64) :
    ∀ (slot : Nat) (l : List Int64), (setCounter n slot l).length = max l.length (slot + 1)
  | 0, [] => rfl
  | 0, m :: l => (Nat.max_eq_left (Nat.le_add_left 1 l.length)).symm
  | slot + 1, [] => by
    rw [setCounter, List.length_cons, length_setCounter n slot []]
    simp
  | slot + 1, m :: l => by
    rw [setCounter, List.length_cons, List.length_cons, length_setCounter n slot l]
    omega

theorem getElem?_setCounter (n : Int64) :
    ∀ (slot : Nat) (l : List Int64), (setCounter n slot l)[slot]? = some n
  | 0, [] | 0, _ :: _ => rfl
  | slot + 1, [] => getElem?_setCounter n slot []
  | slot + 1, _ :: l => getElem?_setCounter n slot l

theorem setCounter_length (n : Int64) : ∀ l : List Int64, setCounter n l.length l = l ++ [n]
  | [] => rfl
  | m :: l => congrArg (m :: ·) (setCounter_length n l)

/-- The counters after those of several limits are set, one after the other. -/
def setCounters (ps : List (Nat × Int64)) (l : List Int64) : List Int64 :=
  ps.foldl (fun l p => setCounter p.2 p.1 l) l

theorem setCounters_cons (p : Nat × Int64) (ps : List (Nat × Int64)) (l : List Int64) :
    setCounters (p :: ps) l = setCounters ps (setCounter p.2 p.1 l) := rfl

theorem setCounters_append (ps qs : List (Nat × Int64)) (l : List Int64) :
    setCounters (ps ++ qs) l = setCounters qs (setCounters ps l) :=
  List.foldl_append

/-- There are counters up to the greatest slot. -/
theorem lt_length_setCounters {k : Nat} {ps : List (Nat × Int64)} {l : List Int64} :
    k < (setCounters ps l).length ↔ k < l.length ∨ ∃ p ∈ ps, k ≤ p.1 := by
  induction ps generalizing l with
  | nil => simp [setCounters]
  | cons p ps ih =>
    have hmax : k < max l.length (p.1 + 1) ↔ k < l.length ∨ k ≤ p.1 := by omega
    rw [setCounters_cons, ih, length_setCounter, hmax, or_assoc]
    simp only [List.mem_cons, exists_eq_or_imp]

/-- Limits that are numbered on from the counters that there are add one counter each to them. -/
theorem setCounters_eq_append {ps : List (Nat × Int64)} {l : List Int64}
    (h : ps.map (·.1) = List.range' l.length ps.length) :
    setCounters ps l = l ++ ps.map (·.2) := by
  induction ps generalizing l with
  | nil => exact l.append_nil.symm
  | cons p ps ih =>
    obtain ⟨hp, hps⟩ : p.1 = l.length ∧ ps.map (·.1) = List.range' (l.length + 1) ps.length :=
      List.cons.inj h
    have hnext : (l ++ [p.2]).length = l.length + 1 := List.length_append
    rw [setCounters_cons, hp, setCounter_length, ih (hnext ▸ hps), List.append_assoc]
    rfl

mutual

/-- The counters of a condition are set limit by limit, in the order in which the limits stand. -/
theorem counters_eq : ∀ (n : Node) (l : List Int64),
    n.counters l = setCounters (n.nodes.filterMap limit?) l
  | all cs, l | any cs, l => countersAmong_eq cs l
  | not c, l => counters_eq c l
  | edgeTo _ _ t, l => counters_eq t l
  | limit .., _ => rfl
  | present .., _ | equals .., _ | equalsFolded .., _ | glob .., _ | regex .., _ | compare .., _
  | allBits .., _ | anyBit .., _ | count .., _ | length .., _ | chain .., _ | random .., _
  | edge .., _ => rfl

theorem countersAmong_eq : ∀ (cs : List Node) (l : List Int64),
    countersAmong cs l = setCounters ((nodesAmong cs).filterMap limit?) l
  | [], _ => rfl
  | c :: cs, l => by
    rw [countersAmong, nodesAmong, List.filterMap_append, setCounters_append, ← counters_eq,
      countersAmong_eq]

end

theorem lt_length_limits {n : Node} {k : Nat} :
    k < (ofNode n).limits.length ↔ ∃ slot ∈ n.slots, k ≤ slot := by
  rw [ofNode, counters_eq, lt_length_setCounters, slots, filterMap_slot?]
  simp [List.mem_map]

/-- There is a counter for the slot of every limit. -/
theorem lt_length_counters {n : Node} {slot : Nat} (h : slot ∈ n.slots) :
    slot < (ofNode n).limits.length :=
  lt_length_limits.mpr ⟨slot, h, Nat.le_refl slot⟩

/-- Conditions without limits set no counters. -/
theorem countersAmong_eq_self {cs : List Node} (h : hasLimitAmong cs = false) (l : List Int64) :
    countersAmong cs l = l := by
  have hslots : slotsAmong cs = [] := slotsAmong_eq_nil_iff.mpr h
  rw [slotsAmong, filterMap_slot?, List.map_eq_nil_iff] at hslots
  rw [countersAmong_eq, hslots]
  rfl

theorem countersAmong_append (cs ds : List Node) (l : List Int64) :
    countersAmong (cs ++ ds) l = countersAmong ds (countersAmong cs l) := by
  induction cs generalizing l with
  | nil => rfl
  | cons c cs ih => exact ih (c.counters l)

/-- A filter has counters exactly if it has limits. -/
theorem isOrderDependent_eq (n : Node) : (ofNode n).isOrderDependent = n.hasLimit := by
  have hpos : 0 < (ofNode n).limits.length ↔ n.slots ≠ [] := by
    rw [lt_length_limits, ← List.length_pos_iff, List.length_pos_iff_exists_mem]
    simp only [Nat.zero_le, and_true]
  rw [isOrderDependent, Bool.eq_iff_iff, Bool.not_eq_true', List.isEmpty_eq_false_iff,
    ← List.length_pos_iff, hpos, ne_eq, slots_eq_nil_iff, Bool.not_eq_false]

/-- A filter without counters has no limits. -/
theorem hasLimit_of_limits {n : Node} (h : (ofNode n).isOrderDependent = false) :
    n.hasLimit = false :=
  (isOrderDependent_eq n).symm.trans h

/-- If the limits of a condition are numbered from zero, each finds its number as the counter in its
slot, and there are no other counters. -/
theorem limits_ofNode {n : Node} (h : n.slots = List.range n.slots.length) :
    (ofNode n).limits.length = n.slots.length ∧
      ∀ slot max, limit slot max ∈ n.nodes → (ofNode n).limits[slot]? = some max := by
  have hnumbered : (n.nodes.filterMap limit?).map (·.1) =
      List.range' 0 (n.nodes.filterMap limit?).length := by
    rw [slots, filterMap_slot?, List.length_map, List.range_eq_range'] at h
    exact h
  have hcounters : (ofNode n).limits = (n.nodes.filterMap limit?).map (·.2) :=
    (counters_eq n []).trans (setCounters_eq_append hnumbered)
  rw [hcounters, slots, filterMap_slot?, List.length_map, List.length_map]
  refine ⟨rfl, fun slot max hmem => ?_⟩
  obtain ⟨i, hi⟩ := List.mem_iff_getElem?.mp (List.mem_filterMap.mpr ⟨_, hmem, rfl⟩ :
    (slot, max) ∈ n.nodes.filterMap limit?)
  -- the slot is the place of the limit among the limits
  have hslot : n.slots[i]? = some slot := by
    rw [slots, filterMap_slot?, List.getElem?_map, hi]
    rfl
  rw [h] at hslot
  obtain ⟨_, hplace⟩ := List.getElem?_eq_some_iff.mp hslot
  rw [List.getElem_range] at hplace
  rw [← hplace, List.getElem?_map, hi]
  rfl

end Directory.Filter.Node
