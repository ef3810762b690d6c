import Directory.Proofs.Filter.Stateless
import Directory.Proofs.Filter.Tree
import Directory.Proofs.Store.Contents

/-!
# Asking a filter without memory

An evaluation asks one filter about many entries, in any order and also more than once. If neither
limits nor random conditions occur in the filter, each entry gets the answer that it gets alone.

- `Filter.Node.pwn`: both kinds of conditions on edges as one.
- `Filter.Node.memoryless_of_mem_nodes`: what is in a condition without memory has none either.
- `Filter.Node.eval_pwn_iff`: when a condition on edges holds.
- `Store.Builder.exists_entry?_far`: in a finished store edges lead to entries.
- `Filter.askEach`: the answers for entries that are shown one after the other.
- `Filter.ask_memoryless`: the answers of a filter without memory.
-/

namespace Directory

namespace Store.Builder

/-! ## Where edges lead -/

theorem exists_recorded_advance {b : Builder} {es : List Edge} (h : b.Recorded es) (x : Step) :
    ∃ es', (b.advance x).Recorded es' := by
  cases x with
  | call c => exact ⟨_, h.perform c⟩
  | register name flags => exact ⟨es, h.ends, h.links⟩
  | intern name => exact ⟨es, h.ends, h.links⟩

theorem exists_recorded_foldl (steps : List Step) {b : Builder} {es : List Edge}
    (h : b.Recorded es) : ∃ es', (steps.foldl advance b).Recorded es' := by
  induction steps generalizing b es with
  | nil => exact ⟨es, h⟩
  | cons x rest ih =>
    obtain ⟨_, hx⟩ := exists_recorded_advance h x
    exact ih hx

/-- The edges of a finished store lead to its entries. -/
theorem exists_entry?_far {r : Registry} {steps : List Step} {s : Store}
    (hs : (steps.foldl advance { registry := r }).build = .ok s) {d : Direction} {id : Nat}
    {x : Edge} (hx : x ∈ s.edgesAt d id) : ∃ e, s.entry? (x.far d) = some e := by
  obtain ⟨es, hrecorded⟩ := exists_recorded_foldl steps (recorded_nil r)
  rw [hrecorded.edgesAt hs] at hx
  have hmem : x ∈ es := (List.mem_filter.mp hx).1
  have hlt : x.far d < s.entries.length := by
    rw [(build_eq_ok hs).1]
    cases d
    · exact hrecorded.ends x hmem .pwnableBy
    · exact hrecorded.ends x hmem .canPwn
  exact ⟨_, List.getElem?_eq_getElem hlt⟩

end Store.Builder

namespace Filter

namespace Node

/-! ## Conditions in conditions without memory -/

mutual

/-- What is in a condition without limits and random conditions is without them too. -/
theorem memoryless_of_mem_nodes :
    ∀ {n m : Node}, n.hasLimit = false → n.hasRandom = false → m ∈ n.nodes →
      m.hasLimit = false ∧ m.hasRandom = false
  | all cs, m, hl, hr, hm | any cs, m, hl, hr, hm => by
    rcases List.mem_cons.mp hm with rfl | hm
    · exact ⟨hl, hr⟩
    · exact @memoryless_of_mem_nodesAmong cs m hl hr hm
  | not c, m, hl, hr, hm => by
    rcases List.mem_cons.mp hm with rfl | hm
    · exact ⟨hl, hr⟩
    · exact memoryless_of_mem_nodes (n := c) hl hr hm
  | edgeTo _ _ t, m, hl, hr, hm => by
    rcases List.mem_cons.mp hm with rfl | hm
    · exact ⟨hl, hr⟩
    · exact memoryless_of_mem_nodes (n := t) hl hr hm
  | present .., m, hl, hr, hm | equals .., m, hl, hr, hm | equalsFolded .., m, hl, hr, hm
  | glob .., m, hl, hr, hm | regex .., m, hl, hr, hm | compare .., m, hl, hr, hm
  | allBits .., m, hl, hr, hm | anyBit .., m, hl, hr, hm | count .., m, hl, hr, hm
  | length .., m, hl, hr, hm | chain .., m, hl, hr, hm | limit .., m, hl, hr, hm
  | random .., m, hl, hr, hm | edge .., m, hl, hr, hm =>
    List.mem_singleton.mp hm ▸ ⟨hl, hr⟩

theorem memoryless_of_mem_nodesAmong :
    ∀ {cs : List Node} {m : Node}, hasLimitAmong cs = false → hasRandomAmong cs = false →
      m ∈ nodesAmong cs → m.hasLimit = false ∧ m.hasRandom = false
  | [], _, _, _, hm => nomatch hm
  | c :: cs, m, hl, hr, hm => by
    rw [hasLimitAmong, Bool.or_eq_false_iff] at hl
    rw [hasRandomAmong, Bool.or_eq_false_iff] at hr
    rcases List.mem_append.mp hm with hm | hm
    · exact memoryless_of_mem_nodes hl.1 hr.1 hm
    · exact memoryless_of_mem_nodesAmong hl.2 hr.2 hm

end

/-! ## Conditions on edges -/

/-- There is an edge, of the given method if there is one, to an entry on which the target condition
holds if there is one. -/
def pwn (d : Direction) (method : Option AttackMethod) : Option Node → Node
  | none => edge d method
  | some t => edgeTo d method t

theorem mem_edgesBy {s : Store} {d : Direction} {method : Option AttackMethod} {id : Nat}
    {x : Edge} : x ∈ edgesBy s d method id ↔
      x ∈ s.edgesAt d id ∧ ∀ y ∈ method, y = x.method := by
  rw [edgesBy, List.mem_filter, Option.all_eq_true]
  simp only [beq_iff_eq, Option.mem_def]

/-- A condition on edges holds exactly if an edge leads to an entry on which the target holds. -/
theorem eval_pwn_iff {s : Store} {d : Direction} {id : Nat}
    (hfar : ∀ x ∈ s.edgesAt d id, ∃ e, s.entry? (x.far d) = some e)
    (method : Option AttackMethod) {target : Option Node}
    (hl : (pwn d method target).hasLimit = false) (hr : (pwn d method target).hasRandom = false)
    (e : Entry) (m m' : Memory) :
    ((pwn d method target).eval s id e m).1 = true ↔
      ∃ x ∈ s.edgesAt d id, (∀ y ∈ method, y = x.method) ∧ ∃ e', s.entry? (x.far d) = some e' ∧
        ∀ t ∈ target, (t.eval s (x.far d) e' m').1 = true := by
  cases target with
  | none =>
    -- nothing is asked of the other end, so it only matters that there is one
    rw [pwn, eval, Bool.not_eq_true', List.isEmpty_eq_false_iff_exists_mem]
    constructor
    · rintro ⟨x, hx⟩
      obtain ⟨hx, hmethod⟩ := mem_edgesBy.mp hx
      obtain ⟨e', he'⟩ := hfar x hx
      exact ⟨x, hx, hmethod, e', he', nofun⟩
    · rintro ⟨x, hx, hmethod, -⟩
      exact ⟨x, mem_edgesBy.mpr ⟨hx, hmethod⟩⟩
  | some t =>
    have hlt : t.hasLimit = false := hl
    have hrt : t.hasRandom = false := hr
    rw [eval_eq_holds s hl hr, pwn, holds_edgeTo s d method hlt hrt, List.any_eq_true]
    constructor
    · rintro ⟨x, hx, hholds⟩
      obtain ⟨hx, hmethod⟩ := mem_edgesBy.mp hx
      obtain ⟨e', he', hyes⟩ := (Option.any_eq_true _ _).mp hholds
      refine ⟨x, hx, hmethod, e', he', ?_⟩
      rintro _ ⟨⟩
      rw [eval_eq_holds s hlt hrt, hyes]
    · rintro ⟨x, hx, hmethod, e', he', hyes⟩
      refine ⟨x, mem_edgesBy.mpr ⟨hx, hmethod⟩, (Option.any_eq_true _ _).mpr ⟨e', he', ?_⟩⟩
      have ht := hyes t rfl
      rwa [eval_eq_holds s hlt hrt] at ht

end Node

/-! ## Asking about many entries -/

/-- The answers for entries that are shown one after the other, and what is carried on. -/
def askEach (f : Filter) (s : Store) : List (Nat × Entry) → Memory → List Bool × Memory
  | [], m => ([], m)
  | (id, e) :: shown, m =>
    let (yes, m) := f.ask s id e m
    let (answers, m) := askEach f s shown m
    (yes :: answers, m)

/-- If each question has one answer and leaves the memory as it is, so have all of them together. -/
theorem askEach_eq_map {f : Filter} {s : Store} {yes : Nat → Entry → Bool}
    (h : ∀ id e m, f.ask s id e m = (yes id e, m)) (shown : List (Nat × Entry)) (m : Memory) :
    f.askEach s shown m = (shown.map fun p => yes p.1 p.2, m) := by
  induction shown with
  | nil => rfl
  | cons p shown ih =>
    rw [askEach, h]
    dsimp only
    rw [ih, List.map_cons]

/-- **Answers without memory.** A filter in which neither limits nor random conditions occur has for
each entry the answer of a fresh evaluation, whatever was carried along, and leaves that as it is.
So entries may be shown in any order and also more than once. A condition on edges in it, however
deep, holds exactly if an edge leads to an entry on which the target holds. -/
theorem ask_memoryless {r : Registry} {steps : List Store.Builder.Step} {s : Store}
    (hs : (steps.foldl Store.Builder.advance { registry := r }).build = .ok s) (named : Registry)
    {f : Filter} (hl : f.root.hasLimit = false) (hr : f.root.hasRandom = false) (fresh : Draws) :
    let s := { s with registry := named }
    (∀ id e m, f.ask s id e m = ((f.ask s id e (f.start fresh)).1, m)) ∧
    (∀ shown m,
      f.askEach s shown m = (shown.map fun p => (f.ask s p.1 p.2 (f.start fresh)).1, m)) ∧
    ∀ d method target, Node.pwn d method target ∈ f.root.nodes → ∀ id e m m',
      ((Node.pwn d method target).eval s id e m).1 = true ↔
        ∃ x ∈ s.edgesAt d id, (∀ y ∈ method, y = x.method) ∧
          ∃ e', s.entry? (x.far d) = some e' ∧
            ∀ t ∈ target, (t.eval s (x.far d) e' m').1 = true := by
  intro s'
  have hask : ∀ id e m, f.ask s' id e m = ((f.ask s' id e (f.start fresh)).1, m) := by
    intro id e m
    obtain ⟨yes, hyes⟩ := Node.eval_stateless s' hl hr id e
    rw [ask, ask, hyes, hyes]
  refine ⟨hask, askEach_eq_map hask, ?_⟩
  intro d method target hmem id e m m'
  obtain ⟨hl, hr⟩ := Node.memoryless_of_mem_nodes hl hr hmem
  have hfar : ∀ x ∈ s'.edgesAt d id, ∃ e, s'.entry? (x.far d) = some e :=
    fun x hx => Store.Builder.exists_entry?_far hs hx
  exact Node.eval_pwn_iff hfar method hl hr e m m'

/-- Three entries, of which the first owns the second and that one the third. -/
def stairs : List Store.Builder.Step :=
  [.call (.add ⟨"CN=1", none, none, []⟩ ⟨1⟩), .call (.add ⟨"CN=2", none, none, []⟩ ⟨2⟩),
   .call (.add ⟨"CN=3", none, none, []⟩ ⟨3⟩), .call (.addEdge ⟨0, 1, .owns⟩),
   .call (.addEdge ⟨1, 2, .owns⟩)]

/-- Something leads to an owner of the third entry. -/
def climb : Node :=
  .pwn .canPwn none (some (.pwn .canPwn (some .owns) (some (.equals ⟨0⟩ "CN=3"))))

theorem ask_memoryless_stairs :
    ∃ s e e', (stairs.foldl Store.Builder.advance { registry := .empty }).build = .ok s ∧
      s.entry? 0 = some e ∧ s.entry? 1 = some e' ∧ ∀ m,
        (ofNode climb).askEach s [(0, e), (1, e'), (0, e)] m = ([true, false, true], m) ∧
        (climb.eval s 0 e m).1 = true := by
  let b := stairs.foldl Store.Builder.advance { registry := .empty }
  have hbuild : b.build = .ok _ := rfl
  obtain ⟨-, heach, hpwn⟩ := ask_memoryless hbuild b.registry (f := ofNode climb) rfl rfl
    (Draws.ofList [])
  refine ⟨_, b.entries[0], b.entries[1], hbuild, rfl, rfl, fun m => ⟨(heach _ m).trans ?_, ?_⟩⟩
  · exact congrArg (·, m) (by decide +kernel)
  · refine (hpwn _ _ _ (Node.mem_nodes_self _) 0 _ m ⟨[], Draws.ofList []⟩).mpr
      ⟨⟨0, 1, .owns⟩, ?_, nofun, b.entries[1], rfl, ?_⟩
    · decide +kernel
    · rintro _ ⟨⟩
      decide +kernel

end Filter

end Directory
