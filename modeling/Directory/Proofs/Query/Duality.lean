import Directory.Proofs.Filter.Agreement
import Directory.Proofs.Query.Algebra
import Directory.Proofs.Store.Loading

/-!
# Edges seen from both of their ends

An edge can be asked for from the entry where it starts and from the one where it ends. Either way
the recorded edges decide the answer, so an attack that shows from one end shows from the other.

- `Store.Arises`: the stores that are built by calls or loaded from object files, with the edges
  that were recorded on the way.
- `Query.Question.holds_edgeTo`: a condition on the other end of an edge holds where a recorded edge
  leads to the answer of a question.
- `Query.execute_dual`: the answers from both ends.
-/

namespace Directory

open Store.Builder (run accepted)

/-- The stores that are built or loaded, with the edges that are recorded in them. -/
inductive Store.Arises : Store → List Edge → Prop where
  /-- A store is built by calls. Edges that are refused are not recorded. -/
  | built (r : Registry) (calls : List Store.Builder.Call) {s : Store} :
      (run { registry := r } calls).build = .ok s →
        Arises s (accepted { registry := r } calls)
  /-- A store is loaded from an object file. -/
  | loaded (indexed : List String) (spares : Store.Spares) {d : Document} {s : Store} :
      Store.ofDocument indexed spares d = .ok s → Arises s d.edges

namespace Store.Arises

variable {s : Store} {es : List Edge}

theorem indexed (h : s.Arises es) : s.Indexed := by
  cases h with
  | built r calls hs => exact Store.Builder.indexed_of_build hs
  | loaded indexed spares hs => exact (Document.loaded_of_ok hs).indexed

/-- The edges that can be followed are the recorded ones. -/
theorem edgesAt (h : s.Arises es) (d : Direction) (id : Nat) :
    s.edgesAt d id = edgesFrom d id es := by
  cases h with
  | built r calls hs => exact (Store.Builder.recorded_run r calls).edgesAt hs d id
  | loaded indexed spares hs => exact (Document.loaded_of_ok hs).edgesAt d id

end Store.Arises

namespace Query

open Directory.Filter Directory.Filter.Node

theorem FoldedLiterals.all {cs : List Node} (h : ∀ c ∈ cs, FoldedLiterals c) :
    FoldedLiterals (.all cs) := by
  intro a text hmem
  rcases List.mem_cons.mp hmem with heq | hmem
  · exact nomatch heq
  · obtain ⟨c, hc, hmem⟩ := mem_nodesAmong.mp hmem
    exact h c hc a text hmem

theorem FoldedLiterals.edgeTo {n : Node} (h : FoldedLiterals n) (d : Direction)
    (m : Option AttackMethod) : FoldedLiterals (.edgeTo d m n) := by
  intro a text hmem
  rcases List.mem_cons.mp hmem with heq | hmem
  · exact nomatch heq
  · exact h a text hmem

namespace Question

variable [Regex.Properties] {s : Store} {es : List Edge}

/-- A condition on the other end of an edge holds of the entries from which a recorded edge leads to
an entry in the answer to the question. -/
theorem holds_edgeTo (hs : s.Arises es) (q : Question s) (d : Direction) (m : Option AttackMethod)
    (id : Nat) (e : Entry) :
    (Node.edgeTo d m q.filter.root).holds s id e =
      decide (∃ x ∈ es, x.near d = id ∧ (∀ y ∈ m, y = x.method) ∧ x.far d ∈ q.answer) := by
  rw [Node.holds_edgeTo s d m q.hasLimit_eq q.hasRandom_eq, edgesBy, hs.edgesAt, Bool.eq_iff_iff,
    decide_eq_true_iff, List.any_eq_true]
  have hmem : ∀ x : Edge, x ∈ (edgesFrom d id es).filter (fun x => m.all (· == x.method)) ↔
      x ∈ es ∧ x.near d = id ∧ ∀ y ∈ m, y = x.method := by
    intro x
    rw [List.mem_filter, edgesFrom, List.mem_filter, beq_iff_eq, Option.all_eq_true, and_assoc]
    simp
  refine exists_congr fun x => ?_
  rw [hmem, mem_answer_iff hs.indexed, Option.any_eq_true]
  simp only [and_assoc]

/-- The answer to a question about the other end of an edge. -/
theorem matched_edgeTo (hs : s.Arises es) (q : Question s) (d : Direction)
    (m : Option AttackMethod) (r : Registry) (draws : Draws) :
    (execute { s with registry := r } (ofNode (.edgeTo d m q.filter.root)) draws).1.matched =
      (List.range s.size).filter fun id =>
        ∃ x ∈ es, x.near d = id ∧ (∀ y ∈ m, y = x.method) ∧ x.far d ∈ q.answer := by
  have hindexed : Store.Indexed { s with registry := r } := fun hx => hs.indexed hx
  rw [matched_execute hindexed (q.filter_eq.2.edgeTo d m) q.hasLimit_eq q.hasRandom_eq]
  refine map_fst_filter_eq fun p _ => ?_
  rw [holds_registry, holds_edgeTo hs]

/-- The answer to a question together with one about the other end of an edge. -/
theorem matched_all_edgeTo (hs : s.Arises es) (p q : Question s) (d : Direction)
    (m : Option AttackMethod) (r : Registry) (draws : Draws) :
    (execute { s with registry := r }
        (ofNode (.all [p.filter.root, .edgeTo d m q.filter.root])) draws).1.matched =
      (List.range s.size).filter fun id => id ∈ p.answer ∧
        ∃ x ∈ es, x.near d = id ∧ (∀ y ∈ m, y = x.method) ∧ x.far d ∈ q.answer := by
  have hindexed : Store.Indexed { s with registry := r } := fun hx => hs.indexed hx
  have hfold : FoldedLiterals (.all [p.filter.root, .edgeTo d m q.filter.root]) := by
    refine FoldedLiterals.all fun c hc => ?_
    rcases List.mem_cons.mp hc with rfl | hc
    · exact p.filter_eq.2
    · rw [List.mem_singleton.mp hc]
      exact q.filter_eq.2.edgeTo d m
  have hlimit : hasLimitAmong [p.filter.root, .edgeTo d m q.filter.root] = false := by
    rw [hasLimitAmong, hasLimitAmong, hasLimitAmong, p.hasLimit_eq, hasLimit, q.hasLimit_eq]
    rfl
  have hrandom : hasRandomAmong [p.filter.root, .edgeTo d m q.filter.root] = false := by
    rw [hasRandomAmong, hasRandomAmong, hasRandomAmong, p.hasRandom_eq, hasRandom,
      q.hasRandom_eq]
    rfl
  rw [matched_execute hindexed hfold hlimit hrandom]
  refine map_fst_filter_eq fun k hk => ?_
  rw [holds_registry, holds_all s hlimit hrandom, List.all_cons, List.all_cons, List.all_nil,
    Bool.and_true, holds_edgeTo hs, Bool.eq_iff_iff, Bool.and_eq_true, ← p.mem_answer hs.indexed hk,
    decide_eq_true_iff, decide_eq_true_iff]

/-- Something is found where a recorded edge joins the answers to both questions. -/
theorem matched_all_edgeTo_ne_nil (hs : s.Arises es) (p q : Question s) (d : Direction)
    (m : Option AttackMethod) (r : Registry) (draws : Draws) :
    (execute { s with registry := r }
        (ofNode (.all [p.filter.root, .edgeTo d m q.filter.root])) draws).1.matched ≠ [] ↔
      ∃ x ∈ es, (∀ y ∈ m, y = x.method) ∧ x.near d ∈ p.answer ∧ x.far d ∈ q.answer := by
  rw [matched_all_edgeTo hs]
  constructor
  · intro hfound
    obtain ⟨id, hid⟩ := List.exists_mem_of_ne_nil _ hfound
    rw [List.mem_filter, decide_eq_true_iff] at hid
    obtain ⟨-, hp, x, hx, rfl, hmethod, hq⟩ := hid
    exact ⟨x, hx, hmethod, hp, hq⟩
  · rintro ⟨x, hx, hmethod, hp, hq⟩
    obtain ⟨e, he, -⟩ := (p.mem_answer_iff hs.indexed).mp hp
    have hlt : x.near d < s.size := (List.getElem?_eq_some_iff.mp he).1
    refine List.ne_nil_of_mem (List.mem_filter.mpr ⟨List.mem_range.mpr hlt, ?_⟩)
    exact decide_eq_true ⟨hp, x, hx, rfl, hmethod, hq⟩

end Question

/-- **Duality.** The entries that can take over an entry in the answer to a question are those with
a recorded edge to it, and the entries that can be taken over from there are those to which a
recorded edge leads. So from the answer to one question an attack on the answer to another one is
found from either end. -/
theorem execute_dual [Regex.Properties] {s : Store} {es : List Edge} (hs : s.Arises es)
    (f g : Question s) (m : Option AttackMethod) (r : Registry) (d : Draws) :
    (execute { s with registry := r } (ofNode (.edgeTo .canPwn m g.filter.root)) d).1.matched =
        (List.range s.size).filter (fun id => ∃ x ∈ es,
          x.source = id ∧ (∀ y ∈ m, y = x.method) ∧ x.target ∈ g.answer) ∧
      (execute { s with registry := r } (ofNode (.edgeTo .pwnableBy m f.filter.root)) d).1.matched =
        (List.range s.size).filter (fun id => ∃ x ∈ es,
          x.target = id ∧ (∀ y ∈ m, y = x.method) ∧ x.source ∈ f.answer) ∧
      ((execute { s with registry := r }
          (ofNode (.all [f.filter.root, .edgeTo .canPwn m g.filter.root])) d).1.matched ≠ [] ↔
        (execute { s with registry := r }
          (ofNode (.all [g.filter.root, .edgeTo .pwnableBy m f.filter.root])) d).1.matched ≠
            []) := by
  refine ⟨Question.matched_edgeTo hs g .canPwn m r d, Question.matched_edgeTo hs f .pwnableBy m r d,
    ?_⟩
  rw [Question.matched_all_edgeTo_ne_nil hs, Question.matched_all_edgeTo_ne_nil hs]
  refine exists_congr fun x => and_congr_right fun _ => and_congr_right fun _ => ?_
  exact and_comm

/-- The attack of an entry that an index finds on entries that a scan finds, from either end. -/
theorem execute_dual_entangled :
    ∃ s, Store.ofDocument ["CN"] (fun _ => ⟨0⟩) Document.entangled = .ok s ∧
      ∃ f g : Question s, f.text = "(cn=EVE)" ∧ g.text = "(!(ou=x))" ∧
        ((execute s (ofNode (.all [f.filter.root,
            .edgeTo .canPwn (some .owns) g.filter.root])) f.draws).1.matched ≠ [] ↔
          (execute s (ofNode (.all [g.filter.root,
            .edgeTo .pwnableBy (some .owns) f.filter.root])) f.draws).1.matched ≠ []) := by
  have hconsistent : Document.entangled.Consistent :=
    Document.fault?_eq_none_iff.mp (by decide +kernel)
  obtain ⟨s, hs⟩ : ∃ s, Store.ofDocument ["CN"] (fun _ => ⟨0⟩) Document.entangled = .ok s :=
    Document.exists_ofDocument_iff.mpr hconsistent
  have hf : ∃ f r, Filter.read .empty "(cn=EVE)" = ⟨.ok f, r⟩ ∧ f.root.hasLimit = false ∧
      f.root.hasRandom = false := by decide +kernel
  have hg : ∃ f r, Filter.read .empty "(!(ou=x))" = ⟨.ok f, r⟩ ∧ f.root.hasLimit = false ∧
      f.root.hasRandom = false := by decide +kernel
  -- what is accepted with no attribute known is accepted with those of the store
  obtain ⟨_, _, hread, hlimit, hrandom⟩ := hf
  obtain ⟨f, r, hf, hfl, hfr⟩ := exists_read hread s.registry
  obtain ⟨_, _, hread', hlimit', hrandom'⟩ := hg
  obtain ⟨g, r', hg, hgl, hgr⟩ := exists_read hread' s.registry
  let p : Question s := ⟨_, _, .refl _, f, r, hf, hfl.trans hlimit, hfr.trans hrandom,
    Draws.ofList []⟩
  let q : Question s := ⟨_, _, .refl _, g, r', hg, hgl.trans hlimit', hgr.trans hrandom',
    Draws.ofList [1]⟩
  exact ⟨s, hs, p, q, rfl, rfl,
    (execute_dual (.loaded _ _ hs) p q (some .owns) s.registry p.draws).2.2⟩

end Query

end Directory
