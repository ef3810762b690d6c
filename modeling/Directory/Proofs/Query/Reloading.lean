import Directory.Proofs.Filter.Agreement
import Directory.Proofs.Filter.Renumbering
import Directory.Proofs.Filter.Sampling
import Directory.Proofs.Query.Algebra
import Directory.Proofs.Store.Reloading
import Mathlib.Data.List.Nodup

/-!
# Answers after loading again

An object file may be loaded with an index of other attributes, or with its entries and edges in
another order. Neither shows in which texts are accepted, nor in the answers, unless they depend on
chance or on the order in which entries are asked about.

- `Query.scan_alike`, `Query.select_withDraws`: what a scan does not depend on.
- `Query.execute_configured`: the indexes do not show.
- `Query.execute_reordered`: the order of the object file does not show.
-/

namespace Directory

namespace Query

open Directory.Filter Directory.Filter.Node

/-! ## Scans -/

section Scan

variable {R : Attribute → Attribute → Prop} {s s' : Store} {n n' : Node}

/-- Entries are selected alike if the same question has the same answer for those in one place. -/
theorem select_congr {f f' : Filter} {l l' : List (Nat × Entry)}
    (h : List.Forall₂ (fun p q => p.1 = q.1 ∧ ∀ m, f.ask s p.1 p.2 m = f'.ask s' q.1 q.2 m) l l')
    (m : Memory) : select s f l m = select s' f' l' m := by
  induction h generalizing m with
  | nil => rfl
  | cons hpq _ ih => rw [select_cons, select_cons, hpq.2, ih, hpq.1]

theorem forall₂_numbered {P : Entry → Entry → Prop} {es es' : List Entry}
    (h : List.Forall₂ P es es') (k : Nat) :
    List.Forall₂ (fun p q => p.1 = q.1 ∧ P p.2 q.2) ((es.zipIdx k).map fun p => (p.2, p.1))
      ((es'.zipIdx k).map fun p => (p.2, p.1)) := by
  induction h generalizing k with
  | nil => exact .nil
  | cons he _ ih => exact .cons ⟨rfl, he⟩ (ih (k + 1))

/-- On stores that are alike, the same entries are selected. -/
theorem select_alike (hs : s.Alike R s') (hn : n.Alike R n') {es es' : List Entry}
    (hes : List.Forall₂ (Entry.Alike R) es es') (k : Nat) (m : Memory) :
    select s (ofNode n) ((es.zipIdx k).map fun p => (p.2, p.1)) m =
      select s' (ofNode n') ((es'.zipIdx k).map fun p => (p.2, p.1)) m := by
  refine select_congr ((forall₂_numbered hes k).imp ?_) m
  rintro ⟨i, e⟩ ⟨_, e'⟩ ⟨rfl, he⟩
  exact ⟨rfl, hn.eval_eq hs i he⟩

theorem scan_alike (hs : s.Alike R s') (hn : n.Alike R n') (d : Draws) :
    scan s (ofNode n) d = scan s' (ofNode n') d := by
  have hstart : (ofNode n).start d = (ofNode n').start d := by
    rw [Filter.start, Filter.start, ofNode, ofNode, hn.counters_eq]
  rw [scan, scan, numbered_eq, numbered_eq, hstart,
    select_alike hs hn (forall₂_iff_getElem?.mpr hs.entries)]

/-- Draws decide nothing if there are no random conditions. -/
theorem select_withDraws (hr : n.hasRandom = false) (d : Draws) :
    ∀ (l : List (Nat × Entry)) (m : Memory), select s (ofNode n) l (m.withDraws d) =
      ((select s (ofNode n) l m).1, (select s (ofNode n) l m).2.withDraws d)
  | [], _ => rfl
  | p :: l, m => by
    have hask : (ofNode n).ask s p.1 p.2 (m.withDraws d) =
        (((ofNode n).ask s p.1 p.2 m).1, ((ofNode n).ask s p.1 p.2 m).2.withDraws d) :=
      eval_withDraws s d hr p.1 p.2 m
    rw [select_cons, select_cons, hask, select_withDraws hr d l]

theorem scan_draws (hr : n.hasRandom = false) (d d' : Draws) :
    (scan s (ofNode n) d).1 = (scan s (ofNode n) d').1 := by
  have hstart : (ofNode n).start d = ((ofNode n).start d').withDraws d := rfl
  rw [scan, scan, hstart, select_withDraws hr]

/-- On stores that are alike, filters without random conditions that are alike have the same
answers. -/
theorem matched_alike (hs : s.Alike R s') (hindexed : s.Indexed) (hindexed' : s'.Indexed)
    (hn : n.Alike R n') (hfold : FoldedLiterals n) (hfold' : FoldedLiterals n')
    (hr : n.hasRandom = false) (r r' : Registry) (d d' : Draws) :
    (execute { s with registry := r } (ofNode n) d).1.matched =
      (execute { s' with registry := r' } (ofNode n') d').1.matched := by
  have hr' : n'.hasRandom = false := hn.hasRandom_eq.symm.trans hr
  have hs' : Store.Alike R { s with registry := r } { s' with registry := r' } :=
    ⟨hs.edges, hs.entries, hs.findByName?⟩
  have hi : Store.Indexed { s with registry := r } := fun hx => hindexed hx
  have hi' : Store.Indexed { s' with registry := r' } := fun hx => hindexed' hx
  rw [(execute_eq_of_indexed hi hfold (.inl hr) d).1,
    (execute_eq_of_indexed hi' hfold' (.inl hr') d').1, scan_alike hs' hn, scan_draws hr' d d']

/-- On stores that differ in the numbers of entries, filters without limits and random conditions
that are alike have answers with the same entries. -/
theorem matched_permuted {ren : Nat → Nat} (hs : s.Permuted R ren s') (hindexed : s.Indexed)
    (hindexed' : s'.Indexed) (hn : n.Alike R n') (hfold : FoldedLiterals n)
    (hfold' : FoldedLiterals n') (hl : n.hasLimit = false) (hr : n.hasRandom = false)
    (r r' : Registry) (d d' : Draws) :
    ((execute { s with registry := r } (ofNode n) d).1.matched.map ren).Perm
      (execute { s' with registry := r' } (ofNode n') d').1.matched := by
  have hl' : n'.hasLimit = false := hn.hasLimit_eq.symm.trans hl
  have hr' : n'.hasRandom = false := hn.hasRandom_eq.symm.trans hr
  have hnodup := nodup_matched_execute hindexed hfold hl hr r d
  have hnodup' := nodup_matched_execute hindexed' hfold' hl' hr' r' d'
  have hsame : ∀ i, (∃ e, s.entry? i = some e ∧ n.holds s i e = true) ↔
      ∃ e', s'.entry? (ren i) = some e' ∧ n'.holds s' (ren i) e' = true := by
    intro i
    have hi := hs.entries i
    generalize s.entry? i = x, s'.entry? (ren i) = x' at hi
    cases hi with
    | none => simp
    | some he =>
      have hholds := hn.holds_eq hs hl hr i he
      simp [hholds]
  refine (List.perm_ext_iff_of_nodup (List.Nodup.map hs.injective hnodup) hnodup').mpr
    fun j => ?_
  rw [List.mem_map, mem_matched_execute hindexed' hfold' hl' hr']
  constructor
  · rintro ⟨i, hi, rfl⟩
    exact (hsame i).mp ((mem_matched_execute hindexed hfold hl hr r d).mp hi)
  · rintro ⟨e', he', hholds⟩
    obtain ⟨i, rfl⟩ := hs.onto he'
    exact ⟨i, (mem_matched_execute hindexed hfold hl hr r d).mpr
      ((hsame i).mpr ⟨e', he', hholds⟩), rfl⟩

end Scan

/-! ## Object files -/

open Document (Loaded)

/-- **Indexes do not show.** An object file whose identifiers are given is loaded with whatever
indexes or with none, or always rejected for the same reason. Then a text is rejected for the same
reason and at the same place, or it is accepted, and the answers are the same unless they depend on
chance. Limits may occur. -/
theorem execute_configured [Regex.Properties] {d : Document} (hd : d.Identified)
    (indexed indexed' : List String) (spares spares' : Store.Spares) :
    (∃ err, Store.ofDocument indexed spares d = .error err ∧
      Store.ofDocument indexed' spares' d = .error err) ∨
    ∃ s s', Store.ofDocument indexed spares d = .ok s ∧
      Store.ofDocument indexed' spares' d = .ok s' ∧
      ∀ r r' : Registry, r.Remembers s.registry → r'.Remembers s'.registry → ∀ text : String,
        (∃ e, (Filter.read r text).outcome = .error e ∧
          (Filter.read r' text).outcome = .error e) ∨
        ∃ f f' r₁ r₁', Filter.read r text = ⟨.ok f, r₁⟩ ∧ Filter.read r' text = ⟨.ok f', r₁'⟩ ∧
          f'.root.hasRandom = f.root.hasRandom ∧
          (f.root.hasRandom = false → ∀ draws draws',
            (execute { s with registry := r₁ } f draws).1.matched =
              (execute { s' with registry := r₁' } f' draws').1.matched) := by
  cases hfault : d.fault? with
  | some err =>
    exact .inl ⟨err, Document.ofDocument_eq_error.mpr hfault,
      Document.ofDocument_eq_error.mpr hfault⟩
  | none =>
    have hconsistent := Document.fault?_eq_none_iff.mp hfault
    obtain ⟨s, hs⟩ : ∃ s, Store.ofDocument indexed spares d = .ok s :=
      Document.exists_ofDocument_iff.mpr hconsistent
    obtain ⟨s', hs'⟩ : ∃ s', Store.ofDocument indexed' spares' d = .ok s' :=
      Document.exists_ofDocument_iff.mpr hconsistent
    have h : Loaded spares d s := Document.loaded_of_ok hs
    have h' : Loaded spares' d s' := Document.loaded_of_ok hs'
    refine .inr ⟨s, s', hs, hs', fun r r' hr hr' text => ?_⟩
    have hagree := agree_read (h.corresponds h' hd d.rearranges_self) ⟨hr, hr'⟩ text
    generalize hx : Filter.read r text = x, hx' : Filter.read r' text = x' at hagree
    cases hagree with
    | error _ => exact .inl ⟨_, rfl, rfl⟩
    | ok hf _ =>
      obtain ⟨n, n', rfl, rfl, hn⟩ := hf
      refine .inr ⟨_, _, _, _, rfl, rfl, hn.hasRandom_eq.symm, fun hrandom draws draws' => ?_⟩
      exact matched_alike (h.alike h' hd) h.indexed h'.indexed hn (foldedLiterals_of_read hx).2
        (foldedLiterals_of_read hx').2 hrandom _ _ draws draws'

/-- Two entries that can take over each other. The first can take over itself, too. -/
def mutualKin : Document where
  records :=
    [⟨"CN=1", some "00000000-0000-0000-0000-000000000001", none, [("cn", [.text "Eve"])],
      [⟨"cn=2", "Owns"⟩, ⟨"cn=1", "AdminTo"⟩]⟩,
     ⟨"CN=2", some "00000000-0000-0000-0000-000000000002", none, [("CN", [.text "eve"])],
      [⟨"CN=1", "Owns"⟩]⟩]

theorem identified_mutualKin : mutualKin.Identified := by
  unfold Document.Identified
  decide

theorem fault?_mutualKin : mutualKin.fault? = none := by
  decide +kernel

/-- A limit counts the same entries whether or not an index was asked for. The attribute `ou` is new
to one registry and was flagged in the other one. -/
theorem execute_configured_mutualKin :
    ∃ s s', Store.ofDocument [] (fun _ => ⟨0⟩) mutualKin = .ok s ∧
      Store.ofDocument ["OU", "CN"] (fun _ => ⟨1⟩) mutualKin = .ok s' ∧
      ∃ f f' r r',
        Filter.read s.registry "(&(cn=EVE)(!(ou=x))(_limit=1))" = ⟨.ok f, r⟩ ∧
        Filter.read s'.registry "(&(cn=EVE)(!(ou=x))(_limit=1))" = ⟨.ok f', r'⟩ ∧
        (execute { s with registry := r } f (Draws.ofList [])).1.matched =
          (execute { s' with registry := r' } f' (Draws.ofList [1])).1.matched := by
  rcases execute_configured identified_mutualKin [] ["OU", "CN"] (fun _ => ⟨0⟩) (fun _ => ⟨1⟩) with
    ⟨err, herr, -⟩ | ⟨s, s', hs, hs', hread⟩
  · rw [Document.ofDocument_eq_error, fault?_mutualKin] at herr
    exact nomatch herr
  · have haccepted : ∃ f r, Filter.read .empty "(&(cn=EVE)(!(ou=x))(_limit=1))" = ⟨.ok f, r⟩ ∧
        f.root.hasRandom = false := by decide +kernel
    obtain ⟨_, _, hempty, hrandom⟩ := haccepted
    obtain ⟨f, r, hf, -, hfr⟩ := exists_read hempty s.registry
    rcases hread s.registry s'.registry (.refl _) (.refl _) "(&(cn=EVE)(!(ou=x))(_limit=1))" with
      ⟨e, he, -⟩ | ⟨g, g', r₁, r₁', hg, hg', -, hmatched⟩
    · rw [hf] at he
      exact nomatch he
    · rw [hf] at hg
      obtain ⟨rfl, rfl⟩ : f = g ∧ r = r₁ := by simpa using hg
      exact ⟨s, s', hs, hs', f, g', r, r₁', hf, hg', hmatched (hfr.trans hrandom) _ _⟩

/-- **The order does not show.** If the entries of an object file and the edges of each entry are put
into another order, it is loaded as well, and every text is accepted that was accepted before.
Limits and random conditions aside, the answers have the same names. -/
theorem execute_reordered [Regex.Properties] {d d' : Document} (hd : d.Identified)
    (hreordered : d.Reordered d') {indexed : List String} {spares : Store.Spares} {s : Store}
    (hs : Store.ofDocument indexed spares d = .ok s) (indexed' : List String)
    (spares' : Store.Spares) :
    ∃ s', Store.ofDocument indexed' spares' d' = .ok s' ∧
      ∀ r r' : Registry, r.Remembers s.registry → r'.Remembers s'.registry →
        ∀ (text : String) (f : Filter) (r₁ : Registry), Filter.read r text = ⟨.ok f, r₁⟩ →
          f.root.hasLimit = false → f.root.hasRandom = false →
            ∃ f' r₁', Filter.read r' text = ⟨.ok f', r₁'⟩ ∧ ∀ draws draws',
              (s.namesOf (execute { s with registry := r₁ } f draws).1.matched).Perm
                (s'.namesOf (execute { s' with registry := r₁' } f' draws').1.matched) := by
  have h : Loaded spares d s := Document.loaded_of_ok hs
  obtain ⟨s', hs'⟩ : ∃ s', Store.ofDocument indexed' spares' d' = .ok s' :=
    Document.exists_ofDocument_iff.mpr (Document.Reordered.consistent hreordered h.consistent)
  have h' : Loaded spares' d' s' := Document.loaded_of_ok hs'
  refine ⟨s', hs', fun r r' hr hr' text f r₁ hread hlimit hrandom => ?_⟩
  have hren := Document.Reordered.rearranges hreordered h.consistent
  have hagree := agree_read (h.corresponds h' hd hren) ⟨hr, hr'⟩ text
  rw [hread] at hagree
  generalize hx' : Filter.read r' text = x' at hagree
  cases hagree with
  | ok hf _ =>
    obtain ⟨n, n', rfl, rfl, hn⟩ := hf
    refine ⟨_, _, rfl, fun draws draws' => ?_⟩
    have hpermuted := h.permuted h' hd hreordered
    rw [← hpermuted.namesOf_map]
    exact (matched_permuted hpermuted h.indexed h'.indexed hn (foldedLiterals_of_read hread).2
      (foldedLiterals_of_read hx').2 hlimit hrandom _ _ draws draws').filterMap _

/-- The two entries and the edges of one of them in another order. -/
def mutualKinReversed : Document where
  records :=
    [⟨"CN=2", some "00000000-0000-0000-0000-000000000002", none, [("CN", [.text "eve"])],
      [⟨"CN=1", "Owns"⟩]⟩,
     ⟨"CN=1", some "00000000-0000-0000-0000-000000000001", none, [("cn", [.text "Eve"])],
      [⟨"cn=1", "AdminTo"⟩, ⟨"cn=2", "Owns"⟩]⟩]

theorem reordered_mutualKin : mutualKin.Reordered mutualKinReversed :=
  ⟨_, .swap _ _ [], .cons ⟨rfl, rfl, rfl, rfl, .refl _⟩
    (.cons ⟨rfl, rfl, rfl, rfl, .swap _ _ []⟩ .nil)⟩

theorem execute_reordered_mutualKin :
    ∃ s s', Store.ofDocument [] (fun _ => ⟨0⟩) mutualKin = .ok s ∧
      Store.ofDocument [] (fun _ => ⟨0⟩) mutualKinReversed = .ok s' ∧
      ∃ f f' r r', Filter.read s.registry "(_canpwn=Owns,(cn=EVE))" = ⟨.ok f, r⟩ ∧
        Filter.read s'.registry "(_canpwn=Owns,(cn=EVE))" = ⟨.ok f', r'⟩ ∧
        (s.namesOf (execute { s with registry := r } f (Draws.ofList [])).1.matched).Perm
          (s'.namesOf (execute { s' with registry := r' } f' (Draws.ofList [])).1.matched) := by
  obtain ⟨s, hs⟩ : ∃ s, Store.ofDocument [] (fun _ => ⟨0⟩) mutualKin = .ok s :=
    Document.exists_ofDocument_iff.mpr (Document.fault?_eq_none_iff.mp fault?_mutualKin)
  have haccepted : ∃ f r, Filter.read .empty "(_canpwn=Owns,(cn=EVE))" = ⟨.ok f, r⟩ ∧
      f.root.hasLimit = false ∧ f.root.hasRandom = false := by decide +kernel
  obtain ⟨_, _, hempty, hlimit, hrandom⟩ := haccepted
  obtain ⟨f, r, hf, hfl, hfr⟩ := exists_read hempty s.registry
  obtain ⟨s', hs', hread⟩ := execute_reordered identified_mutualKin reordered_mutualKin hs []
    (fun _ => ⟨0⟩)
  obtain ⟨f', r', hf', hperm⟩ :=
    hread s.registry s'.registry (.refl _) (.refl _) _ f r hf (hfl.trans hlimit)
      (hfr.trans hrandom)
  exact ⟨s, s', hs, hs', f, f', r, r', hf, hf', hperm _ _⟩

end Query

end Directory
