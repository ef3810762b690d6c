import Directory.Proofs.Filter.Stateless
import Directory.Proofs.Filter.Tree
import Directory.Proofs.Store.Index
import Directory.Proofs.Text.Lower
import Directory.Query.Execution

/-!
# Plans do not show in answers

Whether an index drives a query decides which entries the filter is asked about. The answer and the
draws are those of a full scan all the same, since an entry that the index leaves out is refused by
the driving equality before anything is drawn.

- `Filter.Node.Refuses`: a condition refuses an entry and leaves the memory as it is.
- `Query.select_filter`: entries that are refused may be left out.
- `Query.execute_eq_scan`: executing a filter gives the answer of a scan and takes the same draws.
-/

namespace Directory

open Text (lower lower_lower)

namespace Filter.Node

/-- Whether no equality stands to the right of a random condition. -/
def DrawsAfterEqualities (cs : List Node) : Prop :=
  cs.Pairwise fun c d => c.hasRandom = true → d.exactMatch? = none

/-- Whether a condition refuses an entry whatever was asked before, and leaves the memory as it
is. -/
def Refuses (s : Store) (n : Node) (id : Nat) (e : Entry) : Prop :=
  ∀ m, n.eval s id e m = (false, m)

/-- An equality refuses the entries that do not hold its folded text. -/
theorem refuses_of_exactMatch? {s : Store} {n : Node} {a : Attribute} {text : String}
    (hn : n.exactMatch? = some (a, text)) (hfold : ∀ b t, n = .equalsFolded b t → lower t = t)
    {e : Entry} (he : e.holds a (lower text) = false) (id : Nat) : n.Refuses s id e := by
  have hvalues : ∀ v ∈ e.renderedOf a, lower v ≠ lower text := by
    intro v hv heq
    rw [Entry.holds, List.any_eq_false] at he
    exact he v hv (by simp [heq])
  intro m
  cases n with
  | equals b t =>
    obtain ⟨rfl, rfl⟩ := Prod.mk.inj (Option.some.inj hn)
    rw [eval, Prod.mk.injEq, List.any_eq_false]
    refine ⟨fun v hv heq => hvalues v hv ?_, rfl⟩
    rw [eq_of_beq heq]
  | equalsFolded b t =>
    obtain ⟨rfl, rfl⟩ := Prod.mk.inj (Option.some.inj hn)
    rw [eval, Prod.mk.injEq, List.any_eq_false]
    refine ⟨fun v hv heq => hvalues v hv ?_, rfl⟩
    rw [eq_of_beq heq, hfold b t rfl]
  | _ => exact absurd hn (by simp [exactMatch?])

theorem DrawsAfterEqualities.of_hasRandom :
    ∀ {cs : List Node}, hasRandomAmong cs = false → DrawsAfterEqualities cs
  | [], _ => List.Pairwise.nil
  | c :: cs, h => by
    rw [hasRandomAmong, Bool.or_eq_false_iff] at h
    refine List.pairwise_cons.mpr ⟨fun d _ hc => ?_, of_hasRandom h.2⟩
    rw [h.1] at hc
    exact absurd hc (by simp)

/-- A conjunction refuses what one of its equalities refuses. Nothing is drawn on the way to that
equality. -/
theorem refuses_all {s : Store} {id : Nat} {e : Entry} {d : Node} {p : Attribute × String}
    (hp : d.exactMatch? = some p) (hd : d.Refuses s id e) :
    ∀ {cs : List Node}, d ∈ cs → hasLimitAmong cs = false → DrawsAfterEqualities cs →
      (all cs).Refuses s id e
  | c :: cs, hmem, hl, hr => by
    intro m
    rw [eval, evalAll]
    rcases List.mem_cons.mp hmem with rfl | hmem
    · rw [hd]
    -- a member before it draws nothing, so it refuses or leaves the question to the others
    · rw [hasLimitAmong, Bool.or_eq_false_iff] at hl
      obtain ⟨hc, hcs⟩ := List.pairwise_cons.mp hr
      have hrandom : c.hasRandom = false := by
        refine Bool.eq_false_iff.mpr fun hrandom => ?_
        rw [hc d hmem hrandom] at hp
        exact absurd hp (by simp)
      obtain ⟨yes, hyes⟩ := eval_stateless s hl.1 hrandom id e
      rw [hyes]
      cases yes with
      | false => rfl
      | true => exact refuses_all hp hd hmem hl.2 hcs m

end Filter.Node

namespace Query

open Directory.Filter Directory.Filter.Node

/-! ## Selecting among some entries -/

theorem select_cons (s : Store) (f : Filter) (p : Nat × Entry) (l : List (Nat × Entry))
    (m : Memory) :
    select s f (p :: l) m =
      (if (f.ask s p.1 p.2 m).1 then p.1 :: (select s f l (f.ask s p.1 p.2 m).2).1
        else (select s f l (f.ask s p.1 p.2 m).2).1,
      (select s f l (f.ask s p.1 p.2 m).2).2) := rfl

/-- Entries that the filter refuses may be left out. -/
theorem select_filter {s : Store} {f : Filter} {keep : Nat × Entry → Bool} :
    ∀ {l : List (Nat × Entry)} (m : Memory),
      (∀ p ∈ l, keep p = false → f.root.Refuses s p.1 p.2) →
      select s f (l.filter keep) m = select s f l m
  | [], _, _ => rfl
  | p :: l, m, h => by
    have hl : ∀ m, select s f (l.filter keep) m = select s f l m := fun m =>
      select_filter m fun q hq => h q (List.mem_cons_of_mem _ hq)
    cases hp : keep p with
    | true => rw [List.filter_cons_of_pos hp, select_cons, select_cons, hl]
    | false =>
      have hrefuse : f.ask s p.1 p.2 m = (false, m) := h p List.mem_cons_self hp m
      rw [List.filter_cons_of_neg (by simp [hp]), hl, select_cons, hrefuse]
      rfl

/-- Where each entry has one answer and leaves the memory as it is, the entries with the answer yes
are selected. -/
theorem select_eq_filter {s : Store} {f : Filter} {yes : Nat × Entry → Bool}
    (h : ∀ p m, f.ask s p.1 p.2 m = (yes p, m)) :
    ∀ (l : List (Nat × Entry)) (m : Memory), select s f l m = ((l.filter yes).map (·.1), m)
  | [], _ => rfl
  | p :: l, m => by
    rw [select_cons, h, select_eq_filter h l, List.filter_cons]
    cases yes p with
    | true => rfl
    | false => rfl

theorem select_sublist (s : Store) (f : Filter) :
    ∀ (l : List (Nat × Entry)) (m : Memory), (select s f l m).1.Sublist (l.map (·.1))
  | [], _ => List.Sublist.refl _
  | p :: l, m => by
    rw [select_cons, List.map_cons]
    split
    · exact (select_sublist s f l _).cons_cons _
    · exact (select_sublist s f l _).cons _

/-! ## The numbered entries -/

theorem numbered_eq (s : Store) : s.numbered = s.entries.zipIdx.map fun p => (p.2, p.1) := rfl

theorem mem_numbered {s : Store} {p : Nat × Entry} :
    p ∈ s.numbered ↔ s.entry? p.1 = some p.2 := by
  rw [numbered_eq, List.mem_map]
  constructor
  · rintro ⟨⟨e, id⟩, hmem, rfl⟩
    exact List.mk_mem_zipIdx_iff_getElem?.mp hmem
  · intro h
    exact ⟨(p.2, p.1), List.mk_mem_zipIdx_iff_getElem?.mpr h, rfl⟩

theorem map_fst_numbered (s : Store) : s.numbered.map (·.1) = List.range' 0 s.size := by
  rw [numbered_eq, List.map_map]
  exact List.zipIdx_map_snd 0 s.entries

theorem scan_ascending (s : Store) (f : Filter) (d : Draws) :
    (scan s f d).1.Pairwise (· < ·) := by
  refine List.Pairwise.sublist (select_sublist s f s.numbered _) ?_
  rw [map_fst_numbered]
  exact List.pairwise_lt_range'

/-- The entries that hold a key, with their numbers. -/
theorem holders_eq (s : Store) (a : Attribute) (key : String) :
    Store.holders a key 0 s.entries =
      (s.numbered.filter fun p => p.2.holds a key).map (·.1) := by
  rw [Store.holders, numbered_eq, List.filter_map, List.map_map]
  rfl

theorem located_map_fst {s : Store} :
    ∀ {l : List (Nat × Entry)}, (∀ p ∈ l, p ∈ s.numbered) → located s ⟨l.map (·.1)⟩ = l
  | [], _ => rfl
  | p :: l, h => by
    have hp : s.entry? p.1 = some p.2 := mem_numbered.mp (h p List.mem_cons_self)
    have hl : located s ⟨l.map (·.1)⟩ = l :=
      located_map_fst fun q hq => h q (List.mem_cons_of_mem _ hq)
    show ((p :: l).map (·.1)).filterMap (fun id => (s.entry? id).map (id, ·)) = p :: l
    rw [List.map_cons, List.filterMap_cons, hp]
    show p :: located s ⟨l.map (·.1)⟩ = p :: l
    rw [hl]

/-! ## Driving equalities -/

theorem driver_plan (s : Store) (f : Filter) :
    (plan s f).driver =
      if f.isOrderDependent then none
      else (candidates s f).findIdx? fun c => c.indexed && 0 < c.size := by
  rw [plan]
  cases hcs : candidates s f with
  | nil => simp
  | cons c cs =>
    simp only [List.isEmpty_cons, Bool.false_eq_true, if_false]
    split
    · rfl
    · cases (c :: cs).findIdx? fun c => c.indexed && 0 < c.size with
      | some i => rfl
      | none => rfl

/-- What is known of the candidate that drives a plan: the filter has no limits, the attribute has
an index, and the candidate is one of the conditions that every match satisfies. -/
theorem driving_eq_some {s : Store} {n : Node} {c : Candidate}
    (h : (plan s (ofNode n)).driving = some c) :
    n.hasLimit = false ∧ (s.index? c.a).isSome ∧
      ∃ d ∈ (conjuncts n).1, ∃ text, d.exactMatch? = some (c.a, text) ∧ c.key = lower text ∧
        c.caseInsensitive = ignoresCase d := by
  obtain ⟨i, hi, hc⟩ := Option.bind_eq_some_iff.mp h
  rw [driver_plan] at hi
  split at hi
  · exact absurd hi (by simp)
  · rename_i horder
    obtain ⟨hlt, hused, -⟩ := List.findIdx?_eq_some_iff_getElem.mp hi
    replace hc : (candidates s (ofNode n))[i]? = some c := hc
    have hget : (candidates s (ofNode n))[i] = c := by
      rw [List.getElem?_eq_getElem hlt] at hc
      exact Option.some.inj hc
    rw [hget, Bool.and_eq_true] at hused
    have hmem : c ∈ candidates s (ofNode n) := List.mem_of_getElem? hc
    obtain ⟨d, hd, hcandidate⟩ := List.mem_filterMap.mp (List.mem_mergeSort.mp hmem)
    obtain ⟨⟨a, text⟩, hexact, rfl⟩ := Option.map_eq_some_iff.mp hcandidate
    exact ⟨hasLimit_of_limits (Bool.eq_false_iff.mpr horder), hused.1, d, hd, text, hexact, rfl,
      rfl⟩

/-- The entries that drive a query are those that hold the key of the driver. -/
theorem driven_eq {s : Store} (hs : s.Indexed) {c : Candidate} (hindex : (s.index? c.a).isSome)
    {text : String} (hkey : c.key = lower text) :
    driven s c = ⟨(s.numbered.filter fun p => p.2.holds c.a c.key).map (·.1)⟩ := by
  obtain ⟨x, hx⟩ := Option.isSome_iff_exists.mp hindex
  have hids := (hs hx).2 c.key
  rw [holders_eq, Index.ids] at hids
  rw [driven, hx, Option.bind_some, Index.find?, hkey, lower_lower, ← hkey, ← hids]

theorem conjuncts_cases (n : Node) :
    (∃ cs, n = .all cs ∧ conjuncts n = (cs, false)) ∨ conjuncts n = ([n], true) := by
  cases n with
  | all cs => exact .inl ⟨cs, rfl, rfl⟩
  | _ => exact .inr rfl

theorem mem_nodes_of_mem_conjuncts {n d : Node} (h : d ∈ (conjuncts n).1) : d ∈ n.nodes := by
  rcases conjuncts_cases n with ⟨cs, rfl, -⟩ | hbare
  · exact List.mem_cons_of_mem _ (mem_nodesAmong.mpr ⟨d, h, mem_nodes_self d⟩)
  · rw [hbare] at h
    rw [List.mem_singleton.mp h]
    exact mem_nodes_self n

/-- Whether the spelling of every equality that ignores letter case is in lower case. -/
def FoldedLiterals (n : Node) : Prop :=
  ∀ a text, .equalsFolded a text ∈ n.nodes → lower text = text

/-- Whether nothing is drawn before the equalities are asked that might drive a query. -/
def DrawsLate (n : Node) : Prop :=
  n.hasRandom = false ∨ (∀ c ∈ (conjuncts n).1, c.exactMatch? = none) ∨
    ∃ cs, n = .all cs ∧ DrawsAfterEqualities cs

/-- An equality that every match satisfies refuses the entries that do not hold its key. -/
theorem conjunct_refuses {s : Store} {n d : Node} {a : Attribute} {text : String}
    (hfold : FoldedLiterals n) (hd : d ∈ (conjuncts n).1)
    (hexact : d.exactMatch? = some (a, text)) {e : Entry} (he : e.holds a (lower text) = false)
    (id : Nat) : d.Refuses s id e := by
  refine refuses_of_exactMatch? hexact ?_ he id
  rintro b t rfl
  exact hfold b t (mem_nodes_of_mem_conjuncts hd)

/-- A filter refuses every entry that does not hold the key of one of its equalities. -/
theorem refuses_of_conjunct {s : Store} {n d : Node} {a : Attribute} {text : String}
    (hlimit : n.hasLimit = false) (hfold : FoldedLiterals n) (hdraws : DrawsLate n)
    (hd : d ∈ (conjuncts n).1) (hexact : d.exactMatch? = some (a, text)) {e : Entry}
    (he : e.holds a (lower text) = false) (id : Nat) : n.Refuses s id e := by
  have hrefuses : d.Refuses s id e := conjunct_refuses hfold hd hexact he id
  rcases conjuncts_cases n with ⟨cs, rfl, hcs⟩ | hbare
  · refine refuses_all hexact hrefuses hd hlimit ?_
    rcases hdraws with hrandom | hnone | ⟨cs', heq, hlate⟩
    · exact DrawsAfterEqualities.of_hasRandom hrandom
    · rw [hnone d hd] at hexact
      exact absurd hexact (by simp)
    · obtain rfl := Node.all.inj heq
      exact hlate
  · rw [hbare, List.mem_singleton] at hd
    exact hd ▸ hrefuses

/-- An equality that ignores letter case holds of the entries under its key, and of no others. -/
theorem select_equalsFolded {s : Store} {a : Attribute} {text : String} (hfold : lower text = text)
    (l : List (Nat × Entry)) (m : Memory) :
    select s (ofNode (.equalsFolded a text)) l m =
      ((l.filter fun p => p.2.holds a (lower text)).map (·.1), m) := by
  refine select_eq_filter (fun p m => ?_) l m
  rw [ask, Entry.holds, hfold]
  rfl

/-- The answer of a plan that the index settles alone is the answer of a scan. -/
theorem scan_of_isDirect {s : Store} {n : Node} {c : Candidate} (hfold : FoldedLiterals n)
    (h : (plan s (ofNode n)).driving = some c) (hdirect : (plan s (ofNode n)).isDirect = true)
    (d : Draws) :
    scan s (ofNode n) d = ((s.numbered.filter fun p => p.2.holds c.a c.key).map (·.1), d) := by
  obtain ⟨-, -, e, he, text, hexact, hkey, hfolded⟩ := driving_eq_some h
  rw [Plan.isDirect, h, Bool.and_eq_true, Option.any_some, hfolded] at hdirect
  obtain ⟨hbare, hignores⟩ := hdirect
  replace hbare : (conjuncts n).2 = true := hbare
  rcases conjuncts_cases n with ⟨cs, -, hcs⟩ | hn
  · rw [hcs] at hbare
    exact absurd hbare (by simp)
  · rw [hn, List.mem_singleton] at he
    subst he
    cases e with
    | equalsFolded a t =>
      obtain ⟨rfl, rfl⟩ := Prod.mk.inj (Option.some.inj hexact)
      rw [scan, select_equalsFolded (hfold _ _ (mem_nodes_self _)), hkey]
      rfl
    | _ => exact absurd hignores (by simp [ignoresCase])

/-- Where no index drives, every entry is asked about. -/
theorem execute_of_driving_eq_none {s : Store} {f : Filter} (h : (plan s f).driving = none)
    (d : Draws) : execute s f d = (⟨(scan s f d).1, .fullScan, s.size⟩, (scan s f d).2) := by
  rw [execute, h, scan, ← s.length_numbered]

/-- On a store with sound indexes, executing a filter gives the answer of a scan and takes the same
draws. -/
theorem execute_eq_of_indexed {s : Store} (hs : s.Indexed) {n : Node} (hfold : FoldedLiterals n)
    (hdraws : DrawsLate n) (d : Draws) :
    (execute s (ofNode n) d).1.matched = (scan s (ofNode n) d).1 ∧
      (execute s (ofNode n) d).2 = (scan s (ofNode n) d).2 := by
  cases hdriving : (plan s (ofNode n)).driving with
  | none =>
    rw [execute_of_driving_eq_none hdriving]
    exact ⟨rfl, rfl⟩
  | some c =>
    obtain ⟨hlimit, hindex, e, he, text, hexact, hkey, -⟩ := driving_eq_some hdriving
    have hdriven := driven_eq hs hindex hkey
    by_cases hdirect : (plan s (ofNode n)).isDirect = true
    · rw [execute, hdriving, scan_of_isDirect hfold hdriving hdirect]
      simp only [hdirect, if_true, hdriven, and_self]
    -- the entries left out are refused, so a scan selects the same ones in the same memory
    · have hselect : select s (ofNode n) (located s (driven s c)) ((ofNode n).start d) =
          select s (ofNode n) s.numbered ((ofNode n).start d) := by
        rw [hdriven, located_map_fst fun p hp => (List.mem_filter.mp hp).1]
        refine select_filter _ fun p _ hp => ?_
        rw [hkey] at hp
        exact refuses_of_conjunct hlimit hfold hdraws he hexact hp p.1
      rw [execute, hdriving, scan, ← hselect]
      simp only [hdirect, Bool.false_eq_true, if_false, and_self]

/-- **Transparency.** Executing a filter on a finished store, whose registry may have grown since,
gives the numbers that a scan gives, in ascending order, and takes the same draws. -/
theorem execute_eq_scan {b : Store.Builder} {s : Store} (hb : b.build = .ok s) (r : Registry)
    {n : Node} (hfold : FoldedLiterals n) (hdraws : DrawsLate n) (d : Draws) :
    (execute { s with registry := r } (ofNode n) d).1.matched =
        (scan { s with registry := r } (ofNode n) d).1 ∧
      (execute { s with registry := r } (ofNode n) d).1.matched.Pairwise (· < ·) ∧
      (execute { s with registry := r } (ofNode n) d).2 =
        (scan { s with registry := r } (ofNode n) d).2 := by
  have hs : Store.Indexed { s with registry := r } := fun hx =>
    Store.Builder.indexed_of_build hb hx
  obtain ⟨hmatched, hdrawn⟩ := execute_eq_of_indexed hs hfold hdraws d
  refine ⟨hmatched, ?_, hdrawn⟩
  rw [hmatched]
  exact scan_ascending _ _ d

/-- Entries of which two have the same name up to letter case. -/
def twins : Store.Builder :=
  let b := Store.Builder.markIndexed { registry := .empty } "cn"
  let b := (b.add { dn := "CN=1", values := [("cn", .text "Eve")] } ⟨1⟩).2
  let b := (b.add { dn := "CN=2", values := [("cn", .text "Adam")] } ⟨2⟩).2
  (b.add { dn := "CN=3", values := [("cn", .text "eve")] } ⟨3⟩).2

/-- The twins, each with an even chance. -/
def someTwins : Node :=
  .all [.equalsFolded ⟨0⟩ "eve", .random .less 50]

theorem execute_eq_scan_someTwins :
    ∃ s, twins.build = .ok s ∧ FoldedLiterals someTwins ∧ DrawsLate someTwins ∧
      (execute s (ofNode someTwins) (Draws.ofList [0, 0xE000000000000000])).1.matched =
          (scan s (ofNode someTwins) (Draws.ofList [0, 0xE000000000000000])).1 ∧
        (execute s (ofNode someTwins) (Draws.ofList [0, 0xE000000000000000])).1.matched = [0] := by
  have hfold : FoldedLiterals someTwins := by
    intro a text h
    simp only [someTwins, nodes, nodesAmong, List.append_nil, List.cons_append, List.nil_append,
      List.mem_cons, List.not_mem_nil, or_false, reduceCtorEq, false_or, equalsFolded.injEq] at h
    obtain ⟨-, rfl⟩ := h
    decide +kernel
  have hdraws : DrawsLate someTwins := by
    refine .inr (.inr ⟨_, rfl, ?_⟩)
    simp [DrawsAfterEqualities, exactMatch?]
  have hbuild : twins.build = .ok _ := rfl
  exact ⟨_, hbuild, hfold, hdraws, (execute_eq_scan hbuild twins.registry hfold hdraws _).1,
    by decide +kernel⟩

end Query

end Directory
