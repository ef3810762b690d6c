import Directory.Proofs.Query.Transparency
import Directory.Proofs.Store.Counts
import Directory.Query.Explanation
import Mathlib.Data.List.Forall2

/-!
# What plans foretell

A plan is made before the query is answered. The answer then comes about as the plan says: by the
same strategy and from as many entries. The plan looks its candidates up in the indexes, and the
execution looks the driver up once more.

- `Query.Candidate.StandsFor`: the candidate that an equality is, with the number of entries that
  hold its folded text.
- `Query.SortedBySize`: candidates in the order of a plan. `Query.FirstSmallest`: the one that
  drives.
- `Query.Plan.Foretells`: whether an answer comes about as a plan says. It always does
  (`Query.foretells_execute`).
- `Query.explain_truthful`: what an explanation says of an answer is true.
-/

namespace Directory.Query

open Text (lower lower_lower quoted unlines)
open Directory.Filter Directory.Filter.Node

/-! ## Candidates -/

/-- The number of entries under a folded text, none if the attribute has no index. -/
def hits (s : Store) (a : Attribute) (key : String) : Nat :=
  if (s.index? a).isSome then s.entries.countP (·.holds a key) else 0

/-- Whether an equality is a candidate. -/
inductive Candidate.StandsFor (s : Store) : Node → Candidate → Prop where
  | equals (a : Attribute) (text : String) :
      StandsFor s (.equals a text)
        ⟨a, lower text, hits s a (lower text), (s.index? a).isSome, false⟩
  | equalsFolded (a : Attribute) (text : String) :
      StandsFor s (.equalsFolded a text)
        ⟨a, lower text, hits s a (lower text), (s.index? a).isSome, true⟩

/-- On a store with sound indexes, the size of a candidate is the number of entries that hold its
key. The key is folded once more when it is looked up. -/
theorem elim_cardinality {s : Store} (hs : s.Indexed) (a : Attribute) (text : String) :
    ((s.index? a).elim 0 fun x => x.cardinality (lower text)) = hits s a (lower text) := by
  rw [hits]
  cases hx : s.index? a with
  | none => rfl
  | some x =>
    rw [Option.elim_some, Index.cardinality_eq, lower_lower, (hs hx).2, Store.length_holders]
    rfl

theorem candidate?_eq_some {s : Store} (hs : s.Indexed) {n : Node} {c : Candidate} :
    candidate? s n = some c ↔ Candidate.StandsFor s n c := by
  rw [candidate?]
  constructor
  · intro h
    obtain ⟨⟨a, text⟩, hexact, rfl⟩ := Option.map_eq_some_iff.mp h
    dsimp only
    rw [elim_cardinality hs]
    cases n with
    | equals b t =>
      obtain ⟨rfl, rfl⟩ := Prod.mk.inj (Option.some.inj hexact)
      exact .equals b t
    | equalsFolded b t =>
      obtain ⟨rfl, rfl⟩ := Prod.mk.inj (Option.some.inj hexact)
      exact .equalsFolded b t
    | _ => exact nomatch hexact
  · intro h
    cases h with
    | equals a text | equalsFolded a text =>
      rw [exactMatch?, Option.map_some]
      dsimp only
      rw [elim_cardinality hs]
      rfl

/-- The candidates that stand in a filter, in its order. -/
def standing (s : Store) (n : Node) : List Candidate :=
  (conjuncts n).1.filterMap (candidate? s)

/-- Whether a condition is an equality. -/
def isEquality : Node → Bool
  | .equals _ _ | .equalsFolded _ _ => true
  | _ => false

/-- Each equality is a candidate, and nothing else is one. -/
theorem forall₂_candidates {s : Store} (hs : s.Indexed) (l : List Node) :
    List.Forall₂ (Candidate.StandsFor s) (l.filter isEquality) (l.filterMap (candidate? s)) := by
  induction l with
  | nil => exact .nil
  | cons n l ih =>
    rw [List.filter_cons, List.filterMap_cons]
    cases n with
    | equals a text =>
      rw [(candidate?_eq_some hs).mpr (.equals a text)]
      exact .cons (.equals a text) ih
    | equalsFolded a text =>
      rw [(candidate?_eq_some hs).mpr (.equalsFolded a text)]
      exact .cons (.equalsFolded a text) ih
    | _ => exact ih

/-- What a driver yields is counted in its size. -/
theorem size_driven {s : Store} {n : Node} {c : Candidate} (h : candidate? s n = some c) :
    (driven s c).size = c.size := by
  obtain ⟨⟨a, text⟩, -, rfl⟩ := Option.map_eq_some_iff.mp h
  rw [driven]
  dsimp only
  cases s.index? a with
  | none => rfl
  | some x =>
    rw [Option.bind_some, Option.elim_some, Index.cardinality]
    cases x.find? (lower text) with
    | none => rfl
    | some ids => rfl

/-! ## The order of candidates -/

/-- Whether candidates are sorted by size, and those of one size stand in the order in which they
stood before. -/
structure SortedBySize (l sorted : List Candidate) : Prop where
  /-- They are the same candidates. -/
  perm : sorted.Perm l
  /-- Those with fewer entries come first. -/
  ascending : sorted.Pairwise fun c d => c.size ≤ d.size
  /-- Those of one size keep their order. -/
  stable : ∀ k, (sorted.filter fun c => c.size == k) = l.filter fun c => c.size == k

theorem sortedBySize_mergeSort (l : List Candidate) :
    SortedBySize l (l.mergeSort fun c d => c.size ≤ d.size) := by
  have htrans : ∀ c d e : Candidate, decide (c.size ≤ d.size) = true →
      decide (d.size ≤ e.size) = true → decide (c.size ≤ e.size) = true := by
    intro c d e hcd hde
    exact decide_eq_true (Nat.le_trans (of_decide_eq_true hcd) (of_decide_eq_true hde))
  have htotal : ∀ c d : Candidate, (decide (c.size ≤ d.size) || decide (d.size ≤ c.size)) = true := by
    intro c d
    rw [Bool.or_eq_true, decide_eq_true_iff, decide_eq_true_iff]
    exact Nat.le_total c.size d.size
  have hperm := List.mergeSort_perm l fun c d => decide (c.size ≤ d.size)
  refine ⟨hperm, ?_, fun k => ?_⟩
  · exact (List.pairwise_mergeSort htrans htotal l).imp of_decide_eq_true
  -- candidates of one size are sorted as they stand, so sorting all leaves them in their order
  · have hsorted : (l.filter fun c => c.size == k).Pairwise
        fun c d => decide (c.size ≤ d.size) = true := by
      refine List.pairwise_of_forall_mem_list fun c hc d hd => ?_
      rw [eq_of_beq (List.mem_filter.mp hc).2, eq_of_beq (List.mem_filter.mp hd).2]
      exact decide_eq_true (Nat.le_refl k)
    have hsublist := (List.sublist_mergeSort htrans htotal hsorted List.filter_sublist).filter
      fun c => c.size == k
    rw [List.filter_filter, ← List.filter_congr fun c _ => (Bool.and_self (c.size == k)).symm]
      at hsublist
    exact (hsublist.eq_of_length (hperm.filter _).length_eq.symm).symm

/-- Whether an index has entries under a candidate's key. -/
def Candidate.isUsable (c : Candidate) : Bool :=
  c.indexed && 0 < c.size

/-- Whether a candidate is the smallest of those with index entries, and the first of these in the
order of the filter. -/
structure FirstSmallest (l : List Candidate) (c : Candidate) : Prop where
  /-- It has index entries. -/
  usable : c.isUsable = true
  /-- None of those before it is as small, and none of those after it is smaller. -/
  least : ∃ before after, l = before ++ c :: after ∧
    (∀ d ∈ before, d.isUsable = true → c.size < d.size) ∧
    ∀ d ∈ after, d.isUsable = true → c.size ≤ d.size

/-- In the order of a plan, the first candidate with index entries is the first of the smallest. -/
theorem SortedBySize.firstSmallest {l sorted : List Candidate} (h : SortedBySize l sorted)
    {c : Candidate} (hc : sorted.find? Candidate.isUsable = some c) : FirstSmallest l c := by
  obtain ⟨husable, before, after, rfl, hbefore⟩ := List.find?_eq_some_iff_append.mp hc
  have hunused : ∀ d ∈ before, d.isUsable = false := by simpa using hbefore
  have hleast : ∀ d ∈ before ++ c :: after, d.isUsable = true → c.size ≤ d.size := by
    intro d hd hused
    rcases List.mem_append.mp hd with hd | hd
    · rw [hunused d hd] at hused
      exact nomatch hused
    · rcases List.mem_cons.mp hd with rfl | hd
      · exact Nat.le_refl _
      · exact List.rel_of_pairwise_cons (List.pairwise_append.mp h.ascending).2.1 hd
  -- among the usable candidates of its size, it comes first in either order
  have hsame : (l.filter fun d => d.isUsable && d.size == c.size) =
      c :: after.filter fun d => d.isUsable && d.size == c.size := by
    rw [← List.filter_filter, ← h.stable, List.filter_filter, List.filter_append,
      List.filter_cons_of_pos (by simp [husable]),
      List.filter_eq_nil_iff.mpr fun d hd => by simp [hunused d hd]]
    rfl
  obtain ⟨before', after', rfl, hbefore', -, -⟩ := List.filter_eq_cons_iff.mp hsame
  have hleast' : ∀ d ∈ before' ++ c :: after', d.isUsable = true → c.size ≤ d.size :=
    fun d hd => hleast d (h.perm.mem_iff.mpr hd)
  refine ⟨husable, before', after', rfl, fun d hd hused => ?_, fun d hd hused => ?_⟩
  · refine Nat.lt_of_le_of_ne (hleast' d (List.mem_append_left _ hd) hused) fun hsize => ?_
    exact hbefore' d hd (by simp [hused, hsize])
  · exact hleast' d (List.mem_append_right _ (List.mem_cons_of_mem _ hd)) hused

theorem driving_eq (s : Store) (f : Filter) :
    (plan s f).driving =
      if f.isOrderDependent then none else (candidates s f).find? Candidate.isUsable := by
  rw [Plan.driving, driver_plan]
  split
  · rfl
  · exact List.find?_eq_bind_findIdx?_getElem?.symm

theorem isOrderDependent_ofNode {n : Node} (h : n.hasLimit = false) :
    (ofNode n).isOrderDependent = false :=
  (isOrderDependent_eq n).trans h

/-! ## Answers -/

/-- Whether an answer comes about as a plan says: from all entries, or from those under the key of
the driver, of which there are as many as the plan says. -/
inductive Plan.Foretells (entries : Nat) (p : Plan) : Result → Prop where
  | fullScan (ids : List Nat) :
      p.driving = none → Foretells entries p ⟨ids, .fullScan, entries⟩
  | indexDirect {c : Candidate} {ids : List Nat} :
      p.driving = some c → p.isDirect = true → ids.length = c.size →
        Foretells entries p ⟨ids, .indexDirect c.a c.key, 0⟩
  | indexVerified {c : Candidate} (ids : List Nat) :
      p.driving = some c → p.isDirect = false →
        Foretells entries p ⟨ids, .indexVerified c.a c.key c.size, c.size⟩

/-- Executing a filter does what its plan says. -/
theorem foretells_execute {s : Store} (hs : s.Indexed) (n : Node) (d : Draws) :
    (plan s (ofNode n)).Foretells s.size (execute s (ofNode n) d).1 := by
  cases hdriving : (plan s (ofNode n)).driving with
  | none =>
    rw [execute_of_driving_eq_none hdriving]
    exact .fullScan _ hdriving
  | some c =>
    obtain ⟨-, hindex, -, -, text, -, hkey, -⟩ := driving_eq_some hdriving
    have hmem : c ∈ candidates s (ofNode n) := by
      obtain ⟨i, -, hi⟩ := Option.bind_eq_some_iff.mp hdriving
      exact List.mem_of_getElem? hi
    obtain ⟨e, -, he⟩ := List.mem_filterMap.mp (List.mem_mergeSort.mp hmem)
    have hsize := size_driven he
    rw [execute, hdriving]
    dsimp only
    cases hdirect : (plan s (ofNode n)).isDirect with
    | true => exact .indexDirect hdriving hdirect hsize
    | false =>
      -- the numbers in an index are those of entries, so all of them are asked about
      have hlocated : (located s (driven s c)).length = c.size := by
        have hdriven := driven_eq hs hindex hkey
        rw [← hsize, hdriven, located_map_fst fun p hp => (List.mem_filter.mp hp).1]
        exact (List.length_map _).symm
      rw [if_neg Bool.false_ne_true, hsize, hlocated]
      exact .indexVerified _ hdriving hdirect

theorem Plan.Foretells.strategyName {entries : Nat} {p : Plan} {x : Result}
    (h : p.Foretells entries x) : p.strategyName = x.strategy.name := by
  cases h with
  | fullScan _ hdriving => rw [Plan.strategyName, hdriving]; rfl
  | indexDirect hdriving hdirect => rw [Plan.strategyName, hdriving, hdirect]; rfl
  | indexVerified _ hdriving hdirect => rw [Plan.strategyName, hdriving, hdirect]; rfl

/-- What drove an answer in words, as an explanation puts it. -/
def Result.driverText? (r : Registry) (x : Result) : Option String :=
  match x.strategy with
  | .fullScan => none
  | .indexDirect a key =>
    some (r.nameOf a ++ " = " ++ quoted key ++ " (" ++ toString x.matched.length ++ " objects)")
  | .indexVerified a key candidates =>
    some (r.nameOf a ++ " = " ++ quoted key ++ " (" ++ toString candidates ++ " objects)")

theorem Plan.Foretells.driverText? {entries : Nat} {p : Plan} {x : Result}
    (h : p.Foretells entries x) (r : Registry) : p.driverText? r = x.driverText? r := by
  cases h with
  | fullScan _ hdriving => rw [Plan.driverText?, hdriving]; rfl
  | indexDirect hdriving _ hlength =>
    rw [Plan.driverText?, hdriving, Result.driverText?, hlength]
    rfl
  | indexVerified _ hdriving => rw [Plan.driverText?, hdriving]; rfl

/-- **Explanations are true.** An explanation of a filter names the strategy by which the filter is
then answered, and the driver with the attribute, the key and the number of entries of that answer.
Its candidates are the equalities that every match satisfies, sorted by size. If there are no limits
and some of them have index entries, the first of the smallest drives. -/
theorem explain_truthful {b : Store.Builder} {s : Store} (hb : b.build = .ok s) (r : Registry)
    (n : Node) (d : Draws) :
    let s' := { s with registry := r }
    let p := plan s' (ofNode n)
    let x := (execute s' (ofNode n) d).1
    explain s' (ofNode n) =
        unlines ([heading, "Status: ACCEPTED", "Filter: " ++ (ofNode n).render r,
            "Strategy: " ++ x.strategy.name] ++
          (x.driverText? r).toList.map ("Driver: " ++ ·) ++
          (if p.candidates.isEmpty then [] else "Candidates:" :: p.candidates.map (·.line r)) ++
          ["Reason: " ++ p.reason.text, "Objects: " ++ toString s.size]) ∧
      p.strategyName = x.strategy.name ∧ p.Foretells s.size x ∧
      SortedBySize (standing s n) p.candidates ∧
      List.Forall₂ (Candidate.StandsFor s) ((conjuncts n).1.filter isEquality) (standing s n) ∧
      (n.hasLimit = false → (∃ c ∈ p.candidates, c.isUsable = true) →
        ∃ c, p.driving = some c ∧ FirstSmallest (standing s n) c) := by
  intro s' p x
  have hs : s.Indexed := Store.Builder.indexed_of_build hb
  have hs' : s'.Indexed := fun hx => hs hx
  have hforetells : p.Foretells s.size x := foretells_execute hs' n d
  have hsorted : SortedBySize (standing s n) p.candidates := sortedBySize_mergeSort _
  refine ⟨?_, hforetells.strategyName, hforetells, hsorted, forall₂_candidates hs _, ?_⟩
  · rw [← hforetells.strategyName, ← hforetells.driverText?]
    rfl
  · intro hlimit husable
    have hdriving : p.driving = p.candidates.find? Candidate.isUsable := by
      rw [driving_eq, isOrderDependent_ofNode hlimit]
      rfl
    obtain ⟨c, hc⟩ := Option.isSome_iff_exists.mp (List.find?_isSome.mpr husable)
    exact ⟨c, hdriving.trans hc, hsorted.firstSmallest hc⟩

/-- Equalities of which one has no index, one has two entries, and two have the same entry. -/
def sevens : Node :=
  .all [.equals ⟨5⟩ "7", .equalsFolded ⟨0⟩ "eve", .equals ⟨0⟩ "7", .equalsFolded ⟨0⟩ "7"]

theorem candidates_sevens {s : Store} (h : Store.Builder.namesakes.build = .ok s) :
    candidates s (ofNode sevens) =
      [⟨⟨5⟩, "7", 0, false, false⟩, ⟨⟨0⟩, "7", 1, true, false⟩, ⟨⟨0⟩, "7", 1, true, true⟩,
       ⟨⟨0⟩, "eve", 2, true, true⟩] := by
  have hstanding : (conjuncts sevens).1.filterMap (candidate? s) =
      [⟨⟨5⟩, "7", 0, false, false⟩, ⟨⟨0⟩, "eve", 2, true, true⟩, ⟨⟨0⟩, "7", 1, true, false⟩,
       ⟨⟨0⟩, "7", 1, true, true⟩] := by
    obtain rfl := Except.ok.inj h
    decide +kernel
  rw [candidates]
  show List.mergeSort ((conjuncts sevens).1.filterMap (candidate? s)) _ = _
  rw [hstanding]
  simp [List.mergeSort]

theorem explain_truthful_sevens :
    ∃ s, Store.Builder.namesakes.build = .ok s ∧ sevens.hasLimit = false ∧
      let p := plan s (ofNode sevens)
      let x := (execute s (ofNode sevens) (Draws.ofList [])).1
      (∃ c ∈ p.candidates, c.isUsable = true) ∧ p.Foretells s.size x ∧
        x.strategy.name = "INDEX_VERIFIED" ∧
        FirstSmallest (standing s sevens) ⟨⟨0⟩, "7", 1, true, false⟩ := by
  obtain ⟨s, hb⟩ : ∃ s, Store.Builder.namesakes.build = .ok s := ⟨_, rfl⟩
  have hcandidates := candidates_sevens hb
  have hdriver : (plan s (ofNode sevens)).driving = some ⟨⟨0⟩, "7", 1, true, false⟩ := by
    rw [driving_eq, hcandidates]
    rfl
  have husable : ∃ c ∈ (plan s (ofNode sevens)).candidates, c.isUsable = true := by
    refine ⟨⟨⟨0⟩, "7", 1, true, false⟩, ?_, rfl⟩
    show _ ∈ candidates s (ofNode sevens)
    simp [hcandidates]
  obtain ⟨-, hname, hforetells, -, -, hdrives⟩ :=
    explain_truthful hb s.registry sevens (Draws.ofList [])
  obtain ⟨c, hdriving, hfirst⟩ := hdrives rfl husable
  obtain rfl := Option.some.inj (hdriver.symm.trans hdriving)
  refine ⟨s, hb, rfl, husable, hforetells, hname.symm.trans ?_, hfirst⟩
  rw [Plan.strategyName, Plan.isDirect, hdriver]
  rfl

end Directory.Query
