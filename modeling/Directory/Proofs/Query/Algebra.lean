import Directory.Proofs.Filter.Alike
import Directory.Proofs.Filter.Canonical
import Directory.Proofs.Query.Transparency
import Directory.Proofs.Store.Reachable
import Mathlib.Data.List.Forall2

/-!
# The algebra of answers

Texts of filters can be joined to one text, and the answer to that is the complement, the
intersection or the union of the answers to its parts. This holds although each part may be read
with another registry than the whole, and may be answered by another strategy.

- `Query.Question`: a text that was read for a store, without limits and random conditions.
- `Query.Question.Settles`: a condition holds of the entries in the answer to a question.
- `Query.Question.exists_settles`: the text of a question is read with every registry, to such a
  condition.
- `Query.execute_algebra`: the answers to joined texts.
-/

namespace Directory

/-- The registry of a store does not show in its entries. -/
theorem Store.alike_sameValues (s : Store) (r r' : Registry) :
    Alike (s.SameValues id s) { s with registry := r } { s with registry := r' } where
  edges := rfl
  findByName? _ := rfl
  entries i := by
    show Option.Rel _ (s.entry? i) (s.entry? i)
    cases hi : s.entry? i with
    | none => exact .none
    | some e => exact .some ⟨rfl, fun hab => hab.renderedOf_eq hi hi⟩

/-- Registries that grew from that of a store give corresponding attributes to each name. -/
theorem Store.corresponds_self {s : Store} (hs : ∀ e ∈ s.entries, s.registry.Covers e.values) :
    Registry.Corresponds (s.SameValues id s) fun r r' =>
      r.Remembers s.registry ∧ r'.Remembers s.registry :=
  corresponds_sameValues id hs hs fun he he' _ =>
    Option.some.inj (he.symm.trans he') ▸ rfl

namespace Query

open Directory.Filter Directory.Filter.Node

/-! ## Answers as sets -/

theorem map_fst_filter_eq {s : Store} {yes : Nat × Entry → Bool} {chosen : Nat → Bool}
    (h : ∀ p ∈ s.numbered, yes p = chosen p.1) :
    (s.numbered.filter yes).map (·.1) = (List.range s.size).filter chosen := by
  have hcongr : s.numbered.filter yes = s.numbered.filter (chosen ∘ (·.1)) :=
    List.filter_congr h
  rw [hcongr, ← List.filter_map, map_fst_numbered, List.range_eq_range']

/-- The answer of a filter without limits and random conditions: the entries on which its condition
holds. -/
theorem matched_execute {s : Store} (hs : s.Indexed) {n : Node} (hfold : FoldedLiterals n)
    (hl : n.hasLimit = false) (hr : n.hasRandom = false) (d : Draws) :
    (execute s (ofNode n) d).1.matched =
      (s.numbered.filter fun p => n.holds s p.1 p.2).map (·.1) := by
  have hask : ∀ (p : Nat × Entry) (m : Memory),
      (ofNode n).ask s p.1 p.2 m = (n.holds s p.1 p.2, m) :=
    fun p m => eval_eq_holds s hl hr p.1 p.2 m
  rw [(execute_eq_of_indexed hs hfold (.inl hr) d).1, scan, select_eq_filter hask]

theorem holds_registry (s : Store) (r : Registry) (n : Node) (id : Nat) (e : Entry) :
    n.holds { s with registry := r } id e = n.holds s id e := by
  rw [holds, holds, eval_registry]

theorem foldedLiterals_of_outcome [Regex.Properties] {k k' : Knowledge} {n : Node}
    (h : Outcome k n.nodes k') : FoldedLiterals n :=
  fun _ _ hmem => (h.shaped _ hmem).2

section Matched

variable {s : Store} (hs : s.Indexed) {n : Node} (hfold : FoldedLiterals n)
  (hl : n.hasLimit = false) (hr : n.hasRandom = false) (r : Registry) (d : Draws)
include hs hfold hl hr

theorem mem_matched_execute {id : Nat} :
    id ∈ (execute { s with registry := r } (ofNode n) d).1.matched ↔
      ∃ e, s.entry? id = some e ∧ n.holds s id e = true := by
  have hs' : Store.Indexed { s with registry := r } := fun hx => hs hx
  rw [matched_execute hs' hfold hl hr, List.mem_map]
  constructor
  · rintro ⟨p, hp, rfl⟩
    obtain ⟨hmem, hholds⟩ := List.mem_filter.mp hp
    exact ⟨p.2, mem_numbered.mp hmem, holds_registry s r _ _ _ ▸ hholds⟩
  · rintro ⟨e, he, hholds⟩
    rw [← holds_registry s r] at hholds
    exact ⟨(id, e), List.mem_filter.mpr ⟨mem_numbered.mpr he, hholds⟩, rfl⟩

theorem nodup_matched_execute :
    (execute { s with registry := r } (ofNode n) d).1.matched.Nodup := by
  have hs' : Store.Indexed { s with registry := r } := fun hx => hs hx
  rw [matched_execute hs' hfold hl hr]
  refine List.Sublist.nodup (List.filter_sublist.map _) ?_
  rw [map_fst_numbered]
  exact List.nodup_range'

end Matched

/-- What is known of a filter that was read. -/
theorem foldedLiterals_of_read [Regex.Properties] {r r' : Registry} {text : String} {f : Filter}
    (h : Filter.read r text = ⟨.ok f, r'⟩) : f = ofNode f.root ∧ FoldedLiterals f.root := by
  obtain ⟨-, -, -, d, -, n, slot, hyields, rfl⟩ := readStart_eq_ok.mp (read_eq_ok.mp h)
  exact ⟨rfl, foldedLiterals_of_outcome hyields.outcome⟩

theorem nextSlot_of_outcome [Regex.Properties] {k k' : Knowledge} {n : Node}
    (h : Outcome k n.nodes k') (hl : n.hasLimit = false) : k'.nextSlot = k.nextSlot := by
  have hslots : n.nodes.filterMap slot? = [] := slots_eq_nil_iff.mpr hl
  rw [h.nextSlot, hslots]
  rfl

theorem two_le_byteLength_text (d : Derivation) : 2 ≤ byteLength d.text := by
  have hbetween : ∀ l : List Char, 2 ≤ byteLength ('(' :: l ++ [')']) := by
    intro l
    rw [Derivation.byteLength_between]
    exact Nat.le_add_left 2 _
  cases d with
  | _ => exact hbetween _

/-! ## Questions -/

section Questions

variable [Regex.Properties]

/-- A text without limits and random conditions that was read for a store. By then, the registry of
the store may have grown. -/
structure Question (s : Store) where
  /-- The text. -/
  text : String
  /-- The registry with which the text was read. -/
  before : Registry
  /-- It knows the attributes of the store. -/
  remembers : before.Remembers s.registry
  /-- The filter that the text spells. -/
  filter : Filter
  /-- The registry after that. -/
  after : Registry
  /-- The text is accepted. -/
  read_eq : Filter.read before text = ⟨.ok filter, after⟩
  /-- There are no limits. -/
  hasLimit_eq : filter.root.hasLimit = false
  /-- There are no random conditions. -/
  hasRandom_eq : filter.root.hasRandom = false
  /-- The draws at hand when the filter is executed. -/
  draws : Draws

namespace Question

variable {s : Store}

/-- The answer to a question. -/
def answer (q : Question s) : List Nat :=
  (execute { s with registry := q.after } q.filter q.draws).1.matched

/-- Whether a condition holds of the entries in the answer to a question, and of no others. -/
structure Settles (n : Node) (q : Question s) : Prop where
  /-- There are no limits. -/
  hasLimit : n.hasLimit = false
  /-- There are no random conditions. -/
  hasRandom : n.hasRandom = false
  /-- The condition holds of the entries in the answer. -/
  holds : ∀ r, ∀ p ∈ s.numbered,
    n.holds { s with registry := r } p.1 p.2 = decide (p.1 ∈ q.answer)

theorem filter_eq (q : Question s) :
    q.filter = ofNode q.filter.root ∧ FoldedLiterals q.filter.root :=
  foldedLiterals_of_read q.read_eq

/-- The condition of a question holds of the entries in the answer, and of no others. -/
theorem mem_answer_iff (hindexed : s.Indexed) (q : Question s) {id : Nat} :
    id ∈ q.answer ↔ ∃ e, s.entry? id = some e ∧ q.filter.root.holds s id e = true := by
  obtain ⟨hfilter, hfold⟩ := q.filter_eq
  rw [answer, hfilter]
  exact mem_matched_execute hindexed hfold q.hasLimit_eq q.hasRandom_eq q.after q.draws

theorem mem_answer (hindexed : s.Indexed) (q : Question s) {p : Nat × Entry}
    (hp : p ∈ s.numbered) : p.1 ∈ q.answer ↔ q.filter.root.holds s p.1 p.2 = true := by
  have he := mem_numbered.mp hp
  rw [mem_answer_iff hindexed]
  constructor
  · rintro ⟨e, he', hholds⟩
    rw [Option.some.inj (he.symm.trans he')]
    exact hholds
  · exact fun hholds => ⟨p.2, he, hholds⟩

section Reread

variable (hindexed : s.Indexed) (hcovers : ∀ e ∈ s.entries, s.registry.Covers e.values)
include hindexed hcovers

/-- The text of a question is read with every registry that knows the attributes of the store, to a
condition that settles the question. -/
theorem exists_settles (q : Question s) {r : Registry} (hr : r.Remembers s.registry) :
    ∃ (d : Derivation) (n : Node) (r' : Registry), q.text = String.ofList d.text ∧
      leastBytes ≤ byteLength d.text ∧ d.Yields ⟨r, 0⟩ n ⟨r', 0⟩ ∧ r'.Remembers s.registry ∧
      Settles n q := by
  obtain ⟨hlong, -, -, d, htext, n, slot, hyields, hfilter⟩ :=
    readStart_eq_ok.mp (read_eq_ok.mp q.read_eq)
  rw [List.append_nil] at htext
  rw [htext] at hlong
  have hlimit : n.hasLimit = false := by
    have h := q.hasLimit_eq
    rwa [hfilter] at h
  have hrandom : n.hasRandom = false := by
    have h := q.hasRandom_eq
    rwa [hfilter] at h
  obtain rfl : slot = 0 := nextSlot_of_outcome hyields.outcome hlimit
  obtain ⟨n', r', hyields', halike, -, hr'⟩ :=
    hyields.transfer (Store.corresponds_self hcovers) ⟨q.remembers, hr⟩
  refine ⟨d, n', r', ?_, hlong, hyields', hr', ?_⟩
  · rw [← htext, String.ofList_toList]
  · refine ⟨halike.hasLimit_eq ▸ hlimit, halike.hasRandom_eq ▸ hrandom, fun r'' p hp => ?_⟩
    -- the condition of the question itself decides the answer, and the two are alike
    have hanswer := q.mem_answer hindexed hp
    rw [hfilter] at hanswer
    have hself : p.2.Alike (s.SameValues id s) p.2 :=
      ⟨rfl, fun hab => hab.renderedOf_eq (mem_numbered.mp hp) (mem_numbered.mp hp)⟩
    have hsame : n.holds s p.1 p.2 = n'.holds { s with registry := r'' } p.1 p.2 := by
      rw [holds, holds, halike.eval_eq (s.alike_sameValues s.registry r'') p.1 hself]
    rw [← hsame, Bool.eq_iff_iff, decide_eq_true_iff, hanswer]
    rfl

/-- The texts of several questions are read one after the other. -/
theorem exists_settlesAmong : ∀ (qs : List (Question s)) {r : Registry},
    r.Remembers s.registry → ∃ (ds : List Derivation) (ns : List Node) (r' : Registry),
      String.join (qs.map text) = String.ofList (Derivation.textAmong ds) ∧
      Derivation.YieldsAmong ds ⟨r, 0⟩ ns ⟨r', 0⟩ ∧ List.Forall₂ Settles ns qs
  | [], r, _ => ⟨[], [], r, rfl, .nil, .nil⟩
  | q :: qs, r, hr => by
    obtain ⟨d, n, r', hd, -, hyields, hr', hsettles⟩ := q.exists_settles hindexed hcovers hr
    obtain ⟨ds, ns, r'', hds, hyieldsAmong, hsettlesAmong⟩ := exists_settlesAmong qs hr'
    refine ⟨d :: ds, n :: ns, r'', ?_, .cons hyields hyieldsAmong, .cons hsettles hsettlesAmong⟩
    rw [List.map_cons, String.join_cons, hd, hds, ← String.ofList_append]
    rfl

end Reread

/-! ## Joined questions -/

theorem Settles.among {ns : List Node} {qs : List (Question s)} (h : List.Forall₂ Settles ns qs) :
    hasLimitAmong ns = false ∧ hasRandomAmong ns = false ∧
      ∀ r, ∀ p ∈ s.numbered,
        (ns.all fun n => n.holds { s with registry := r } p.1 p.2) =
            decide (∀ q ∈ qs, p.1 ∈ q.answer) ∧
          (ns.any fun n => n.holds { s with registry := r } p.1 p.2) =
            decide (∃ q ∈ qs, p.1 ∈ q.answer) := by
  induction h with
  | nil => exact ⟨rfl, rfl, fun _ _ _ => ⟨rfl, rfl⟩⟩
  | cons hsettles _ ih =>
    obtain ⟨hlimit, hrandom, hholds⟩ := ih
    refine ⟨?_, ?_, fun r p hp => ?_⟩
    · rw [hasLimitAmong, hsettles.hasLimit, hlimit]
      rfl
    · rw [hasRandomAmong, hsettles.hasRandom, hrandom]
      rfl
    · obtain ⟨hall, hany⟩ := hholds r p hp
      rw [List.all_cons, List.any_cons, hsettles.holds r p hp, hall, hany]
      simp

/-- A text that a derivation gives is read to its condition, and the answer to it is chosen among
all numbers as the condition chooses. -/
theorem exists_execute (hindexed : s.Indexed) {D : Derivation} {n : Node} {r r' : Registry}
    (hyields : D.Yields ⟨r, 0⟩ n ⟨r', 0⟩) (hlong : leastBytes ≤ byteLength D.text)
    (hlast : D.text.getLast? = some ')') (hl : n.hasLimit = false) (hr : n.hasRandom = false)
    {chosen : Nat → Bool}
    (hchosen : ∀ p ∈ s.numbered, n.holds { s with registry := r' } p.1 p.2 = chosen p.1)
    (d : Draws) :
    ∃ f r', Filter.read r (String.ofList D.text) = ⟨.ok f, r'⟩ ∧
      (execute { s with registry := r' } f d).1.matched = (List.range s.size).filter chosen := by
  have hindexed' : Store.Indexed { s with registry := r' } := fun hx => hindexed hx
  refine ⟨ofNode n, r', read_of_yields hlong hlast hyields, ?_⟩
  rw [matched_execute hindexed' (foldedLiterals_of_outcome hyields.outcome) hl hr]
  exact map_fst_filter_eq hchosen

end Question

open Question in
/-- **Boolean algebra.** The answer to the negation of a text is the complement of the answer to
the text; the answers to the conjunction and to the disjunction of several texts are the
intersection and the union of their answers. All are in ascending order. -/
theorem execute_algebra {b : Store.Builder} (hb : b.Reachable) {s : Store} (hs : b.build = .ok s)
    {r : Registry} (hr : r.Remembers s.registry) (q : Question s) (qs : List (Question s))
    (d : Draws) :
    (∃ f r', Filter.read r ("(!" ++ q.text ++ ")") = ⟨.ok f, r'⟩ ∧
      (execute { s with registry := r' } f d).1.matched =
        (List.range s.size).filter fun id => id ∉ q.answer) ∧
      (∃ f r', Filter.read r ("(&" ++ String.join ((q :: qs).map text) ++ ")") = ⟨.ok f, r'⟩ ∧
        (execute { s with registry := r' } f d).1.matched =
          (List.range s.size).filter fun id => ∀ p ∈ q :: qs, id ∈ p.answer) ∧
      ∃ f r', Filter.read r ("(|" ++ String.join ((q :: qs).map text) ++ ")") = ⟨.ok f, r'⟩ ∧
        (execute { s with registry := r' } f d).1.matched =
          (List.range s.size).filter fun id => ∃ p ∈ q :: qs, id ∈ p.answer := by
  have hindexed : s.Indexed := Store.Builder.indexed_of_build hs
  have hcovers : ∀ e ∈ s.entries, s.registry.Covers e.values := by
    obtain ⟨hentries, -, hregistry, -⟩ := Store.Builder.build_eq_ok hs
    rw [hentries, hregistry]
    exact hb.covers
  obtain ⟨c, n, r', hc, hlong, hyields, hr', hsettles⟩ := q.exists_settles hindexed hcovers hr
  refine ⟨?_, ?_⟩
  · have htext : "(!" ++ q.text ++ ")" = String.ofList (Derivation.not c).text := by
      rw [hc]
      apply String.toList_inj.mp
      simp [Derivation.text]
    rw [htext]
    refine exists_execute hindexed (.not hyields) ?_ List.getLast?_concat hsettles.hasLimit
      hsettles.hasRandom (fun p hp => ?_) d
    · rw [Derivation.text, Derivation.byteLength_marked (by decide)]
      exact Nat.le_add_right_of_le hlong
    · rw [holds_not, hsettles.holds r' p hp, decide_not]
  · obtain ⟨ds, ns, r'', hds, hyieldsAmong, hsettlesAmong⟩ :=
      exists_settlesAmong hindexed hcovers (q :: qs) hr
    obtain ⟨hlimit, hrandom, hholds⟩ := Settles.among hsettlesAmong
    obtain ⟨d', ds', rfl⟩ := hyieldsAmong.exists_cons (by rintro rfl; cases hsettlesAmong)
    have hlong : leastBytes ≤ byteLength (d'.text ++ Derivation.textAmong ds') + 3 := by
      have hfirst := two_le_byteLength_text d'
      rw [byteLength_append, leastBytes]
      omega
    rw [hds]
    constructor
    · have htext : "(&" ++ String.ofList (Derivation.textAmong (d' :: ds')) ++ ")" =
          String.ofList (Derivation.all d' ds').text := by
        apply String.toList_inj.mp
        simp [Derivation.text, Derivation.textAmong]
      rw [htext]
      refine exists_execute hindexed (.all hyieldsAmong) ?_ List.getLast?_concat hlimit hrandom
        (fun p hp => ?_) d
      · rwa [Derivation.text, Derivation.byteLength_marked (by decide)]
      · rw [holds_all _ hlimit hrandom, (hholds r'' p hp).1]
    · have htext : "(|" ++ String.ofList (Derivation.textAmong (d' :: ds')) ++ ")" =
          String.ofList (Derivation.any d' ds').text := by
        apply String.toList_inj.mp
        simp [Derivation.text, Derivation.textAmong]
      rw [htext]
      refine exists_execute hindexed (.any hyieldsAmong) ?_ List.getLast?_concat hlimit hrandom
        (fun p hp => ?_) d
      · rwa [Derivation.text, Derivation.byteLength_marked (by decide)]
      · rw [holds_any _ hlimit hrandom, (hholds r'' p hp).2]

end Questions

/-- A conjunction of a text that an index answers and one that is scanned, whose attribute is new to
the registry of the whole. -/
theorem execute_algebra_namesakes :
    ∃ s, Store.Builder.namesakes.Reachable ∧ Store.Builder.namesakes.build = .ok s ∧
      ∃ p q : Question s, p.text = "(cn=EVE)" ∧ q.text = "(!(ou=x))" ∧
        ∃ f r', Filter.read s.registry "(&(cn=EVE)(!(ou=x)))" = ⟨.ok f, r'⟩ ∧
          (execute { s with registry := r' } f (Draws.ofList [])).1.matched =
            (List.range s.size).filter fun id => ∀ o ∈ [p, q], id ∈ o.answer := by
  have hb : Store.Builder.namesakes.Reachable := Store.Builder.reachable_namesakes
  obtain ⟨s, hs⟩ : ∃ s, Store.Builder.namesakes.build = .ok s := ⟨_, rfl⟩
  obtain ⟨-, -, hregistry, -⟩ := Store.Builder.build_eq_ok hs
  have hp : ∃ f r', Filter.read Store.Builder.namesakes.registry "(cn=EVE)" = ⟨.ok f, r'⟩ ∧
      f.root.hasLimit = false ∧ f.root.hasRandom = false := by decide +kernel
  have hq : ∃ f r', Filter.read (Store.Builder.namesakes.registry.intern "OU").2 "(!(ou=x))" =
      ⟨.ok f, r'⟩ ∧ f.root.hasLimit = false ∧ f.root.hasRandom = false := by decide +kernel
  rw [← hregistry] at hp hq
  obtain ⟨f, r, hread, hlimit, hrandom⟩ := hp
  obtain ⟨f', r', hread', hlimit', hrandom'⟩ := hq
  let p : Question s := ⟨_, _, .refl _, f, r, hread, hlimit, hrandom, Draws.ofList []⟩
  let q : Question s := ⟨_, _, Registry.remembers_intern _ _, f', r', hread', hlimit', hrandom',
    Draws.ofList [1]⟩
  exact ⟨s, hb, hs, p, q, rfl, rfl, (execute_algebra hb hs (.refl _) p [q] _).2.1⟩

end Query

end Directory
