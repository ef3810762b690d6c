import Directory.Proofs.Filter.Readings
import Directory.Proofs.Query.Plan
import Directory.Proofs.Query.Reloading
import Directory.Query.Session

/-!
# Sessions

A session answers one text after the other. It learns attribute names from each of them, takes draws
and counts. Of all this only the draws can show in an answer.

- `Query.Session.respond`: what comes of a text, `Query.Session.respond_cases`: the two ways it can go.
- `Query.Session.outcomes`, `Query.Session.after`: what comes of several texts, and the session then.
- `Store.Closed`: a store has neither values nor indexes of attributes that it does not know.
- `Query.plan_alike`: filters that differ only in such attributes have the same plan.
- `Query.Session.respond_alike`: what a session learnt does not show in its answers.
-/

namespace Directory

open Query (Result)
open Directory.Filter (Rejection)
open Directory.Filter.Node

/-! ## Stores that learn names -/

/-- Whether two attributes are the same, or neither is known to a store. -/
def Store.SameOrNew (s : Store) (a b : Attribute) : Prop :=
  a = b ∨ (s.registry.size ≤ a.id ∧ s.registry.size ≤ b.id)

/-- Names that are learnt in any order are those of attributes that were not known. -/
theorem Store.corresponds_sameOrNew (s : Store) : Registry.Corresponds s.SameOrNew
    fun r r' => r.Remembers s.registry ∧ r'.Remembers s.registry := by
  rintro r r' name ⟨hr, hr'⟩
  have hremembers := (r.remembers_intern name).trans hr
  have hremembers' := (r'.remembers_intern name).trans hr'
  refine ⟨?_, hremembers, hremembers'⟩
  cases hname : s.registry.find? name with
  | some a =>
    refine .inl (Option.some.inj ?_)
    rw [← Registry.find?_intern, ← Registry.find?_intern, hremembers.find? hname,
      hremembers'.find? hname]
  | none =>
    exact .inr ⟨hremembers.size_le_of_find? hname (r.find?_intern name),
      hremembers'.size_le_of_find? hname (r'.find?_intern name)⟩

/-- Whether a store with sound indexes has neither values nor indexes of attributes that it does not
know. -/
structure Store.Closed (s : Store) : Prop where
  /-- The indexes are sound and complete. -/
  indexed : s.Indexed
  /-- The attributes of all values are known. -/
  covers : ∀ e ∈ s.entries, s.registry.Covers e.values
  /-- Other attributes have no index. -/
  index?_eq_none : ∀ {a : Attribute}, s.registry.size ≤ a.id → s.index? a = none

theorem Store.Builder.closed_of_build {b : Builder} {s : Store}
    (hcovers : ∀ e ∈ b.entries, b.registry.Covers e.values) (hs : b.build = .ok s) : s.Closed := by
  obtain ⟨hentries, -, hregistry, hindex⟩ := build_eq_ok hs
  refine ⟨indexed_of_build hs, ?_, fun {a} ha => ?_⟩
  · rw [hentries, hregistry]
    exact hcovers
  · rw [hindex, if_neg]
    rw [Registry.mem_indexed, Registry.flagsOf_of_size_le (hregistry ▸ ha)]
    exact Bool.false_ne_true

namespace Store.Closed

variable {s : Store} (h : s.Closed)
include h

/-- Attributes that were not known have the same values in all entries, namely none. -/
theorem alike (r r' : Registry) :
    Store.Alike s.SameOrNew { s with registry := r } { s with registry := r' } where
  edges := rfl
  findByName? _ := rfl
  entries id := by
    show Option.Rel (Entry.Alike s.SameOrNew) (s.entry? id) (s.entry? id)
    cases he : s.entry? id with
    | none => exact .none
    | some e =>
      refine .some ⟨rfl, fun hab => congrArg (List.map Value.rendered) ?_⟩
      have hcovers := h.covers e (List.mem_of_getElem? he)
      rcases hab with rfl | ⟨ha, hb⟩
      · rfl
      · rw [hcovers.valuesOf ha, hcovers.valuesOf hb]

theorem index?_eq {a b : Attribute} (hab : s.SameOrNew a b) : s.index? a = s.index? b := by
  rcases hab with rfl | ⟨ha, hb⟩
  · rfl
  · rw [h.index?_eq_none ha, h.index?_eq_none hb]

end Store.Closed

namespace Query

open Directory.Filter (ofNode)

/-! ## Plans of filters that are alike -/

/-- A candidate without the number of its attribute. -/
def Candidate.blind (c : Candidate) : Candidate :=
  { c with a := ⟨0⟩ }

section Plans

variable {R : Attribute → Attribute → Prop} {s s' : Store} {n n' : Filter.Node}

theorem conjuncts_alike {n n' : Filter.Node} (hn : n.Alike R n') :
    AlikeAmong R (conjuncts n).1 (conjuncts n').1 ∧ (conjuncts n).2 = (conjuncts n').2 := by
  rcases hn with ⟨ha, hab⟩ | h | h | h | _ | _ | _ | ⟨d, m, h⟩
  · cases n with
    | all | any | not | limit | random | edge | edgeTo => exact absurd ha (by simp [attribute?])
    | _ => exact ⟨.cons (.attribute ha hab) .nil, rfl⟩
  · exact ⟨h, rfl⟩
  · exact ⟨.cons (.any h) .nil, rfl⟩
  · exact ⟨.cons (.not h) .nil, rfl⟩
  · exact ⟨.cons (.limit _ _) .nil, rfl⟩
  · exact ⟨.cons (.random _ _) .nil, rfl⟩
  · exact ⟨.cons (.edge _ _) .nil, rfl⟩
  · exact ⟨.cons (.edgeTo d m h) .nil, rfl⟩

section Index

variable (hindex : ∀ {a b : Attribute}, R a b → s.index? a = s'.index? b)
include hindex

theorem candidate?_alike {n n' : Filter.Node} (hn : n.Alike R n') :
    (candidate? s n).map Candidate.blind = (candidate? s' n').map Candidate.blind := by
  rcases hn with @⟨_, a, b, ha, hab⟩ | _ | _ | _ | _ | _ | _ | _
  · cases n with
    | equals c text | equalsFolded c text =>
      obtain rfl : c = a := Option.some.inj ha
      rw [on, candidate?, candidate?, exactMatch?, exactMatch?, Option.map_some, Option.map_some]
      dsimp only
      rw [hindex hab]
      rfl
    | all | any | not | limit | random | edge | edgeTo => exact absurd ha (by simp [attribute?])
    | _ => rfl
  -- no other condition is an equality
  all_goals rfl

theorem filterMap_candidate?_alike : ∀ {cs ds : List Filter.Node}, AlikeAmong R cs ds →
    (cs.filterMap (candidate? s)).map Candidate.blind =
      (ds.filterMap (candidate? s')).map Candidate.blind
  | _, _, .nil => rfl
  | c :: _, d :: _, .cons hcd h => by
    have hfirst := candidate?_alike hindex hcd
    have hrest := filterMap_candidate?_alike h
    rw [List.filterMap_cons, List.filterMap_cons]
    generalize candidate? s c = x, candidate? s' d = x' at hfirst
    cases x with
    | none =>
      rw [Option.map_none, eq_comm, Option.map_eq_none_iff] at hfirst
      rw [hfirst]
      exact hrest
    | some y =>
      cases x' with
      | none => exact nomatch hfirst
      | some y' =>
        rw [List.map_cons, List.map_cons, Option.some.inj hfirst, hrest]

/-- Candidates are sorted by what does not depend on the numbers of attributes. -/
theorem candidates_alike (hn : n.Alike R n') :
    (candidates s (ofNode n)).map Candidate.blind =
      (candidates s' (ofNode n')).map Candidate.blind := by
  have hsize : ∀ l : List Candidate, (l.mergeSort fun c d => c.size ≤ d.size).map Candidate.blind =
      (l.map Candidate.blind).mergeSort fun c d => c.size ≤ d.size :=
    fun l => List.map_mergeSort fun c _ d _ => rfl
  rw [candidates, candidates, hsize, hsize]
  exact congrArg (List.mergeSort · fun c d => decide (c.size ≤ d.size))
    (filterMap_candidate?_alike hindex (conjuncts_alike hn).1)

/-- Filters that differ in attributes only have plans that differ in them only. -/
theorem plan_alike (hn : n.Alike R n') :
    (plan s (ofNode n)).driving.map Candidate.blind =
        (plan s' (ofNode n')).driving.map Candidate.blind ∧
      (plan s (ofNode n)).isDirect = (plan s' (ofNode n')).isDirect := by
  have horder : (ofNode n).isOrderDependent = (ofNode n').isOrderDependent := by
    rw [Filter.isOrderDependent, Filter.isOrderDependent, ofNode, ofNode, hn.counters_eq]
  have hfind : ∀ l : List Candidate, (l.find? Candidate.isUsable).map Candidate.blind =
      (l.map Candidate.blind).find? Candidate.isUsable :=
    fun _ => by
      rw [List.find?_map]
      rfl
  have hdriving : (plan s (ofNode n)).driving.map Candidate.blind =
      (plan s' (ofNode n')).driving.map Candidate.blind := by
    rw [driving_eq, driving_eq, horder]
    split
    · rfl
    · rw [hfind, hfind, candidates_alike hindex hn]
  refine ⟨hdriving, ?_⟩
  have hany : ∀ x : Option Candidate, x.any (·.caseInsensitive) =
      (x.map Candidate.blind).any (·.caseInsensitive) := by
    rintro (_ | c) <;> rfl
  rw [Plan.isDirect, Plan.isDirect, hany (plan s (ofNode n)).driving, hdriving, ← hany]
  exact congrArg (· && (plan s' (ofNode n')).driving.any (·.caseInsensitive))
    (conjuncts_alike hn).2

end Index

end Plans

/-! ## Answers that are alike -/

/-- Whether the same is reported of two answers. -/
structure Result.Alike (x x' : Result) : Prop where
  /-- The same entries match. -/
  matched : x.matched = x'.matched
  /-- The strategies have the same name. -/
  strategy : x.strategy.name = x'.strategy.name
  /-- As many entries were asked about. -/
  examined : x.examined = x'.examined

theorem Plan.Foretells.examined {entries : Nat} {p : Plan} {x : Result}
    (h : p.Foretells entries x) :
    x.examined = p.driving.elim entries fun c => if p.isDirect then 0 else c.size := by
  cases h with
  | fullScan _ hdriving => rw [hdriving]; rfl
  | indexDirect hdriving hdirect => rw [hdriving, hdirect]; rfl
  | indexVerified _ hdriving hdirect => rw [hdriving, hdirect]; rfl

/-- What plans foretell does not depend on the numbers of attributes. -/
theorem Plan.Foretells.alike {entries : Nat} {p p' : Plan} {x x' : Result}
    (h : p.Foretells entries x) (h' : p'.Foretells entries x')
    (hdriving : p.driving.map Candidate.blind = p'.driving.map Candidate.blind)
    (hdirect : p.isDirect = p'.isDirect) :
    x.strategy.name = x'.strategy.name ∧ x.examined = x'.examined := by
  have hnone : p.driving.isNone = p'.driving.isNone := by
    simpa using congrArg Option.isNone hdriving
  have hsize : ∀ o : Option Candidate,
      (o.elim entries fun c => if p'.isDirect then 0 else c.size) =
        (o.map Candidate.blind).elim entries fun c => if p'.isDirect then 0 else c.size := by
    rintro (_ | c) <;> rfl
  rw [← h.strategyName, ← h'.strategyName, h.examined, h'.examined, Plan.strategyName,
    Plan.strategyName, hnone, hdirect, hsize p.driving, hdriving, ← hsize]
  exact ⟨rfl, rfl⟩

/-- On a store that learnt other names, a filter without random conditions has the same answer. -/
theorem execute_alike {s : Store} (hs : s.Closed) {n n' : Filter.Node}
    (hn : n.Alike s.SameOrNew n') (hfold : FoldedLiterals n) (hfold' : FoldedLiterals n')
    (hr : n.hasRandom = false) (r r' : Registry) (d d' : Draws) :
    (execute { s with registry := r } (ofNode n) d).1.Alike
      (execute { s with registry := r' } (ofNode n') d').1 := by
  have hindexed : ∀ r : Registry, Store.Indexed { s with registry := r } :=
    fun _ _ _ hx => hs.indexed hx
  have hindex : ∀ {a b : Attribute}, s.SameOrNew a b →
      Store.index? { s with registry := r } a = Store.index? { s with registry := r' } b :=
    hs.index?_eq
  obtain ⟨hdriving, hdirect⟩ := plan_alike hindex hn
  obtain ⟨hstrategy, hexamined⟩ := (foretells_execute (hindexed r) n d).alike
    (foretells_execute (hindexed r') n' d') hdriving hdirect
  exact ⟨matched_alike (hs.alike s.registry s.registry) hs.indexed hs.indexed hn hfold hfold' hr
    r r' d d', hstrategy, hexamined⟩

/-- The numbers of an answer ascend, and are those of entries. -/
theorem matched_sublist {s : Store} (hs : s.Indexed) (n : Filter.Node) (d : Draws) :
    (execute s (ofNode n) d).1.matched.Sublist (s.numbered.map (·.1)) := by
  cases hdriving : (plan s (ofNode n)).driving with
  | none =>
    rw [execute_of_driving_eq_none hdriving]
    exact select_sublist s (ofNode n) s.numbered _
  | some c =>
    obtain ⟨-, hindex, -, -, text, -, hkey, -⟩ := driving_eq_some hdriving
    have hdriven := driven_eq hs hindex hkey
    have hlocated : located s (driven s c) = s.numbered.filter fun p => p.2.holds c.a c.key := by
      rw [hdriven, located_map_fst fun p hp => (List.mem_filter.mp hp).1]
    rw [execute, hdriving]
    dsimp only
    split
    · rw [hdriven]
      exact List.filter_sublist.map _
    · refine (select_sublist s (ofNode n) _ _).trans ?_
      rw [hlocated]
      exact List.filter_sublist.map _

/-! ## Texts one after the other -/

namespace Session

variable [Regex.Properties]

/-- What comes of a text: why it is rejected, or its answer. -/
def respond (s : Session) (text : String) : Except Rejection Result × Session :=
  match s.read text with
  | (.error e, s) => (.error e, s)
  | (.ok f, s) => (.ok (s.answer f).1, (s.answer f).2)

/-- What comes of each of several texts. -/
def outcomes (s : Session) : List String → List (String × Except Rejection Result)
  | [] => []
  | text :: rest => (text, (s.respond text).1) :: (s.respond text).2.outcomes rest

/-- The session after several texts. -/
def after (s : Session) : List String → Session
  | [] => s
  | text :: rest => (s.respond text).2.after rest

theorem map_fst_outcomes (texts : List String) (s : Session) :
    (s.outcomes texts).map (·.1) = texts := by
  induction texts generalizing s with
  | nil => rfl
  | cons text rest ih => rw [outcomes, List.map_cons, ih]

/-- A rejected text leaves names and is counted. -/
theorem respond_of_rejected {s : Session} {text : String} {e : Rejection} {r : Registry}
    (h : Filter.read s.store.registry text = ⟨.error e, r⟩) :
    s.respond text = (.error e, { s.withRegistry r with metrics := s.metrics.countRejected }) := by
  rw [respond, Session.read, h]
  rfl

/-- An accepted text leaves names, is counted and takes draws. -/
theorem respond_of_accepted {s : Session} {text : String} {f : Filter} {r : Registry}
    (h : Filter.read s.store.registry text = ⟨.ok f, r⟩) :
    s.respond text =
      (.ok (execute { s.store with registry := r } f s.draws).1,
        ({ s.withRegistry r with metrics := s.metrics.countParsed }.answer f).2) := by
  rw [respond, Session.read, h]
  rfl

/-- The two ways in which a text can go. -/
theorem respond_cases (s : Session) (text : String) :
    (∃ e r, Filter.read s.store.registry text = ⟨.error e, r⟩ ∧
      s.respond text =
        (.error e, { s.withRegistry r with metrics := s.metrics.countRejected })) ∨
    ∃ n r, Filter.read s.store.registry text = ⟨.ok (ofNode n), r⟩ ∧
      s.respond text =
        (.ok (execute { s.store with registry := r } (ofNode n) s.draws).1,
          ({ s.withRegistry r with metrics := s.metrics.countParsed }.answer (ofNode n)).2) := by
  cases hread : Filter.read s.store.registry text with
  | mk outcome r =>
    cases outcome with
    | error e => exact .inl ⟨e, r, rfl, respond_of_rejected hread⟩
    | ok f =>
      obtain ⟨hroot, -⟩ := foldedLiterals_of_read hread
      rw [hroot] at hread ⊢
      exact .inr ⟨f.root, r, rfl, respond_of_accepted hread⟩

/-- A session learns names, and nothing else happens to its store. -/
theorem store_respond (s : Session) (text : String) :
    ∃ r, (s.respond text).2.store = { s.store with registry := r } ∧
      r.Extends s.store.registry := by
  have hextends : (Filter.read s.store.registry text).registry.Extends s.store.registry := by
    rw [Filter.registry_read]
    exact Filter.extends_readStart _ text
  rcases s.respond_cases text with ⟨e, r, hread, hrespond⟩ | ⟨n, r, hread, hrespond⟩
  · rw [hread] at hextends
    exact ⟨r, by rw [hrespond]; rfl, hextends⟩
  · rw [hread] at hextends
    exact ⟨r, by rw [hrespond]; rfl, hextends⟩

theorem store_after (texts : List String) (s : Session) :
    ∃ r, (s.after texts).store = { s.store with registry := r } ∧ r.Extends s.store.registry := by
  induction texts generalizing s with
  | nil => exact ⟨s.store.registry, rfl, .refl _⟩
  | cons text rest ih =>
    obtain ⟨r, hstore, hr⟩ := s.store_respond text
    obtain ⟨r', hstore', hr'⟩ := ih (s.respond text).2
    rw [hstore] at hstore' hr'
    exact ⟨r', hstore', hr'.trans hr⟩

/-- What comes of one of several texts comes of it on the store with some other names. -/
theorem exists_respond {p : String × Except Rejection Result} :
    ∀ {texts : List String} {s : Session}, p ∈ s.outcomes texts →
      ∃ s' : Session, (∃ r, s'.store = { s.store with registry := r }) ∧
        p.2 = (s'.respond p.1).1
  | text :: rest, s, h => by
    rcases List.mem_cons.mp h with rfl | h
    · exact ⟨s, ⟨s.store.registry, rfl⟩, rfl⟩
    · obtain ⟨s', ⟨r', hstore'⟩, hp⟩ := exists_respond h
      obtain ⟨r, hstore, -⟩ := s.store_respond text
      rw [hstore] at hstore'
      exact ⟨s', ⟨r', hstore'⟩, hp⟩

/-- **Sessions forget.** What a session learnt, drew and counted does not show in what comes of a
text, unless the text is a filter with random conditions. -/
theorem respond_alike {s : Store} (hs : s.Closed) {r r' : Registry} (hr : r.Remembers s.registry)
    (hr' : r'.Remembers s.registry) (text : String)
    (hrandom : ∀ f, (Filter.read r text).outcome = .ok f → f.root.hasRandom = false)
    (d d' : Draws) (m m' : Metrics) :
    (∃ e, (respond ⟨{ s with registry := r }, d, m⟩ text).1 = .error e ∧
      (respond ⟨{ s with registry := r' }, d', m'⟩ text).1 = .error e) ∨
    ∃ x x', (respond ⟨{ s with registry := r }, d, m⟩ text).1 = .ok x ∧
      (respond ⟨{ s with registry := r' }, d', m'⟩ text).1 = .ok x' ∧ x.Alike x' := by
  have hagree := Filter.agree_read s.corresponds_sameOrNew ⟨hr, hr'⟩ text
  generalize hx : Filter.read r text = x, hx' : Filter.read r' text = x' at hagree
  cases hagree with
  | @error e _ _ _ =>
    refine .inl ⟨e, ?_, ?_⟩
    · rw [respond_of_rejected (s := ⟨{ s with registry := r }, d, m⟩) hx]
    · rw [respond_of_rejected (s := ⟨{ s with registry := r' }, d', m'⟩) hx']
  | @ok _ _ r₁ r₁' hf _ =>
    obtain ⟨n, n', rfl, rfl, hn⟩ := hf
    rw [hx] at hrandom
    refine .inr ⟨_, _, ?_, ?_, execute_alike hs hn (foldedLiterals_of_read hx).2
      (foldedLiterals_of_read hx').2 (hrandom _ rfl) r₁ r₁' d d'⟩
    · rw [respond_of_accepted (s := ⟨{ s with registry := r }, d, m⟩) hx]
    · rw [respond_of_accepted (s := ⟨{ s with registry := r' }, d', m'⟩) hx']

end Session

end Query

end Directory
