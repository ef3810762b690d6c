import Directory.Proofs.Filter.Sampling
import Directory.Proofs.Query.Algebra

/-!
# Queries that draw

An index shows the filter fewer entries than a scan does, so a random condition that is asked before
the driving equality gets other draws for the same entry: on one stream of draws, the two answers
may differ (`Query.execute_ne_scan`). But the entries that the index leaves out do not match
whatever is drawn, so over all streams the same answers are possible.

- `Query.MayAnswer`: an answer about one entry that some draws lead to.
- `Query.Possible`: the numbers that may be selected among some entries. Any choice among possible
  answers about the entries is possible (`Query.possible_iff`).
- `Query.execute_sampled`: when the answers are the same for the same draws, and that the same
  answers are possible in any case.
-/

namespace Directory

namespace Filter.Node

/-- A conjunction does not hold where one of its members never does. -/
theorem evalAll_eq_false {s : Store} {id : Nat} {e : Entry} {d : Node}
    (hd : ∀ m, (d.eval s id e m).1 = false) :
    ∀ {cs : List Node}, d ∈ cs → ∀ m, (evalAll s cs id e m).1 = false
  | [], hmem, _ => nomatch hmem
  | c :: cs, hmem, m => by
    rw [evalAll]
    rcases List.mem_cons.mp hmem with rfl | hmem
    · have hanswer := hd m
      cases heval : d.eval s id e m with
      | mk yes m' =>
        rw [heval] at hanswer
        obtain rfl : yes = false := hanswer
        rfl
    · rcases c.eval s id e m with ⟨_ | _, m'⟩
      · rfl
      · exact evalAll_eq_false hd hmem m'

end Filter.Node

namespace Query

open Text (lower)
open Directory.Filter Directory.Filter.Node

/-! ## Possible answers -/

/-- Whether some draws lead to an answer about an entry. -/
def MayAnswer (s : Store) (f : Filter) (p : Nat × Entry) (yes : Bool) : Prop :=
  ∃ d, (f.ask s p.1 p.2 (f.start d)).1 = yes

/-- The numbers that are selected if a possible answer is chosen for each entry. -/
inductive Possible (s : Store) (f : Filter) : List (Nat × Entry) → List Nat → Prop where
  | nil : Possible s f [] []
  | cons {p : Nat × Entry} {l : List (Nat × Entry)} {ids : List Nat} (yes : Bool) :
      MayAnswer s f p yes → Possible s f l ids →
        Possible s f (p :: l) (if yes then p.1 :: ids else ids)

/-- Entries that never match may be left out. -/
theorem possible_filter {s : Store} {f : Filter} {keep : Nat × Entry → Bool} :
    ∀ {l : List (Nat × Entry)} {ids : List Nat},
      (∀ p ∈ l, keep p = false → ∀ m, (f.ask s p.1 p.2 m).1 = false) →
      (Possible s f (l.filter keep) ids ↔ Possible s f l ids)
  | [], _, _ => Iff.rfl
  | p :: l, ids, h => by
    have ih : ∀ {ids}, Possible s f (l.filter keep) ids ↔ Possible s f l ids :=
      possible_filter fun q hq => h q (List.mem_cons_of_mem _ hq)
    cases hp : keep p with
    | true =>
      rw [List.filter_cons_of_pos hp]
      constructor
      · rintro (_ | ⟨yes, hmay, hids⟩)
        exact .cons yes hmay (ih.mp hids)
      · rintro (_ | ⟨yes, hmay, hids⟩)
        exact .cons yes hmay (ih.mpr hids)
    | false =>
      have hnever := h p List.mem_cons_self hp
      rw [List.filter_cons_of_neg (by simp [hp]), ih]
      constructor
      · exact .cons false ⟨Draws.ofList [], hnever _⟩
      · rintro (_ | ⟨yes, ⟨d, hyes⟩, hids⟩)
        obtain rfl : false = yes := (hnever _).symm.trans hyes
        exact hids

section Tape

variable {s : Store} {f : Filter} (hlimit : f.root.hasLimit = false)
include hlimit

/-- The draws for one entry do not decide what is drawn for the others. -/
theorem exists_draws_of_possible {l : List (Nat × Entry)} {ids : List Nat}
    (h : Possible s f l ids) :
    ∃ us, ∀ d : Draws, d.Begins us → (select s f l (f.start d)).1 = ids := by
  induction h with
  | nil => exact ⟨[], fun _ _ => rfl⟩
  | @cons p l ids yes hmay _ ih =>
    obtain ⟨d₀, hyes⟩ := hmay
    obtain ⟨us, answer, hus, hask⟩ := samples_eval s hlimit p.1 p.2 f.limits d₀
    obtain ⟨vs, hids⟩ := ih
    obtain rfl : answer = yes := by rw [← hyes, ask, start, hask d₀ hus]
    refine ⟨us ++ vs, fun d hd => ?_⟩
    obtain ⟨hfirst, hrest⟩ := Draws.begins_append.mp hd
    have hlater : (select s f l ⟨f.limits, d.skip us.length⟩).1 = ids := hids _ hrest
    rw [select_cons, ask, start, hask d hfirst]
    dsimp only
    rw [hlater]

/-- Every selection is a choice among possible answers. -/
theorem possible_select :
    ∀ (l : List (Nat × Entry)) (d : Draws), Possible s f l (select s f l (f.start d)).1
  | [], _ => .nil
  | p :: l, d => by
    obtain ⟨us, answer, hus, hask⟩ := samples_eval s hlimit p.1 p.2 f.limits d
    have hanswer : (f.ask s p.1 p.2 (f.start d)).1 = answer := by rw [ask, start, hask d hus]
    rw [select_cons, ask, start, hask d hus]
    exact .cons answer ⟨d, hanswer⟩ (possible_select l _)

/-- Any choice among possible answers about the entries comes about on some stream. -/
theorem possible_iff {l : List (Nat × Entry)} {ids : List Nat} :
    Possible s f l ids ↔ ∃ d, (select s f l (f.start d)).1 = ids := by
  constructor
  · intro h
    obtain ⟨us, hids⟩ := exists_draws_of_possible hlimit h
    exact ⟨Draws.ofList us, hids _ (Draws.begins_ofList us)⟩
  · rintro ⟨d, rfl⟩
    exact possible_select hlimit l d

end Tape

/-! ## Executing and scanning -/

/-- A filter never holds of an entry that does not hold the key of one of its equalities. -/
theorem ask_eq_false {s : Store} {n d : Node} {a : Attribute} {text : String}
    (hfold : FoldedLiterals n) (hd : d ∈ (conjuncts n).1)
    (hexact : d.exactMatch? = some (a, text)) {e : Entry} (he : e.holds a (lower text) = false)
    (id : Nat) (m : Memory) : ((ofNode n).ask s id e m).1 = false := by
  have hrefuses : d.Refuses s id e := conjunct_refuses hfold hd hexact he id
  rcases conjuncts_cases n with ⟨cs, rfl, hcs⟩ | hbare
  · rw [hcs] at hd
    rw [ask]
    exact evalAll_eq_false (fun m => by rw [hrefuses]) hd m
  · rw [hbare, List.mem_singleton] at hd
    subst hd
    rw [ask]
    show (d.eval s id e m).1 = false
    rw [hrefuses]

/-- On a store with sound indexes, executing a filter may give the answers that a scan may give. -/
theorem exists_execute_iff {s : Store} (hs : s.Indexed) {n : Node} (hfold : FoldedLiterals n)
    (hlimit : n.hasLimit = false) (ids : List Nat) :
    (∃ d, (execute s (ofNode n) d).1.matched = ids) ↔ ∃ d, (scan s (ofNode n) d).1 = ids := by
  have hscan : (∃ d, (scan s (ofNode n) d).1 = ids) ↔ Possible s (ofNode n) s.numbered ids :=
    (possible_iff hlimit).symm
  cases hdriving : (plan s (ofNode n)).driving with
  | none => simp only [execute_of_driving_eq_none hdriving]
  | some c =>
    obtain ⟨-, hindex, e, he, text, hexact, hkey, -⟩ := driving_eq_some hdriving
    have hdriven := driven_eq hs hindex hkey
    by_cases hdirect : (plan s (ofNode n)).isDirect = true
    · simp only [execute, hdriving, hdirect, if_true, hdriven,
        scan_of_isDirect hfold hdriving hdirect]
    · have hexecute : ∀ d, (execute s (ofNode n) d).1.matched =
          (select s (ofNode n) (s.numbered.filter fun p => p.2.holds c.a c.key)
            ((ofNode n).start d)).1 := by
        intro d
        rw [execute, hdriving]
        simp only [hdirect, Bool.false_eq_true, if_false]
        rw [hdriven, located_map_fst fun p hp => (List.mem_filter.mp hp).1]
      simp only [hexecute]
      rw [hscan, ← possible_iff hlimit]
      refine possible_filter fun p _ hp m => ?_
      rw [hkey] at hp
      exact ask_eq_false hfold he hexact hp p.1 m

/-- One filter and one stream of draws for which the index changes the answer: the entry between the
twins takes no draw. -/
theorem execute_ne_scan :
    ∃ s, twins.build = .ok s ∧ ∃ f r',
      Filter.read twins.registry "(&(_random100<50)(cn=eve))" = ⟨.ok f, r'⟩ ∧
        f.root.hasLimit = false ∧ f.root.hasRandom = true ∧
        (execute { s with registry := r' } f (Draws.ofList [0, 0, 0xE000000000000000])).1.matched =
          [0, 2] ∧
        (scan { s with registry := r' } f (Draws.ofList [0, 0, 0xE000000000000000])).1 = [0] := by
  have hbuild : twins.build = .ok _ := rfl
  exact ⟨_, hbuild, by decide +kernel⟩

theorem drawsLate_of_conjuncts {n : Node} (h : DrawsAfterEqualities (conjuncts n).1) :
    DrawsLate n := by
  rcases conjuncts_cases n with ⟨cs, rfl, hcs⟩ | hbare
  · rw [hcs] at h
    exact .inr (.inr ⟨cs, rfl, h⟩)
  · cases hn : n.exactMatch? with
    | none =>
      refine .inr (.inl fun c hc => ?_)
      rw [hbare, List.mem_singleton] at hc
      exact hc ▸ hn
    | some p =>
      refine .inl ?_
      cases n with
      | equals | equalsFolded => rfl
      | _ => exact nomatch hn

instance (cs : List Node) : Decidable (DrawsAfterEqualities cs) :=
  inferInstanceAs (Decidable (cs.Pairwise _))

/-- **Random filters.** Executing an accepted filter without limits gives the answer of a scan on
the same stream of draws if no equality stands to the right of a random condition in it; in any
case, an answer to one is an answer to the other on some stream. -/
theorem execute_sampled [Regex.Properties] {b : Store.Builder} {s : Store} (hb : b.build = .ok s)
    {r r' : Registry} {text : String} {f : Filter} (hread : Filter.read r text = ⟨.ok f, r'⟩)
    (hlimit : f.root.hasLimit = false) :
    (DrawsAfterEqualities (conjuncts f.root).1 →
      ∀ d, (execute { s with registry := r' } f d).1.matched =
        (scan { s with registry := r' } f d).1) ∧
      ∀ ids, (∃ d, (execute { s with registry := r' } f d).1.matched = ids) ↔
        ∃ d, (scan { s with registry := r' } f d).1 = ids := by
  have hs : Store.Indexed { s with registry := r' } := fun hx =>
    Store.Builder.indexed_of_build hb hx
  obtain ⟨-, -, -, d, -, n, slot, hyields, rfl⟩ := readStart_eq_ok.mp (read_eq_ok.mp hread)
  have hfold : FoldedLiterals n := foldedLiterals_of_outcome hyields.outcome
  constructor
  · intro hdraws d
    exact (execute_eq_of_indexed hs hfold (drawsLate_of_conjuncts hdraws) d).1
  · exact exists_execute_iff hs hfold hlimit

/-- With the equality first, the same draws choose the same twins, and the second twin may be chosen
alone. -/
theorem execute_sampled_twins :
    ∃ s, twins.build = .ok s ∧ ∃ f r',
      Filter.read twins.registry "(&(cn=eve)(_random100<50))" = ⟨.ok f, r'⟩ ∧
        f.root.hasLimit = false ∧ f.root.hasRandom = true ∧
        (∀ d, (execute { s with registry := r' } f d).1.matched =
          (scan { s with registry := r' } f d).1) ∧
        ∃ d, (scan { s with registry := r' } f d).1 = [2] := by
  obtain ⟨s, hbuild, f, r', hread, hlimit, hrandom, hafter, hmatched⟩ :
      ∃ s, twins.build = .ok s ∧ ∃ f r',
        Filter.read twins.registry "(&(cn=eve)(_random100<50))" = ⟨.ok f, r'⟩ ∧
          f.root.hasLimit = false ∧ f.root.hasRandom = true ∧
          DrawsAfterEqualities (conjuncts f.root).1 ∧
          (execute { s with registry := r' } f (Draws.ofList [0xE000000000000000])).1.matched =
            [2] :=
    ⟨_, rfl, by decide +kernel⟩
  obtain ⟨hsame, hpossible⟩ := execute_sampled hbuild hread hlimit
  exact ⟨s, hbuild, f, r', hread, hlimit, hrandom, hsame hafter, (hpossible [2]).mp ⟨_, hmatched⟩⟩

end Query

end Directory
