import Directory.Filter.Evaluation
import Directory.Proofs.Store.Counts

/-!
# Chains of names are found

A chain leads from an entry through the entries that values name. The search for one keeps a table
of the entries it has looked at, with how far it could still go from each, and does not look again
unless it can go further than before. Nothing is missed by that.

- `Store.LeadsTo`: a value of the one entry names the other.
- `Store.Reaches`: some chain of bounded length ends at an entry with the value that is looked for.
- `Visits.Explored`: what a search in vain adds to the table. All that is behind an entry in the
  table is in the table too, as far as it could still be reached.
- `Store.chainLeadsFrom_iff`: the search finds something exactly if a chain does.
- `Filter.Node.eval_chain_iff`: the condition, told by the entries on the way.
-/

namespace Directory

open Text (lower)

/-! ## Asking in order -/

section InOrder

variable {α σ : Type} {ask : α → σ → Bool × σ}

theorem exists_of_anyInOrder {l : List α} {t t' : σ} (h : anyInOrder ask l t = (true, t')) :
    ∃ x ∈ l, ∃ u u', ask x u = (true, u') := by
  induction l generalizing t with
  | nil => exact nomatch h
  | cons x l ih =>
    rw [anyInOrder] at h
    rcases hask : ask x t with ⟨_ | _, u⟩
    · rw [hask] at h
      obtain ⟨y, hy, hyes⟩ := ih h
      exact ⟨y, List.mem_cons_of_mem _ hy, hyes⟩
    · exact ⟨x, List.mem_cons_self, t, u, hask⟩

/-- If nobody answers yes, what each answer says of the state after it still holds at the end. -/
theorem anyInOrder_eq_false {P : σ → σ → Prop} {Q : α → σ → Prop} (hrefl : ∀ t, P t t)
    (htrans : ∀ {t u v}, P t u → P u v → P t v) (hkept : ∀ {x t u}, P t u → Q x t → Q x u)
    {l : List α} (h : ∀ x ∈ l, ∀ {t u}, ask x t = (false, u) → P t u ∧ Q x u) {t t' : σ}
    (hl : anyInOrder ask l t = (false, t')) : P t t' ∧ ∀ x ∈ l, Q x t' := by
  induction l generalizing t with
  | nil =>
    obtain rfl := (Prod.mk.inj hl).2
    exact ⟨hrefl t, nofun⟩
  | cons x l ih =>
    rw [anyInOrder] at hl
    rcases hask : ask x t with ⟨_ | _, u⟩
    · rw [hask] at hl
      obtain ⟨hfirst, hx⟩ := h x List.mem_cons_self hask
      obtain ⟨hrest, hall⟩ := ih (fun y hy => h y (List.mem_cons_of_mem _ hy)) hl
      refine ⟨htrans hfirst hrest, fun y hy => ?_⟩
      rcases List.mem_cons.mp hy with rfl | hy
      · exact hkept hrest hx
      · exact hall y hy
    · rw [hask] at hl
      exact nomatch hl

end InOrder

namespace Store

/-! ## Chains -/

/-- Whether a value of the one numbered entry is the name of the other, in any letter case. -/
def LeadsTo (s : Store) (a : Attribute) (p q : Nat × Entry) : Prop :=
  ∃ name ∈ p.2.renderedOf a, s.named? name = some q

instance (s : Store) (a : Attribute) (p q : Nat × Entry) : Decidable (s.LeadsTo a p q) :=
  inferInstanceAs (Decidable (∃ name ∈ _, _))

/-- Whether a chain through no more than so many entries ends at one with a value that folds to
`key`. -/
def Reaches (s : Store) (a : Attribute) (key : String) : Nat → Nat × Entry → Prop
  | 0, _ => False
  | remaining + 1, p =>
    p.2.holds a key = true ∨ ∃ q, s.LeadsTo a p q ∧ s.Reaches a key remaining q

variable {s : Store} {a : Attribute} {key : String}

theorem reaches_iff {k : Nat} {p : Nat × Entry} :
    s.Reaches a key k p ↔ ∃ path : List (Nat × Entry), path.head? = some p ∧ path.length ≤ k ∧
      path.IsChain (s.LeadsTo a) ∧ ∃ last ∈ path.getLast?, last.2.holds a key = true := by
  induction k generalizing p with
  | zero =>
    refine ⟨False.elim, ?_⟩
    rintro ⟨path, hhead, hlength, -⟩
    rw [List.eq_nil_of_length_eq_zero (Nat.le_zero.mp hlength)] at hhead
    exact nomatch hhead
  | succ k ih =>
    constructor
    · rintro (hhit | ⟨q, hpq, hq⟩)
      · exact ⟨[p], rfl, Nat.le_add_left 1 k, List.IsChain.singleton p, p, rfl, hhit⟩
      · obtain ⟨path, hhead, hlength, hchain, hlast⟩ := ih.mp hq
        obtain ⟨rest, rfl⟩ := List.head?_eq_some_iff.mp hhead
        refine ⟨p :: q :: rest, rfl, Nat.succ_le_succ hlength,
          List.isChain_cons_cons.mpr ⟨hpq, hchain⟩, ?_⟩
        rwa [List.getLast?_cons_cons]
    · rintro ⟨path, hhead, hlength, hchain, last, hlast, hhit⟩
      obtain ⟨rest, rfl⟩ := List.head?_eq_some_iff.mp hhead
      cases rest with
      | nil =>
        obtain rfl : p = last := Option.some.inj hlast
        exact .inl hhit
      | cons q rest =>
        obtain ⟨hpq, hchain⟩ := List.isChain_cons_cons.mp hchain
        rw [List.getLast?_cons_cons] at hlast
        exact .inr ⟨q, hpq, ih.mpr
          ⟨q :: rest, rfl, Nat.le_of_succ_le_succ hlength, hchain, last, hlast, hhit⟩⟩

theorem entry?_of_named? {name : String} {q : Nat × Entry} (h : s.named? name = some q) :
    s.entry? q.1 = some q.2 := by
  rw [named?, Option.bind_eq_some_iff] at h
  obtain ⟨i, -, hi⟩ := h
  obtain ⟨e, he, rfl⟩ := Option.map_eq_some_iff.mp hi
  exact he

/-! ## The search -/

/-- Goes on at the entry that a value names, if there is one. -/
def searchBeyond (s : Store) (a : Attribute) (key : String) (remaining : Nat) (name : String)
    (v : Visits) : Bool × Visits :=
  match s.named? name with
  | some next => s.chainLeadsFrom a key remaining next v
  | none => (false, v)

theorem chainLeadsFrom_succ (s : Store) (a : Attribute) (key : String) (remaining id : Nat)
    (e : Entry) (v : Visits) :
    s.chainLeadsFrom a key (remaining + 1) (id, e) v =
      if v.cover id (remaining + 1) then (false, v)
      else if e.holds a key then (true, (id, remaining + 1) :: v)
      else anyInOrder (s.searchBeyond a key remaining) (e.renderedOf a)
        ((id, remaining + 1) :: v) := rfl

/-- What the search finds is there. -/
theorem reaches_of_chainLeadsFrom : ∀ {k : Nat} {p : Nat × Entry} {v v' : Visits},
    s.chainLeadsFrom a key k p v = (true, v') → s.Reaches a key k p
  | 0, _, _, _, h => nomatch h
  | k + 1, (id, e), v, v', h => by
    rw [chainLeadsFrom_succ] at h
    split at h
    · exact nomatch h
    · split at h
      · rename_i hhit
        exact .inl hhit
      · obtain ⟨name, hname, u, u', hu⟩ := exists_of_anyInOrder h
        rw [searchBeyond] at hu
        split at hu
        · rename_i q hq
          exact .inr ⟨q, ⟨name, hname, hq⟩, reaches_of_chainLeadsFrom hu⟩
        · exact nomatch hu

end Store

/-! ## The table -/

namespace Visits

theorem cover_cons {v : Visits} {id i n k : Nat} :
    Visits.cover ((id, n) :: v) i k = true ↔ if i = id then k ≤ n else v.cover i k = true := by
  rw [cover, List.lookup_cons]
  by_cases h : i = id
  · simp [h]
  · rw [beq_eq_false_iff_ne.mpr h, if_neg h, ← cover]

theorem cover_of_le {v : Visits} {i k n : Nat} (h : v.cover i n = true) (hk : k ≤ n) :
    v.cover i k = true := by
  rw [cover, Option.any_eq_true] at h ⊢
  obtain ⟨seen, hseen, hn⟩ := h
  exact ⟨seen, hseen, decide_eq_true (Nat.le_trans hk (of_decide_eq_true hn))⟩

/-- Whether nothing is left to look for at an entry with so many entries to go. -/
def Settles (v : Visits) (remaining id : Nat) : Prop :=
  remaining = 0 ∨ v.cover id remaining = true

/-- What a search in vain adds to a table. -/
structure Explored (s : Store) (a : Attribute) (key : String) (v v' : Visits) : Prop where
  /-- Nothing is forgotten. -/
  covers : ∀ {i k : Nat}, v.cover i k = true → v'.cover i k = true
  /-- An entry that is looked at for the first time, or again with more entries to go, does not have
  the value that is looked for, and those to which it leads are looked at in their turn. -/
  closed : ∀ {i k : Nat} {e : Entry}, s.entry? i = some e → v'.cover i (k + 1) = true →
    v.cover i (k + 1) = true ∨
      (e.holds a key = false ∧ ∀ q, s.LeadsTo a (i, e) q → v'.Settles k q.1)

namespace Explored

variable {s : Store} {a : Attribute} {key : String} {v v' v'' : Visits}

theorem refl (v : Visits) : Explored s a key v v where
  covers h := h
  closed _ h := .inl h

theorem trans (h : Explored s a key v v') (h' : Explored s a key v' v'') :
    Explored s a key v v'' where
  covers hi := h'.covers (h.covers hi)
  closed he hi := by
    rcases h'.closed he hi with hi | hclosed
    · refine (h.closed he hi).imp_right fun ⟨hmiss, hnext⟩ => ⟨hmiss, fun q hq => ?_⟩
      exact (hnext q hq).imp_right h'.covers
    · exact .inr hclosed

/-- An entry that is put into the table itself is explored once all that it leads to is. -/
theorem enter {id n : Nat} {e : Entry} (he : s.entry? id = some e)
    (hnew : v.cover id (n + 1) = false) (hmiss : e.holds a key = false)
    (h : Explored s a key ((id, n + 1) :: v) v')
    (hnext : ∀ q, s.LeadsTo a (id, e) q → v'.Settles n q.1) :
    Explored s a key v v' where
  covers {i k} hi := by
    refine h.covers (cover_cons.mpr ?_)
    split
    · -- the entry had fewer entries to go before, if it was there
      rename_i heq
      refine Nat.le_of_not_lt fun hlt => ?_
      rw [cover_of_le (heq ▸ hi) (Nat.le_of_lt hlt)] at hnew
      exact nomatch hnew
    · exact hi
  closed {i k e'} he' hi := by
    rcases h.closed he' hi with hi | hclosed
    · rw [cover_cons] at hi
      split at hi
      · rename_i heq
        subst heq
        obtain rfl : e = e' := Option.some.inj (he.symm.trans he')
        have hk : k ≤ n := Nat.le_of_succ_le_succ hi
        refine .inr ⟨hmiss, fun q hq => ?_⟩
        rcases hnext q hq with rfl | hcover
        · exact .inl (Nat.le_zero.mp hk)
        · exact .inr (cover_of_le hcover hk)
      · exact .inl hi
    · exact .inr hclosed

/-- In a table that was filled from nothing, nothing is found behind the entries. -/
theorem not_reaches (h : Explored s a key [] v) : ∀ {k : Nat} {p : Nat × Entry},
    s.entry? p.1 = some p.2 → v.Settles k p.1 → ¬ s.Reaches a key k p
  | 0, _, _, _, hreach => hreach
  | k + 1, (i, e), he, .inr hcover, hreach => by
    rcases h.closed he hcover with hi | ⟨hmiss, hnext⟩
    · exact nomatch hi
    · rcases hreach with hhit | ⟨q, hpq, hq⟩
      · exact absurd hhit (by simp [hmiss])
      · have hsettles := hnext q hpq
        obtain ⟨name, -, hnamed⟩ := hpq
        exact not_reaches h (Store.entry?_of_named? hnamed) hsettles hq

end Explored

end Visits

namespace Store

variable {s : Store} {a : Attribute} {key : String}

/-- If searches of a length explore what is behind the entries where they start, one that goes on at
the entry that a value names explores what is behind that one, if there is one. -/
theorem explored_searchBeyond {k : Nat}
    (hsearch : ∀ {p : Nat × Entry} {v v' : Visits}, s.entry? p.1 = some p.2 →
      s.chainLeadsFrom a key k p v = (false, v') → v.Explored s a key v' ∧ v'.Settles k p.1)
    {name : String} {v v' : Visits} (h : s.searchBeyond a key k name v = (false, v')) :
    v.Explored s a key v' ∧ ∀ q, s.named? name = some q → v'.Settles k q.1 := by
  rw [searchBeyond] at h
  split at h
  · rename_i next hname
    obtain ⟨hexplored, hsettles⟩ := hsearch (entry?_of_named? hname) h
    refine ⟨hexplored, fun q hq => ?_⟩
    obtain rfl : next = q := Option.some.inj (hname.symm.trans hq)
    exact hsettles
  · rename_i hname
    obtain rfl := (Prod.mk.inj h).2
    exact ⟨.refl v, fun q hq => nomatch hname.symm.trans hq⟩

/-- A search in vain explores what is behind the entry where it starts. The statement is about any
table to begin with, as each search goes on with the table that those before it have filled. -/
theorem explored_chainLeadsFrom {k : Nat} : ∀ {p : Nat × Entry} {v v' : Visits},
    s.entry? p.1 = some p.2 → s.chainLeadsFrom a key k p v = (false, v') →
      v.Explored s a key v' ∧ v'.Settles k p.1 := by
  induction k with
  | zero =>
    intro p v v' _ h
    obtain rfl := (Prod.mk.inj h).2
    exact ⟨.refl v, .inl rfl⟩
  | succ k ih =>
    rintro ⟨id, e⟩ v v' he h
    rw [chainLeadsFrom_succ] at h
    split at h
    · rename_i hcover
      obtain rfl := (Prod.mk.inj h).2
      exact ⟨.refl v, .inr hcover⟩
    · rename_i hnew
      split at h
      · exact nomatch h
      · rename_i hmiss
        -- what settles the entry that one value names is not undone by the search for the others
        obtain ⟨hexplored, hall⟩ := anyInOrder_eq_false (P := Visits.Explored s a key)
          (Q := fun name t => ∀ q, s.named? name = some q → t.Settles k q.1)
          Visits.Explored.refl Visits.Explored.trans
          (fun hexplored hq q hname => (hq q hname).imp_right hexplored.covers)
          (fun name _ => explored_searchBeyond ih) h
        refine ⟨hexplored.enter he (Bool.eq_false_iff.mpr hnew) (Bool.eq_false_iff.mpr hmiss)
          fun q ⟨name, hname, hq⟩ => hall name hname q hq, .inr ?_⟩
        exact hexplored.covers (Visits.cover_cons.mpr (by rw [if_pos rfl]))

/-- A search from an entry of the store finds something exactly if a chain does. -/
theorem chainLeadsFrom_iff {k : Nat} {p : Nat × Entry} (hp : s.entry? p.1 = some p.2) :
    (s.chainLeadsFrom a key k p []).1 = true ↔ s.Reaches a key k p := by
  rcases hsearch : s.chainLeadsFrom a key k p [] with ⟨_ | _, v⟩
  · refine ⟨nofun, fun hreach => ?_⟩
    obtain ⟨hexplored, hsettles⟩ := explored_chainLeadsFrom hp hsearch
    exact absurd hreach (hexplored.not_reaches hp hsettles)
  · exact ⟨fun _ => reaches_of_chainLeadsFrom hsearch, fun _ => rfl⟩

end Store

namespace Filter.Node

/-- **Chains are found.** The condition holds of an entry exactly if ten entries or fewer, from that
one on, each name the next in a value of the attribute, and the last has a value that is the given
name in some letter case. -/
theorem eval_chain_iff {s : Store} {id : Nat} {e : Entry} (he : s.entry? id = some e)
    (a : Attribute) (dn : String) (m : Memory) :
    ((chain a dn).eval s id e m).1 = true ↔
      ∃ path : List (Nat × Entry), path.head? = some (id, e) ∧ path.length ≤ 10 ∧
        path.IsChain (s.LeadsTo a) ∧
        ∃ last ∈ path.getLast?, ∃ text ∈ last.2.renderedOf a, lower text = lower dn := by
  rw [eval, Store.chainLeads, Store.chainLeadsFrom_iff he, Store.reaches_iff]
  simp only [Entry.holds_eq_true, Store.chainDepth]

/-- Eleven entries, each of which names the next. The first one names the third as well, after the
second. The last names no entry. -/
def detour : Store.Builder :=
  (List.range 11).foldl (fun b i =>
    let next := (if i = 0 then [1, 2] else [i + 1]).map fun j => ("next", .text ("n=" ++ toString j))
    (b.add { dn := "N=" ++ toString i, values := next } ⟨.ofNat _ i⟩).2) { registry := .empty }

/-- The third entry is looked at twice, on a way through eleven entries and on one through ten. -/
theorem eval_chain_iff_detour :
    ∃ s e, detour.build = .ok s ∧ s.entry? 0 = some e ∧
      ∀ m, ((chain ⟨0⟩ "N=11").eval s 0 e m).1 = true := by
  have hbuild : detour.build = .ok _ := rfl
  refine ⟨_, _, hbuild, rfl, fun m => ?_⟩
  refine (eval_chain_iff rfl ⟨0⟩ "N=11" m).mpr
    ⟨(detour.entries.zipIdx.map Prod.swap).eraseIdx 1, rfl, ?_, ?_, _, rfl, "n=11", ?_, ?_⟩
  all_goals decide +kernel

end Filter.Node

end Directory
