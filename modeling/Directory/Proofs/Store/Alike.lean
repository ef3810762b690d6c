import Directory.Filter.Chain
import Directory.Proofs.Store.Values
import Mathlib.Logic.Function.Defs

/-!
# Stores that say the same

Two stores can say the same of the same entries although they number attributes differently, or the
entries themselves. Then chains of names lead to the same places in both.

- `Entry.Alike`: entries with the same name and, for corresponding attributes, the same texts.
- `Store.Renumbered`: stores in which the same names belong to entries that are alike.
  `Store.Renumbered.chainLeads`: chains lead to the same names in both.
- `Store.Alike`: stores whose entries are alike and have the same numbers and edges.
- `Store.SameValues`: attributes correspond if all entries have the same values of them.
  `Store.corresponds_sameValues`: then the attributes that two registries give to a name do.
-/

namespace Directory

open Text (lower)

theorem anyInOrder_congr {α σ : Type} {ask ask' : α → σ → Bool × σ}
    (h : ∀ x t, ask x t = ask' x t) (l : List α) (t : σ) :
    anyInOrder ask l t = anyInOrder ask' l t := by
  rw [funext fun x => funext (h x)]

/-- Items that have the same answers after a change of the state have them when they are asked in
order, too. -/
theorem anyInOrder_map {α σ τ : Type} {ask : α → σ → Bool × σ} {ask' : α → τ → Bool × τ}
    {g : σ → τ} (h : ∀ x t, ask' x (g t) = ((ask x t).1, g (ask x t).2)) (l : List α) (t : σ) :
    anyInOrder ask' l (g t) = ((anyInOrder ask l t).1, g (anyInOrder ask l t).2) := by
  induction l generalizing t with
  | nil => rfl
  | cons x l ih =>
    rw [anyInOrder, anyInOrder, h]
    rcases ask x t with ⟨_ | _, t'⟩
    · exact ih t'
    · rfl

/-! ## Lists whose members are related one by one -/

section Forall₂

variable {α β γ : Type} {P : α → β → Prop} {l : List α} {l' : List β}

theorem map_eq_of_forall₂ (h : List.Forall₂ P l l') {f : α → γ} {g : β → γ}
    (hfg : ∀ {a b}, P a b → f a = g b) : l.map f = l'.map g := by
  induction h with
  | nil => rfl
  | cons hab _ ih => rw [List.map_cons, List.map_cons, hfg hab, ih]

theorem forall₂_modify (h : List.Forall₂ P l l') {f : α → α} {g : β → β}
    (hfg : ∀ {a b}, P a b → P (f a) (g b)) :
    ∀ i : Nat, List.Forall₂ P (l.modify i f) (l'.modify i g) := by
  induction h with
  | nil =>
    intro i
    rw [List.modify_nil, List.modify_nil]
    exact .nil
  | cons hab h ih =>
    rintro (_ | i)
    · exact .cons (hfg hab) h
    · exact .cons hab (ih i)

theorem forall₂_iff_getElem? :
    List.Forall₂ P l l' ↔ ∀ i : Nat, Option.Rel P l[i]? l'[i]? := by
  constructor
  · intro h
    induction h with
    | nil => exact fun _ => .none
    | cons hab _ ih =>
      rintro (_ | i)
      · exact .some hab
      · exact ih i
  · intro h
    induction l generalizing l' with
    | nil =>
      cases l' with
      | nil => exact .nil
      | cons b l' => exact nomatch h 0
    | cons a l ih =>
      cases l' with
      | nil => exact nomatch h 0
      | cons b l' =>
        have hfirst := h 0
        cases hfirst with
        | some hab => exact .cons hab (ih fun i => h (i + 1))

end Forall₂

/-! ## Entries -/

/-- Whether two entries have the same name, and values of corresponding attributes with the same
texts. -/
structure Entry.Alike (R : Attribute → Attribute → Prop) (e e' : Entry) : Prop where
  /-- The names are the same. -/
  dn : e.dn = e'.dn
  /-- So are the texts of the values. -/
  texts : ∀ {a b}, R a b → e.renderedOf a = e'.renderedOf b

/-- The same entries looked at under other numbers. -/
def Visits.renumber (ren : Nat → Nat) (v : Visits) : Visits :=
  v.map fun p => (ren p.1, p.2)

theorem Visits.cover_renumber {ren : Nat → Nat} (hren : Function.Injective ren) (v : Visits)
    (id remaining : Nat) : (v.renumber ren).cover (ren id) remaining = v.cover id remaining := by
  have hlookup : (v.renumber ren).lookup (ren id) = v.lookup id := by
    induction v with
    | nil => rfl
    | cons p v ih =>
      obtain ⟨i, k⟩ := p
      rw [renumber, List.map_cons, List.lookup_cons, List.lookup_cons, ← renumber, ih]
      by_cases h : id = i
      · simp [h]
      · rw [beq_eq_false_iff_ne.mpr h, beq_eq_false_iff_ne.mpr (hren.ne h)]
  rw [cover, cover, hlookup]

namespace Store

/-! ## Other numbers -/

/-- Whether the same names belong to entries that are alike, and `ren` leads from the number of each
entry in the one store to its number in the other. -/
structure Renumbered (R : Attribute → Attribute → Prop) (ren : Nat → Nat) (s s' : Store) :
    Prop where
  /-- Different entries have different numbers. -/
  injective : Function.Injective ren
  /-- Entries that are found under one name are alike. -/
  named? : ∀ name, Option.Rel (fun p q : Nat × Entry => ren p.1 = q.1 ∧ p.2.Alike R q.2)
    (s.named? name) (s'.named? name)

namespace Renumbered

variable {R : Attribute → Attribute → Prop} {ren : Nat → Nat} {s s' : Store}
  (hs : s.Renumbered R ren s')
include hs

theorem chainLeadsFrom {a b : Attribute} (hab : R a b) (key : String) :
    ∀ (remaining id : Nat) {e e' : Entry}, e.Alike R e' → ∀ v : Visits,
      s'.chainLeadsFrom b key remaining (ren id, e') (v.renumber ren) =
        ((s.chainLeadsFrom a key remaining (id, e) v).1,
          (s.chainLeadsFrom a key remaining (id, e) v).2.renumber ren) := by
  intro remaining
  induction remaining with
  | zero => exact fun _ _ _ _ _ => rfl
  | succ remaining ih =>
    intro id e e' he v
    rw [Store.chainLeadsFrom, Store.chainLeadsFrom, he.texts hab, v.cover_renumber hs.injective]
    split
    · rfl
    · dsimp only
      split
      · rfl
      · refine anyInOrder_map (g := Visits.renumber ren) (fun name v => ?_) _
          ((id, remaining + 1) :: v)
        have hnamed := hs.named? name
        generalize s.named? name = x, s'.named? name = x' at hnamed
        cases hnamed with
        | none => rfl
        | @some p q hpq =>
          obtain ⟨i, f⟩ := p
          obtain ⟨j, f'⟩ := q
          obtain ⟨rfl, hf⟩ := hpq
          exact ih i hf v

/-- From entries that are alike, chains lead to the same names. -/
theorem chainLeads {a b : Attribute} (hab : R a b) (dn : String) (id : Nat) {e e' : Entry}
    (he : e.Alike R e') : s'.chainLeads b dn (ren id) e' = s.chainLeads a dn id e := by
  show (s'.chainLeadsFrom b (lower dn) chainDepth (ren id, e') (Visits.renumber ren [])).1 = _
  rw [hs.chainLeadsFrom hab (lower dn) chainDepth id he []]
  rfl

end Renumbered

end Store

/-- The same edge between entries under other numbers. -/
def Edge.renumber (ren : Nat → Nat) (e : Edge) : Edge :=
  ⟨ren e.source, ren e.target, e.method⟩

@[simp]
theorem Edge.near_renumber (ren : Nat → Nat) (d : Direction) (e : Edge) :
    (e.renumber ren).near d = ren (e.near d) := by
  cases d <;> rfl

@[simp]
theorem Edge.far_renumber (ren : Nat → Nat) (d : Direction) (e : Edge) :
    (e.renumber ren).far d = ren (e.far d) := by
  cases d <;> rfl

theorem edgesFrom_map_renumber {ren : Nat → Nat} (hren : Function.Injective ren) (d : Direction)
    (near : Nat) (es : List Edge) :
    edgesFrom d (ren near) (es.map (Edge.renumber ren)) =
      (edgesFrom d near es).map (Edge.renumber ren) := by
  rw [edgesFrom, edgesFrom, List.filter_map]
  refine congrArg _ (List.filter_congr fun e _ => ?_)
  simp [hren.eq_iff]

namespace Store

/-- Whether two stores differ in attributes, in the numbers of their entries and in the order of the
edges only. -/
structure Permuted (R : Attribute → Attribute → Prop) (ren : Nat → Nat) (s s' : Store) : Prop
    extends Renumbered R ren s s' where
  /-- Entries whose numbers correspond are alike. -/
  entries : ∀ i, Option.Rel (Entry.Alike R) (s.entry? i) (s'.entry? (ren i))
  /-- There are no other entries. -/
  onto : ∀ {j e'}, s'.entry? j = some e' → ∃ i, ren i = j
  /-- The edges followed from them lead to the same entries. -/
  edges : ∀ d i, ((s.edgesAt d i).map (Edge.renumber ren)).Perm (s'.edgesAt d (ren i))

/-- The names of the entries with the given numbers. -/
def namesOf (s : Store) (ids : List Nat) : List String :=
  ids.filterMap fun i => (s.entry? i).map Entry.dn

theorem Permuted.namesOf_map {R : Attribute → Attribute → Prop} {ren : Nat → Nat} {s s' : Store}
    (hs : s.Permuted R ren s') (ids : List Nat) : s'.namesOf (ids.map ren) = s.namesOf ids := by
  rw [namesOf, namesOf, List.filterMap_map]
  refine List.filterMap_congr fun i _ => ?_
  rw [Function.comp_apply]
  have hi := hs.entries i
  generalize s.entry? i = x, s'.entry? (ren i) = x' at hi
  cases hi with
  | none => rfl
  | some he => exact congrArg some he.dn.symm

/-! ## Other attributes -/

/-- Whether two stores differ in their registries, in their indexes and in attributes only. -/
structure Alike (R : Attribute → Attribute → Prop) (s s' : Store) : Prop where
  /-- The edges are the same. -/
  edges : s.edgesAt = s'.edgesAt
  /-- Entries with the same number are alike. -/
  entries : ∀ id, Option.Rel (Entry.Alike R) (s.entry? id) (s'.entry? id)
  /-- A name leads to the same number. -/
  findByName? : ∀ name, s.findByName? name = s'.findByName? name

namespace Alike

variable {R : Attribute → Attribute → Prop} {s s' : Store} (hs : s.Alike R s')
include hs

/-- The entries have the same numbers in both. -/
theorem renumbered : s.Renumbered R id s' where
  injective := Function.injective_id
  named? name := by
    rw [Store.named?, Store.named?, hs.findByName? name]
    cases s'.findByName? name with
    | none => exact .none
    | some i =>
      rw [Option.bind_some, Option.bind_some]
      have hi := hs.entries i
      generalize s.entry? i = x, s'.entry? i = x' at hi
      cases hi with
      | none => exact .none
      | some he => exact .some ⟨rfl, he⟩

end Alike

end Store

/-! ## Registries -/

/-- Whether registries that are related give corresponding attributes to each name, and are related
after that. -/
def Registry.Corresponds (R : Attribute → Attribute → Prop) (P : Registry → Registry → Prop) :
    Prop :=
  ∀ {r r' : Registry} (name : String), P r r' →
    R (r.intern name).1 (r'.intern name).1 ∧ P (r.intern name).2 (r'.intern name).2

/-- Whether all entries have the same values of an attribute in one store and of another one in the
other store, where `ren` leads from their numbers in the one to those in the other. -/
def Store.SameValues (ren : Nat → Nat) (s s' : Store) (a b : Attribute) : Prop :=
  ∀ {i e e'}, s.entry? i = some e → s'.entry? (ren i) = some e' → e.valuesOf a = e'.valuesOf b

theorem Store.SameValues.renderedOf_eq {ren : Nat → Nat} {s s' : Store} {a b : Attribute}
    (h : s.SameValues ren s' a b) {i : Nat} {e e' : Entry} (he : s.entry? i = some e)
    (he' : s'.entry? (ren i) = some e') : e.renderedOf a = e'.renderedOf b :=
  congrArg (List.map Value.rendered) (h he he')

/-- Attributes that registries give to one name correspond, if the entries of both stores have the
same values by name. -/
theorem Store.corresponds_sameValues (ren : Nat → Nat) {s s' : Store}
    (hs : ∀ e ∈ s.entries, s.registry.Covers e.values)
    (hs' : ∀ e ∈ s'.entries, s'.registry.Covers e.values)
    (hvalues : ∀ {i e e'}, s.entry? i = some e → s'.entry? (ren i) = some e' → ∀ name,
      s.registry.valuesUnder name e.values = s'.registry.valuesUnder name e'.values) :
    Registry.Corresponds (s.SameValues ren s') fun r r' =>
      r.Remembers s.registry ∧ r'.Remembers s'.registry := by
  rintro r r' name ⟨hr, hr'⟩
  refine ⟨fun he he' => ?_, (r.remembers_intern name).trans hr, (r'.remembers_intern name).trans hr'⟩
  rw [(hs _ (List.mem_of_getElem? he)).valuesOf_intern hr name,
    (hs' _ (List.mem_of_getElem? he')).valuesOf_intern hr' name]
  exact hvalues he he' name

end Directory
