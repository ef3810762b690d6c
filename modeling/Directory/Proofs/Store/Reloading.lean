import Directory.Proofs.Store.Alike
import Directory.Proofs.Store.Loading
import Mathlib.Data.List.Perm.Basic

/-!
# Object files that are loaded twice

An object file may be loaded with other indexes, or after its entries and their edges were put into
another order. The two stores number attributes and entries differently and still say the same.

- `Document.Identified`: all identifiers are given, so loading makes up none.
- `Document.Rearranges`: another object file has the same entries under other numbers.
  `Document.Loaded.corresponds`: then attributes of one name correspond.
- `Document.Loaded.alike`: one object file that is loaded twice.
- `Document.Reordered`: an object file in another order, `Document.moved`: where its entries went.
  `Document.Loaded.permuted`: the two stores.
-/

namespace Directory

open Text (lower)

section Forall₂

variable {α β γ : Type} {P : α → β → Prop} {l : List α} {l' : List β}

theorem exists_of_mem_left (h : List.Forall₂ P l l') {a : α} (ha : a ∈ l) : ∃ b ∈ l', P a b := by
  induction h with
  | nil => exact absurd ha List.not_mem_nil
  | @cons c b l l' hcb _ ih =>
    rcases List.mem_cons.mp ha with rfl | ha
    · exact ⟨b, List.mem_cons_self, hcb⟩
    · obtain ⟨b', hb', hab⟩ := ih ha
      exact ⟨b', List.mem_cons_of_mem _ hb', hab⟩

theorem flatMap_perm_of_forall₂ (h : List.Forall₂ P l l') {f : α → List γ} {g : β → List γ}
    (hfg : ∀ {a b}, P a b → (f a).Perm (g b)) : (l.flatMap f).Perm (l'.flatMap g) := by
  induction h with
  | nil => exact .refl _
  | cons hab _ ih =>
    rw [List.flatMap_cons, List.flatMap_cons]
    exact (hfg hab).append ih

end Forall₂

namespace Document

open Store (Spares)

/-- Whether the identifiers of all entries are given. -/
def Identified (d : Document) : Prop :=
  ∀ r ∈ d.records, r.guid.isSome

theorem Consistent.isSome_guid {d : Document} (h : d.Consistent) (hd : d.Identified) {r : Record}
    (hr : r ∈ d.records) : r.drafted.guid.isSome := by
  obtain ⟨text, htext⟩ := Option.isSome_iff_exists.mp (hd r hr)
  have hguid := h.guids r hr text htext
  rwa [← Option.bind_some (f := Guid.read?) text, ← htext] at hguid

/-- Whether another object file has the entries of this one, except for the order of their edges,
where `ren` leads from their numbers in this one to those in the other. -/
def Rearranges (ren : Nat → Nat) (d d' : Document) : Prop :=
  ∀ i r, d.records[i]? = some r → ∃ r', d'.records[ren i]? = some r' ∧ r'.drafted = r.drafted

theorem rearranges_self (d : Document) : Rearranges id d d :=
  fun _ _ hr => ⟨_, hr, rfl⟩

namespace Loaded

variable {spares spares' : Spares} {d d' : Document} {s s' : Store}

theorem entry?_eq_none (h : Loaded spares d s) {i : Nat} :
    s.entry? i = none ↔ d.records.length ≤ i := by
  rw [Store.entry?, List.getElem?_eq_none_iff, ← h.size]
  rfl

theorem exists_record (h : Loaded spares d s) {i : Nat} {x : Entry} (hx : s.entry? i = some x) :
    ∃ r, d.records[i]? = some r ∧ x.Stems s.registry r.drafted (spares i) := by
  have hlt : i < d.records.length := h.size ▸ (List.getElem?_eq_some_iff.mp hx).1
  have hr := List.getElem?_eq_getElem hlt
  obtain ⟨y, hy, hstems⟩ := h.stems hr
  obtain rfl := Option.some.inj (hx.symm.trans hy)
  exact ⟨_, hr, hstems⟩

theorem covers (h : Loaded spares d s) : ∀ e ∈ s.entries, s.registry.Covers e.values := by
  intro e he
  obtain ⟨i, hi⟩ := List.mem_iff_getElem?.mp he
  obtain ⟨r, -, hstems⟩ := h.exists_record hi
  exact hstems.covers

/-- Entries are found in the store where the object file has them. -/
theorem findByName? (h : Loaded spares d s) (name : String) :
    s.findByName? name = position? d.records name :=
  h.names (lower name)

section Rearranges

variable (h : Loaded spares d s) (h' : Loaded spares' d' s') (hd : d.Identified)
  {ren : Nat → Nat} (hren : Rearranges ren d d')
include h h' hd hren

theorem exists_stems {i : Nat} {x : Entry} (hx : s.entry? i = some x) :
    ∃ x' draft, s'.entry? (ren i) = some x' ∧ draft.guid.isSome ∧
      x.Stems s.registry draft (spares i) ∧ x'.Stems s'.registry draft (spares' (ren i)) := by
  obtain ⟨r, hr, hstems⟩ := h.exists_record hx
  obtain ⟨r', hr', hdrafted⟩ := hren i r hr
  obtain ⟨x', hx', hstems'⟩ := h'.stems hr'
  rw [hdrafted] at hstems'
  have hguid := h.consistent.isSome_guid hd (List.mem_of_getElem? hr)
  exact ⟨x', r.drafted, hx', hguid, hstems, hstems'⟩

/-- Registries that grew from those of the stores give corresponding attributes to each name. -/
theorem corresponds : Registry.Corresponds (s.SameValues ren s') fun r r' =>
    r.Remembers s.registry ∧ r'.Remembers s'.registry := by
  refine Store.corresponds_sameValues ren h.covers h'.covers fun {i e e'} he he' name => ?_
  obtain ⟨x', draft, hx', hguid, hstems, hstems'⟩ := h.exists_stems h' hd hren he
  obtain rfl := Option.some.inj (he'.symm.trans hx')
  exact hstems.valuesUnder_eq hstems' hguid name

theorem alike_entry {i : Nat} {x : Entry} (hx : s.entry? i = some x) :
    ∃ x', s'.entry? (ren i) = some x' ∧ x.Alike (s.SameValues ren s') x' := by
  obtain ⟨x', draft, hx', -, hstems, hstems'⟩ := h.exists_stems h' hd hren hx
  exact ⟨x', hx', hstems.dn.trans hstems'.dn.symm, fun hab => hab.renderedOf_eq hx hx'⟩

end Rearranges

/-- An object file that is loaded twice, perhaps with other indexes. -/
theorem alike {s' : Store} (h : Loaded spares d s) (h' : Loaded spares' d s') (hd : d.Identified) :
    s.Alike (s.SameValues id s') s' where
  edges := by
    funext dir i
    rw [h.edgesAt, h'.edgesAt]
  findByName? name := by
    rw [h.findByName?, h'.findByName?]
  entries i := by
    cases hx : s.entry? i with
    | none =>
      rw [h'.entry?_eq_none.mpr (h.entry?_eq_none.mp hx)]
      exact .none
    | some x =>
      obtain ⟨x', hx', halike⟩ := h.alike_entry h' hd d.rearranges_self hx
      replace hx' : s'.entry? i = some x' := hx'
      rw [hx']
      exact .some halike

end Loaded

/-! ## Another order -/

/-- Whether two entries of object files are the same except for the order of their edges. -/
structure Record.Reordered (r r' : Record) : Prop where
  /-- The names are the same. -/
  dn : r'.dn = r.dn
  /-- So are the identifiers. -/
  guid : r'.guid = r.guid
  /-- So are the security identifiers. -/
  sid : r'.sid = r.sid
  /-- So are the values. -/
  attributes : r'.attributes = r.attributes
  /-- The edges are in another order. -/
  edges : r.edges.Perm r'.edges

theorem Record.Reordered.drafted_eq {r r' : Record} (h : r.Reordered r') :
    r'.drafted = r.drafted := by
  rw [Record.drafted, Record.drafted, h.dn, h.guid, h.sid, h.attributes]

/-- Whether two object files are the same except for the order of the entries and of their edges. -/
def Reordered (d d' : Document) : Prop :=
  ∃ l, d.records.Perm l ∧ List.Forall₂ Record.Reordered l d'.records

/-- The number in another object file of the entry that has a number in this one. -/
def moved (d d' : Document) (i : Nat) : Nat :=
  match d.records[i]? with
  | some r => (position? d'.records r.dn).getD i
  | none => i

section Reordered

variable {d d' : Document} (hd : d.Reordered d')
include hd

theorem Reordered.exists_mem {r : Record} (hr : r ∈ d.records) :
    ∃ r' ∈ d'.records, r.Reordered r' := by
  obtain ⟨l, hperm, hl⟩ := hd
  exact exists_of_mem_left hl (hperm.mem_iff.mp hr)

theorem Reordered.exists_mem' {r' : Record} (hr' : r' ∈ d'.records) :
    ∃ r ∈ d.records, r.Reordered r' := by
  obtain ⟨l, hperm, hl⟩ := hd
  obtain ⟨r, hr, hrr'⟩ := exists_of_mem_left hl.flip hr'
  exact ⟨r, hperm.mem_iff.mpr hr, hrr'⟩

theorem Reordered.map_dn_perm :
    (d.records.map fun r => lower r.dn).Perm (d'.records.map fun r => lower r.dn) := by
  obtain ⟨l, hperm, hl⟩ := hd
  have hmap : (l.map fun r => lower r.dn) = d'.records.map fun r => lower r.dn :=
    map_eq_of_forall₂ hl fun hrr' => by rw [hrr'.dn]
  exact hmap ▸ hperm.map _

theorem Reordered.length_eq : d.records.length = d'.records.length := by
  have h := (Reordered.map_dn_perm hd).length_eq
  rwa [List.length_map, List.length_map] at h

/-- Whether an object file is consistent does not depend on its order. -/
theorem Reordered.consistent (h : d.Consistent) : d'.Consistent where
  guids r' hr' := by
    obtain ⟨r, hr, hrr'⟩ := Reordered.exists_mem' hd hr'
    exact hrr'.guid ▸ h.guids r hr
  names := (Reordered.map_dn_perm hd).nodup h.names
  targets r' hr' e he := by
    obtain ⟨r, hr, hrr'⟩ := Reordered.exists_mem' hd hr'
    obtain ⟨t, ht, htarget⟩ := h.targets r hr e (hrr'.edges.mem_iff.mpr he)
    obtain ⟨t', ht', htt'⟩ := Reordered.exists_mem hd ht
    exact ⟨t', ht', htt'.dn ▸ htarget⟩
  methods r' hr' e he := by
    obtain ⟨r, hr, hrr'⟩ := Reordered.exists_mem' hd hr'
    exact h.methods r hr e (hrr'.edges.mem_iff.mpr he)

variable (h : d.Consistent)
include h

/-- Every entry is found where it was moved. -/
theorem Reordered.exists_moved {i : Nat} {r : Record} (hr : d.records[i]? = some r) :
    ∃ r', d'.records[moved d d' i]? = some r' ∧ r.Reordered r' := by
  obtain ⟨r', hr', hrr'⟩ := Reordered.exists_mem hd (List.mem_of_getElem? hr)
  obtain ⟨j, hj⟩ := List.mem_iff_getElem?.mp hr'
  have hposition : position? d'.records r.dn = some j :=
    ((Reordered.consistent hd h).position?_eq_some_iff hj).mpr (by rw [hrr'.dn])
  have hmoved : moved d d' i = j := by
    rw [moved, hr]
    show (position? d'.records r.dn).getD i = j
    rw [hposition]
    rfl
  rw [hmoved]
  exact ⟨r', hj, hrr'⟩

/-- A name leads to the place where its entry was moved. -/
theorem Reordered.position?_eq (dn : String) :
    position? d'.records dn = (position? d.records dn).map (moved d d') := by
  cases hposition : position? d.records dn with
  | none =>
    rw [Option.map_none, position?_eq_none]
    rintro ⟨t', ht', hdn⟩
    obtain ⟨t, ht, htt'⟩ := Reordered.exists_mem' hd ht'
    exact position?_eq_none.mp hposition ⟨t, ht, htt'.dn ▸ hdn⟩
  | some i =>
    obtain ⟨r, hr, hdn⟩ := position?_eq_some hposition
    obtain ⟨r', hr', hrr'⟩ := Reordered.exists_moved hd h hr
    exact ((Reordered.consistent hd h).position?_eq_some_iff hr').mpr (hrr'.dn ▸ hdn)

/-- Every place is that of an entry that was moved there. -/
theorem Reordered.exists_moved_eq {j : Nat} (hj : j < d'.records.length) :
    ∃ i < d.records.length, moved d d' i = j := by
  have hr' := List.getElem?_eq_getElem hj
  obtain ⟨r, hr, hrr'⟩ := Reordered.exists_mem' hd (List.mem_of_getElem? hr')
  obtain ⟨i, hi⟩ := List.mem_iff_getElem?.mp hr
  have hposition := Reordered.position?_eq hd h r.dn
  rw [(h.position?_eq_some_iff hi).mpr rfl] at hposition
  have hposition' : position? d'.records r.dn = some j :=
    ((Reordered.consistent hd h).position?_eq_some_iff hr').mpr (by rw [hrr'.dn])
  exact ⟨i, (List.getElem?_eq_some_iff.mp hi).1, Option.some.inj (hposition.symm.trans hposition')⟩

theorem Reordered.moved_lt {i : Nat} (hi : i < d.records.length) :
    moved d d' i < d.records.length := by
  obtain ⟨r', hr', -⟩ := Reordered.exists_moved hd h (List.getElem?_eq_getElem hi)
  rw [Reordered.length_eq hd]
  exact (List.getElem?_eq_some_iff.mp hr').1

omit hd h in
theorem moved_of_le {i : Nat} (hi : d.records.length ≤ i) : moved d d' i = i := by
  rw [moved, List.getElem?_eq_none hi]

theorem Reordered.moved_injective : Function.Injective (moved d d') := by
  intro i j hij
  by_cases hi : i < d.records.length <;> by_cases hj : j < d.records.length
  · -- the two entries have one name
    have hri := List.getElem?_eq_getElem hi
    have hrj := List.getElem?_eq_getElem hj
    obtain ⟨r', hr', hrr'⟩ := Reordered.exists_moved hd h hri
    obtain ⟨t', ht', htt'⟩ := Reordered.exists_moved hd h hrj
    rw [hij] at hr'
    obtain rfl := Option.some.inj (hr'.symm.trans ht')
    have hfirst := (h.position?_eq_some_iff hri).mpr rfl
    rw [← hrr'.dn, htt'.dn] at hfirst
    exact Option.some.inj (hfirst.symm.trans ((h.position?_eq_some_iff hrj).mpr rfl))
  · have hlt := Reordered.moved_lt hd h hi
    rw [hij, moved_of_le (Nat.le_of_not_lt hj)] at hlt
    exact absurd hlt hj
  · have hlt := Reordered.moved_lt hd h hj
    rw [← hij, moved_of_le (Nat.le_of_not_lt hi)] at hlt
    exact absurd hlt hi
  · rwa [moved_of_le (Nat.le_of_not_lt hi), moved_of_le (Nat.le_of_not_lt hj)] at hij

theorem Reordered.rearranges : Rearranges (moved d d') d d' := by
  intro i r hr
  obtain ⟨r', hr', hrr'⟩ := Reordered.exists_moved hd h hr
  exact ⟨r', hr', hrr'.drafted_eq⟩

end Reordered

/-! ## Edges -/

/-- An edge that an entry lists, if it can be followed. -/
def resolveFrom? (records : List Record) (r : Record) (e : EdgeRecord) : Option Edge :=
  (position? records r.dn).bind fun i => resolve? records i e

/-- The edges, told by the names of the entries that list them. -/
theorem Consistent.edges_eq {d : Document} (h : d.Consistent) :
    d.edges = d.records.flatMap fun r => r.edges.filterMap (resolveFrom? d.records r) := by
  have hzip : d.edges = (d.records.zipIdx.map Prod.fst).flatMap fun r =>
      r.edges.filterMap (resolveFrom? d.records r) := by
    rw [List.flatMap_map]
    refine List.flatMap_congr fun p hp => List.filterMap_congr fun e _ => ?_
    have hr := List.mk_mem_zipIdx_iff_getElem?.mp hp
    rw [resolveFrom?, (h.position?_eq_some_iff hr).mpr rfl]
    rfl
  rwa [List.zipIdx_map_fst] at hzip

section Reordered

variable {d d' : Document} (hd : d.Reordered d') (h : d.Consistent)
include hd h

theorem Reordered.resolveFrom?_eq (r : Record) (e : EdgeRecord) :
    resolveFrom? d'.records r e =
      (resolveFrom? d.records r e).map (Edge.renumber (moved d d')) := by
  rw [resolveFrom?, resolveFrom?, Reordered.position?_eq hd h]
  cases position? d.records r.dn with
  | none => rfl
  | some i =>
    rw [Option.map_some, Option.bind_some, Option.bind_some, resolve?, resolve?,
      Reordered.position?_eq hd h]
    cases position? d.records e.target with
    | none => rfl
    | some j => cases AttackMethod.ofName? e.method.toList <;> rfl

/-- The edges lead to the same entries as before. -/
theorem Reordered.edges_perm : (d.edges.map (Edge.renumber (moved d d'))).Perm d'.edges := by
  have hmoved : d.edges.map (Edge.renumber (moved d d')) =
      d.records.flatMap fun r => r.edges.filterMap (resolveFrom? d'.records r) := by
    rw [h.edges_eq, List.map_flatMap]
    refine List.flatMap_congr fun r _ => ?_
    rw [List.map_filterMap]
    exact List.filterMap_congr fun e _ => (Reordered.resolveFrom?_eq hd h r e).symm
  rw [hmoved, (Reordered.consistent hd h).edges_eq]
  obtain ⟨l, hperm, hl⟩ := hd
  refine (hperm.flatMap_right _).trans (flatMap_perm_of_forall₂ hl fun {r r'} hrr' => ?_)
  have hname : resolveFrom? d'.records r' = resolveFrom? d'.records r := by
    funext e
    rw [resolveFrom?, resolveFrom?, hrr'.dn]
  rw [hname]
  exact hrr'.edges.filterMap _

end Reordered

/-- The stores of two object files that differ in their order. -/
theorem Loaded.permuted {spares spares' : Spares} {d d' : Document} {s s' : Store}
    (h : Loaded spares d s) (h' : Loaded spares' d' s') (hidentified : d.Identified)
    (hd : d.Reordered d') :
    s.Permuted (s.SameValues (moved d d') s') (moved d d') s' := by
  have hren := Reordered.rearranges hd h.consistent
  have hinjective := Reordered.moved_injective hd h.consistent
  have hentries : ∀ i, Option.Rel (Entry.Alike (s.SameValues (moved d d') s')) (s.entry? i)
      (s'.entry? (moved d d' i)) := by
    intro i
    cases hx : s.entry? i with
    | none =>
      have hle := h.entry?_eq_none.mp hx
      rw [moved_of_le hle, h'.entry?_eq_none.mpr (Reordered.length_eq hd ▸ hle)]
      exact .none
    | some x =>
      obtain ⟨x', hx', halike⟩ := h.alike_entry h' hidentified hren hx
      rw [hx']
      exact .some halike
  have honto : ∀ {j x'}, s'.entry? j = some x' → ∃ i, moved d d' i = j := by
    intro j x' hx'
    obtain ⟨r', hr', -⟩ := h'.exists_record hx'
    obtain ⟨i, -, hi⟩ :=
      Reordered.exists_moved_eq hd h.consistent (List.getElem?_eq_some_iff.mp hr').1
    exact ⟨i, hi⟩
  refine ⟨⟨hinjective, fun name => ?_⟩, hentries, honto, fun dir i => ?_⟩
  · rw [Store.named?, Store.named?, h.findByName?, h'.findByName?,
      Reordered.position?_eq hd h.consistent]
    cases position? d.records name with
    | none => exact .none
    | some i =>
      rw [Option.map_some, Option.bind_some, Option.bind_some]
      have hi := hentries i
      generalize s.entry? i = x, s'.entry? (moved d d' i) = x' at hi
      cases hi with
      | none => exact .none
      | some he => exact .some ⟨rfl, he⟩
  · rw [h.edgesAt, h'.edgesAt, ← edgesFrom_map_renumber hinjective]
    exact (Reordered.edges_perm hd h.consistent).filter _

end Document

end Directory
