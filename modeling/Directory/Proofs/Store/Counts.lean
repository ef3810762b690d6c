import Directory.Proofs.Store.Index
import Directory.Proofs.Store.Reachable
import Mathlib.Data.Finset.Card

/-!
# What an index counts

An index has one key for each folded value that occurs, and under it one number for each entry that
has the value, however often and in whatever letter case. So its counts are those of distinct values
and of distinct pairs of a value and an entry.

- `Index.Distinct`: no key stands twice. `Index.pairs`: the keys with the numbers under them.
- `Store.foldedValues`, `Store.foldedPairs`: the values of a store, with repetitions.
- `Store.Builder.index_of_build`: what a finished store finds, and counts, in its indexes.
-/

namespace Directory

open Text (lower)

theorem Entry.holds_eq_true {a : Attribute} {key : String} {e : Entry} :
    e.holds a key = true ↔ ∃ v ∈ e.renderedOf a, lower v = key := by
  rw [holds, List.any_eq_true]
  simp only [beq_iff_eq]

namespace Index

/-- Whether no key stands twice. -/
def Distinct (x : Index) : Prop :=
  (x.keys.map (·.1)).Nodup

/-- The keys with the numbers under them. -/
def pairs (x : Index) : List (String × Nat) :=
  x.keys.flatMap fun p => p.2.ids.map (p.1, ·)

theorem entryCount_eq (x : Index) : x.entryCount = x.pairs.length := by
  rw [entryCount, pairs]
  induction x.keys with
  | nil => rfl
  | cons p keys ih =>
    rw [List.foldr_cons, ih, List.flatMap_cons, List.length_append, List.length_map]
    rfl

theorem map_fst_insertUnder (key : String) (id : Nat) (keys : List (String × IdSet)) :
    (insertUnder key id keys).map (·.1) =
      if key ∈ keys.map (·.1) then keys.map (·.1) else keys.map (·.1) ++ [key] := by
  induction keys with
  | nil => rfl
  | cons p rest ih =>
    obtain ⟨k, s⟩ := p
    rw [insertUnder]
    by_cases hk : k = key
    · simp [hk]
    · rw [if_neg hk, List.map_cons, ih, List.map_cons]
      by_cases hrest : key ∈ rest.map (·.1)
      · rw [if_pos hrest, if_pos (List.mem_cons_of_mem _ hrest)]
      · rw [if_neg hrest, if_neg (by simp [hrest, Ne.symm hk]), List.cons_append]

theorem Distinct.insert {x : Index} (h : x.Distinct) (value : String) (id : Nat) :
    (x.insert value id).Distinct := by
  rw [Distinct, Index.insert, map_fst_insertUnder]
  split
  · exact h
  · rename_i hnew
    refine List.nodup_append.mpr ⟨h, List.pairwise_singleton _ _, ?_⟩
    rintro key hkey _ hvalue rfl
    rw [List.mem_singleton.mp hvalue] at hkey
    exact hnew hkey

section Distinct

variable {x : Index} (hx : x.Distinct)
include hx

theorem Distinct.lookup_eq_some {key : String} {ids : IdSet} :
    x.keys.lookup key = some ids ↔ (key, ids) ∈ x.keys := by
  constructor
  · intro h
    obtain ⟨l, m, hkeys, -⟩ := List.lookup_eq_some_iff.mp h
    rw [hkeys]
    exact List.mem_append_right _ List.mem_cons_self
  · intro h
    obtain ⟨l, m, hkeys⟩ := List.append_of_mem h
    refine List.lookup_eq_some_iff.mpr ⟨l, m, hkeys, fun p hp => ?_⟩
    rw [Distinct, hkeys, List.map_append, List.nodup_append] at hx
    exact bne_iff_ne.mpr fun heq =>
      hx.2.2 p.1 (List.mem_map_of_mem hp) key List.mem_cons_self heq.symm

theorem Distinct.mem_pairs {key : String} {id : Nat} :
    (key, id) ∈ x.pairs ↔ id ∈ x.ids key := by
  rw [pairs, List.mem_flatMap, ids]
  constructor
  · rintro ⟨⟨k, s⟩, hmem, hid⟩
    obtain ⟨i, hi, heq⟩ := List.mem_map.mp hid
    obtain ⟨rfl, rfl⟩ := Prod.mk.inj heq
    rw [hx.lookup_eq_some.mpr hmem]
    exact hi
  · intro h
    cases hlookup : x.keys.lookup key with
    | none =>
      rw [hlookup] at h
      exact absurd h List.not_mem_nil
    | some s =>
      rw [hlookup] at h
      exact ⟨(key, s), hx.lookup_eq_some.mp hlookup, List.mem_map_of_mem h⟩

/-- No pair stands twice if no number stands twice under a key. -/
theorem Distinct.nodup_pairs (hids : ∀ key, (x.ids key).Nodup) : x.pairs.Nodup := by
  rw [pairs, List.nodup_flatMap]
  constructor
  · rintro ⟨key, s⟩ hmem
    have hs : s.ids.Nodup := by
      have h := hids key
      rwa [ids, hx.lookup_eq_some.mpr hmem] at h
    exact hs.map fun i j heq => (Prod.mk.inj heq).2
  · refine (List.pairwise_map.mp hx).imp fun {p q} hne => ?_
    rintro ⟨key, id⟩ hp hq
    obtain ⟨_, _, heq⟩ := List.mem_map.mp hp
    obtain ⟨_, _, heq'⟩ := List.mem_map.mp hq
    exact hne ((Prod.mk.inj heq).1.trans (Prod.mk.inj heq').1.symm)

end Distinct

end Index

namespace Store

/-- The values of an attribute in lower case, as often as entries have them. -/
def foldedValues (s : Store) (a : Attribute) : List String :=
  s.entries.flatMap fun e => (e.renderedOf a).map lower

/-- The values of an attribute in lower case, each with the number of the entry that has it. -/
def foldedPairs (s : Store) (a : Attribute) : List (String × Nat) :=
  s.entries.zipIdx.flatMap fun p => (p.1.renderedOf a).map fun v => (lower v, p.2)

theorem mem_foldedValues {s : Store} {a : Attribute} {key : String} :
    key ∈ s.foldedValues a ↔ ∃ e ∈ s.entries, e.holds a key = true := by
  simp only [foldedValues, List.mem_flatMap, List.mem_map, Entry.holds_eq_true]

theorem mem_holders {s : Store} {a : Attribute} {key : String} {id : Nat} :
    id ∈ holders a key 0 s.entries ↔ ∃ e, s.entry? id = some e ∧ e.holds a key = true := by
  rw [holders, List.mem_map]
  constructor
  · rintro ⟨⟨e, i⟩, h, rfl⟩
    obtain ⟨hmem, hholds⟩ := List.mem_filter.mp h
    exact ⟨e, List.mk_mem_zipIdx_iff_getElem?.mp hmem, hholds⟩
  · rintro ⟨e, he, hholds⟩
    exact ⟨(e, id), List.mem_filter.mpr ⟨List.mk_mem_zipIdx_iff_getElem?.mpr he, hholds⟩, rfl⟩

theorem mem_foldedPairs {s : Store} {a : Attribute} {key : String} {id : Nat} :
    (key, id) ∈ s.foldedPairs a ↔ id ∈ holders a key 0 s.entries := by
  rw [mem_holders, foldedPairs, List.mem_flatMap]
  constructor
  · rintro ⟨⟨e, i⟩, hmem, hpair⟩
    obtain ⟨v, hv, heq⟩ := List.mem_map.mp hpair
    obtain ⟨rfl, rfl⟩ := Prod.mk.inj heq
    exact ⟨e, List.mk_mem_zipIdx_iff_getElem?.mp hmem, Entry.holds_eq_true.mpr ⟨v, hv, rfl⟩⟩
  · rintro ⟨e, he, hholds⟩
    obtain ⟨v, hv, rfl⟩ := Entry.holds_eq_true.mp hholds
    exact ⟨(e, id), List.mk_mem_zipIdx_iff_getElem?.mpr he, List.mem_map_of_mem hv⟩

theorem holders_eq_nil {s : Store} {a : Attribute} {key : String} :
    holders a key 0 s.entries = [] ↔ ∀ e ∈ s.entries, e.holds a key = false := by
  rw [List.eq_nil_iff_forall_not_mem]
  constructor
  · intro h e he
    obtain ⟨id, hid⟩ := List.mem_iff_getElem?.mp he
    exact Bool.eq_false_iff.mpr fun hholds => h id (mem_holders.mpr ⟨e, hid, hholds⟩)
  · intro h id hid
    obtain ⟨e, he, hholds⟩ := mem_holders.mp hid
    rw [h e (List.mem_of_getElem? he)] at hholds
    exact absurd hholds (by simp)

/-- Entries are met in ascending order, each of them once. -/
theorem holders_ascending (a : Attribute) (key : String) (id : Nat) (entries : List Entry) :
    (holders a key id entries).Pairwise (· < ·) := by
  refine List.Pairwise.sublist ((List.filter_sublist).map _) ?_
  rw [List.zipIdx_map_snd]
  exact List.pairwise_lt_range'

theorem length_holders (a : Attribute) (key : String) :
    ∀ (id : Nat) (entries : List Entry),
      (holders a key id entries).length = entries.countP (·.holds a key)
  | _, [] => rfl
  | id, e :: rest => by
    rw [holders_cons, List.length_append, length_holders, List.countP_cons, Nat.add_comm]
    split <;> rfl

namespace Builder

theorem distinct_indexFrom {a : Attribute} :
    ∀ {entries : List Entry} {x : Index} {id : Nat}, x.Distinct →
      (indexFrom a x id entries).Distinct
  | [], _, _, h => h
  | e :: rest, x, id, h => by
    rw [indexFrom]
    refine distinct_indexFrom ?_
    induction e.renderedOf a generalizing x with
    | nil => exact h
    | cons v values ih => exact ih (x := x.insert v id) (h.insert v id)

end Builder

section Counts

variable {s : Store} {a : Attribute} {x : Index} (hx : x.Distinct)
  (hids : ∀ key, x.ids key = holders a key 0 s.entries)
include hx hids

theorem keyCount_eq (hinhabited : x.Inhabited) :
    x.keyCount = (s.foldedValues a).toFinset.card := by
  have hkeys : (x.keys.map (·.1)).toFinset = (s.foldedValues a).toFinset := by
    ext key
    rw [List.mem_toFinset, List.mem_toFinset, mem_foldedValues, List.mem_map]
    constructor
    · rintro ⟨⟨k, ids⟩, hmem, rfl⟩
      have hlookup := hx.lookup_eq_some.mpr hmem
      -- no key stands over an empty set, so an entry holds it
      obtain ⟨id, hid⟩ := List.exists_mem_of_ne_nil _ (hinhabited k ids hlookup)
      have hholder : id ∈ holders a k 0 s.entries := by
        rw [← hids, Index.ids, hlookup]
        exact hid
      obtain ⟨e, he, hholds⟩ := mem_holders.mp hholder
      exact ⟨e, List.mem_of_getElem? he, hholds⟩
    · rintro ⟨e, he, hholds⟩
      obtain ⟨id, hid⟩ := List.mem_iff_getElem?.mp he
      have hmem := mem_holders.mpr ⟨e, hid, hholds⟩
      rw [← hids, ← hx.mem_pairs, Index.pairs, List.mem_flatMap] at hmem
      obtain ⟨p, hp, hpair⟩ := hmem
      obtain ⟨_, _, heq⟩ := List.mem_map.mp hpair
      exact ⟨p, hp, (Prod.mk.inj heq).1⟩
  rw [← hkeys, List.toFinset_card_of_nodup hx, List.length_map]
  rfl

theorem entryCount_eq : x.entryCount = (s.foldedPairs a).toFinset.card := by
  have hnodup : x.pairs.Nodup := hx.nodup_pairs fun key => by
    rw [hids]
    exact (holders_ascending a key 0 s.entries).imp Nat.ne_of_lt
  have hpairs : x.pairs.toFinset = (s.foldedPairs a).toFinset := by
    ext ⟨key, id⟩
    rw [List.mem_toFinset, List.mem_toFinset, hx.mem_pairs, mem_foldedPairs, hids]
  rw [← hpairs, List.toFinset_card_of_nodup hnodup, Index.entryCount_eq]

end Counts

namespace Builder

/-- **Indexes.** However a store came about, it has an index of an attribute exactly if the
attribute was flagged when the store was finished, whatever becomes of the registry later. A look-up
finds the entries, in ascending order, that have the value in some letter case, and the counts are
those of distinct values and of distinct pairs of a value and an entry. -/
theorem index_of_build {b : Builder} {s : Store} (hb : b.build = .ok s) (r : Registry)
    (a : Attribute) :
    ((b.registry.flagsOf a).indexed = false → index? { s with registry := r } a = none) ∧
      ((b.registry.flagsOf a).indexed = true → ∃ x, index? { s with registry := r } a = some x ∧
        (∀ v, x.find? v = none ↔ ∀ e ∈ s.entries, ∀ w ∈ e.renderedOf a, lower w ≠ lower v) ∧
        (∀ v ids, x.find? v = some ids → ids.ids.Pairwise (· < ·) ∧
          ∀ id, id ∈ ids.ids ↔
            ∃ e, s.entry? id = some e ∧ ∃ w ∈ e.renderedOf a, lower w = lower v) ∧
        (∀ v, x.cardinality v =
          s.entries.countP fun e => (e.renderedOf a).any (lower · == lower v)) ∧
        x.keyCount = (s.foldedValues a).toFinset.card ∧
        x.entryCount = (s.foldedPairs a).toFinset.card) := by
  obtain ⟨hentries, -, -, hindex⟩ := build_eq_ok hb
  rw [show index? { s with registry := r } a = s.index? a from rfl, hindex]
  constructor
  · intro hflag
    rw [if_neg fun hmem => absurd (Registry.mem_indexed.mp hmem) (by simp [hflag])]
  · intro hflag
    rw [if_pos (Registry.mem_indexed.mpr hflag)]
    refine ⟨_, rfl, ?_⟩
    have hsome : s.index? a = some (indexFrom a {} 0 b.entries) := by
      rw [hindex, if_pos (Registry.mem_indexed.mpr hflag)]
    obtain ⟨hinhabited, hids⟩ := indexed_of_build hb hsome
    have hdistinct : (indexFrom a {} 0 b.entries).Distinct := distinct_indexFrom List.nodup_nil
    generalize indexFrom a {} 0 b.entries = x at hinhabited hids hdistinct
    refine ⟨fun v => ?_, fun v ids hfind => ?_, fun v => ?_,
      keyCount_eq hdistinct hids hinhabited, entryCount_eq hdistinct hids⟩
    · rw [Index.find?_eq_none_iff hinhabited, hids, holders_eq_nil]
      simp only [Bool.eq_false_iff, ne_eq, Entry.holds_eq_true, not_exists, not_and]
    · have hmembers : ids.ids = holders a (lower v) 0 s.entries := by
        rw [← hids, Index.ids, show x.keys.lookup (lower v) = some ids from hfind]
        rfl
      rw [hmembers]
      refine ⟨holders_ascending _ _ _ _, fun id => ?_⟩
      simp only [mem_holders, Entry.holds_eq_true]
    · rw [Index.cardinality_eq, hids, length_holders]
      rfl

theorem index_of_build_namesakes :
    ∃ s, namesakes.build = .ok s ∧ (namesakes.registry.flagsOf ⟨0⟩).indexed = true ∧
      ∃ x, s.index? ⟨0⟩ = some x ∧ x.find? "eVE" = some ⟨[0, 1]⟩ ∧ x.keyCount = 2 ∧
        x.entryCount = 3 := by
  have hb : namesakes.build = .ok _ := rfl
  have hflag : (namesakes.registry.flagsOf ⟨0⟩).indexed = true := by decide +kernel
  obtain ⟨x, hx, -, -, -, hkeys, hentries⟩ := (index_of_build hb .empty ⟨0⟩).2 hflag
  refine ⟨_, hb, hflag, x, hx, ?_, hkeys.trans ?_, hentries.trans ?_⟩
  · obtain rfl := Option.some.inj hx
    decide +kernel
  · decide +kernel
  · decide +kernel

end Builder

end Store

end Directory
