import Directory.Attribute
import Directory.Proofs.Text.Lower

/-!
# Registries know their attributes by name

- `Registry.Reachable`: the registries that come about. No two of their names differ in letter case
  only (`Registry.Reachable.nodup_keys`).
- `Registry.Recalls`: the canonical name of an attribute leads back to it.
- `Registry.Remembers`: every name that was known is still known as the same attribute.
- `Registry.Extends`: names were added to a registry, and nothing else changed.
-/

namespace Directory.Registry

open Text (lower)
open Tables (find? size nameOf flagsOf indexed keys length_keys)

/-- Answers with the same tables are the same. -/
theorem answer_ext {p p' : Attribute × Registry}
    (h : (p.1, p.2.toTables) = (p'.1, p'.2.toTables)) : p = p' := by
  obtain ⟨a, ⟨t, ht⟩⟩ := p
  obtain ⟨a', ⟨t', ht'⟩⟩ := p'
  cases h
  rfl

theorem find?_eq_keys (r : Registry) (name : String) :
    r.find? name = (r.keys.idxOf? (lower name)).map Attribute.mk := by
  rw [find?, r.agree]

theorem find?_eq_some_iff {r : Registry} {name : String} {a : Attribute} :
    r.find? name = some a ↔
      r.keys[a.id]? = some (lower name) ∧ ∀ i < a.id, r.keys[i]? ≠ some (lower name) := by
  rw [find?_eq_keys, Option.map_eq_some_iff]
  constructor
  · rintro ⟨i, hi, rfl⟩
    obtain ⟨hlt, hkey, hbefore⟩ := List.idxOf?_eq_some_iff.mp hi
    refine ⟨List.getElem?_eq_some_iff.mpr ⟨hlt, hkey⟩, fun j hj hname => ?_⟩
    exact hbefore j hj (List.getElem?_eq_some_iff.mp hname).2
  · rintro ⟨hkey, hbefore⟩
    obtain ⟨hlt, hkey⟩ := List.getElem?_eq_some_iff.mp hkey
    refine ⟨a.id, List.idxOf?_eq_some_iff.mpr ⟨hlt, hkey, fun j hj hname => ?_⟩, rfl⟩
    exact hbefore j hj (List.getElem?_eq_some_iff.mpr ⟨Nat.lt_trans hj hlt, hname⟩)

theorem find?_eq_none_iff {r : Registry} {name : String} :
    r.find? name = none ↔ lower name ∉ r.keys := by
  rw [find?_eq_keys, Option.map_eq_none_iff, List.idxOf?_eq_none_iff]

theorem lower_nameOf {t : Tables} {a : Attribute} {key : String} (h : t.keys[a.id]? = some key) :
    lower (t.nameOf a) = key := by
  rw [keys, List.getElem?_map, Option.map_eq_some_iff] at h
  obtain ⟨e, he, rfl⟩ := h
  rw [nameOf, he]

/-! ## Registering -/

theorem flags_union_none (f : Attribute.Flags) : f ∪ ({} : Attribute.Flags) = f := by
  show Attribute.Flags.mk (f.indexed || false) (f.mergeable || false) = f
  rw [Bool.or_false, Bool.or_false]

theorem flags_union_assoc (f g h : Attribute.Flags) : f ∪ g ∪ h = f ∪ (g ∪ h) := by
  show Attribute.Flags.mk (f.indexed || g.indexed || h.indexed)
    (f.mergeable || g.mergeable || h.mergeable) = _
  rw [Bool.or_assoc, Bool.or_assoc]
  rfl

namespace Tables

variable {t : Tables} {name : String}

theorem register_of_known {a : Attribute} (h : t.find? name = some a) (flags : Attribute.Flags) :
    t.register name flags = (a, t.addFlags a flags) := by
  rw [register, h]

theorem register_of_new (h : t.find? name = none) (flags : Attribute.Flags) :
    t.register name flags =
      (⟨t.size⟩, ⟨t.registrations ++ [⟨name, flags⟩], (lower name, t.size) :: t.byName⟩) := by
  rw [register, h]

theorem intern_of_known {a : Attribute} (h : t.find? name = some a) : t.intern name = (a, t) := by
  rw [intern, h]

theorem addFlags_none (t : Tables) (a : Attribute) : t.addFlags a {} = t := by
  simp only [addFlags, flags_union_none]
  exact congrArg (Tables.mk · t.byName) (List.modify_id _ _)

/-- To intern a name is to register it without flags. -/
theorem intern_eq_register (t : Tables) (name : String) : t.intern name = t.register name {} := by
  cases h : t.find? name with
  | some a => rw [intern_of_known h, register_of_known h, addFlags_none]
  | none => rw [intern, h]

end Tables

theorem intern_eq_register (r : Registry) (name : String) : r.intern name = r.register name {} :=
  answer_ext (r.toTables.intern_eq_register name)

/-! ## Names in different letter case -/

/-- The registries that come about by naming attributes. -/
inductive Reachable : Registry → Prop where
  | empty : Reachable empty
  | register {r : Registry} (name : String) (flags : Attribute.Flags) :
      Reachable r → Reachable (r.register name flags).2
  | intern {r : Registry} (name : String) : Reachable r → Reachable (r.intern name).2
  | markIndexed {r : Registry} (name : String) : Reachable r → Reachable (r.markIndexed name).2

theorem keys_register (r : Registry) (name : String) (flags : Attribute.Flags) :
    (r.register name flags).2.keys =
      if lower name ∈ r.keys then r.keys else r.keys ++ [lower name] := by
  show (r.toTables.register name flags).2.keys = _
  cases hname : r.find? name with
  | some a =>
    have hkey : lower name ∈ r.keys := List.mem_of_getElem? (find?_eq_some_iff.mp hname).1
    rw [if_pos hkey, Tables.register_of_known hname]
    exact r.keys_addFlags a flags
  | none =>
    rw [if_neg (find?_eq_none_iff.mp hname), Tables.register_of_new hname, keys, List.map_append]
    rfl

theorem nodup_keys_register {r : Registry} (h : r.keys.Nodup) (name : String)
    (flags : Attribute.Flags) : (r.register name flags).2.keys.Nodup := by
  rw [keys_register]
  split
  · exact h
  · rename_i hnew
    exact Numbering.nodup_concat h hnew

/-- No two names of a registry differ in letter case only. -/
theorem Reachable.nodup_keys {r : Registry} (h : r.Reachable) : r.keys.Nodup := by
  induction h with
  | empty => exact List.nodup_nil
  | register name flags _ ih => exact nodup_keys_register ih name flags
  | intern name _ ih =>
    rw [intern_eq_register]
    exact nodup_keys_register ih name {}
  | markIndexed name _ ih => exact nodup_keys_register ih name _

/-! ## Growth -/

/-- Whether a registry knows the names of another one, each as the same attribute, and perhaps
further names after them. Flags may differ. -/
def Remembers (r' r : Registry) : Prop :=
  r.keys <+: r'.keys

theorem Remembers.refl (r : Registry) : r.Remembers r :=
  List.prefix_refl _

theorem Remembers.trans {r r' r'' : Registry} (h' : r''.Remembers r') (h : r'.Remembers r) :
    r''.Remembers r :=
  List.IsPrefix.trans h h'

/-- A name that is known keeps its meaning. -/
theorem Remembers.find? {r r' : Registry} (h : r'.Remembers r) {name : String} {a : Attribute}
    (ha : r.find? name = some a) : r'.find? name = some a := by
  -- up to the attribute the search meets the same keys
  have hget : ∀ i ≤ a.id, r'.keys[i]? = r.keys[i]? := by
    intro i hi
    have hlt : i < r.keys.length :=
      Nat.lt_of_le_of_lt hi (List.getElem?_eq_some_iff.mp (find?_eq_some_iff.mp ha).1).1
    exact (List.prefix_iff_getElem?.mp h i hlt).trans (List.getElem?_eq_getElem hlt).symm
  rw [find?_eq_some_iff] at ha ⊢
  refine ⟨(hget a.id (Nat.le_refl _)).trans ha.1, fun i hi => ?_⟩
  rw [hget i (Nat.le_of_lt hi)]
  exact ha.2 i hi

/-- A name that is new stands after all that were known. -/
theorem Remembers.size_le_of_find? {r r' : Registry} (h : r'.Remembers r) {name : String}
    {a : Attribute} (hnone : r.find? name = none) (ha : r'.find? name = some a) :
    r.size ≤ a.id := by
  refine Nat.le_of_not_lt fun hlt => find?_eq_none_iff.mp hnone ?_
  rw [← length_keys] at hlt
  have hkey : r'.keys[a.id]? = some r.keys[a.id] := List.prefix_iff_getElem?.mp h a.id hlt
  rw [(find?_eq_some_iff.mp ha).1] at hkey
  rw [Option.some.inj hkey]
  exact List.getElem_mem hlt

theorem remembers_register (r : Registry) (name : String) (flags : Attribute.Flags) :
    (r.register name flags).2.Remembers r := by
  rw [Remembers, keys_register]
  split
  · exact List.prefix_refl _
  · exact List.prefix_append _ _

theorem remembers_intern (r : Registry) (name : String) : (r.intern name).2.Remembers r := by
  rw [intern_eq_register]
  exact remembers_register r name {}

theorem Remembers.size_le {r r' : Registry} (h : r'.Remembers r) : r.size ≤ r'.size := by
  rw [← length_keys, ← length_keys]
  exact List.IsPrefix.length_le h

/-- Whether a registry has the names of another one, and perhaps further ones after them. -/
def Extends (r' r : Registry) : Prop :=
  r.registrations <+: r'.registrations

theorem Extends.refl (r : Registry) : r.Extends r :=
  List.prefix_refl _

theorem Extends.trans {r r' r'' : Registry} (h' : r''.Extends r') (h : r'.Extends r) :
    r''.Extends r :=
  List.IsPrefix.trans h h'

theorem Extends.remembers {r r' : Registry} (h : r'.Extends r) : r'.Remembers r :=
  List.IsPrefix.map _ h

theorem Extends.find? {r r' : Registry} (h : r'.Extends r) {name : String} {a : Attribute}
    (ha : r.find? name = some a) : r'.find? name = some a :=
  h.remembers.find? ha

/-- What is known of an attribute stays as it is. -/
theorem Extends.kept {r r' : Registry} (h : r'.Extends r) {a : Attribute} (ha : a.id < r.size) :
    r'.nameOf a = r.nameOf a ∧ r'.flagsOf a = r.flagsOf a := by
  have hget : r'.registrations[a.id]? = r.registrations[a.id]? :=
    (List.prefix_iff_getElem?.mp h a.id ha).trans (List.getElem?_eq_getElem ha).symm
  rw [nameOf, nameOf, flagsOf, flagsOf, hget]
  exact ⟨rfl, rfl⟩

theorem extends_intern (r : Registry) (name : String) : (r.intern name).2.Extends r := by
  show r.registrations <+: (r.toTables.intern name).2.registrations
  cases hname : r.find? name with
  | some a => exact ⟨[], by rw [Tables.intern_of_known hname, List.append_nil]⟩
  | none =>
    rw [Tables.intern_eq_register, Tables.register_of_new hname]
    exact List.prefix_append _ _

/-- A name that was registered means the attribute it was given. -/
theorem find?_register (r : Registry) (name : String) (flags : Attribute.Flags) :
    (r.register name flags).2.find? name = some (r.register name flags).1 := by
  have hkeys := keys_register r name flags
  cases hname : r.find? name with
  | some a =>
    have ha : (r.register name flags).1 = a :=
      congrArg Prod.fst (Tables.register_of_known hname flags)
    rw [if_pos (List.mem_of_getElem? (find?_eq_some_iff.mp hname).1)] at hkeys
    rw [find?_eq_keys, hkeys, ← find?_eq_keys, hname, ha]
  | none =>
    -- a new name stands after all others, and is spelt like none of them
    have ha : (r.register name flags).1 = ⟨r.size⟩ :=
      congrArg Prod.fst (Tables.register_of_new hname flags)
    have hnew := find?_eq_none_iff.mp hname
    rw [if_neg hnew] at hkeys
    rw [find?_eq_some_iff, hkeys, ha, ← length_keys]
    refine ⟨List.getElem?_concat_length, fun i hi hi' => ?_⟩
    rw [List.getElem?_append_left hi] at hi'
    exact hnew (List.mem_of_getElem? hi')

/-- A name that was interned means the attribute it was given. -/
theorem find?_intern (r : Registry) (name : String) :
    (r.intern name).2.find? name = some (r.intern name).1 := by
  rw [intern_eq_register]
  exact find?_register r name {}

/-- Two names mean one attribute exactly if they differ in letter case only. -/
theorem find?_eq_some_iff_lower {r : Registry} {a : Attribute} {name other : String}
    (h : r.find? other = some a) : r.find? name = some a ↔ lower other = lower name := by
  constructor
  · intro hname
    have hkey := (find?_eq_some_iff.mp h).1
    rw [(find?_eq_some_iff.mp hname).1] at hkey
    exact (Option.some.inj hkey).symm
  · intro hlower
    rw [find?_eq_keys, ← hlower, ← find?_eq_keys]
    exact h

theorem lt_size_of_find? {r : Registry} {name : String} {a : Attribute}
    (h : r.find? name = some a) : a.id < r.size := by
  rw [← length_keys]
  exact (List.getElem?_eq_some_iff.mp (find?_eq_some_iff.mp h).1).1

/-! ## Canonical names -/

/-- Whether the canonical name of an attribute leads back to it. -/
def Recalls (r : Registry) (a : Attribute) : Prop :=
  r.find? (r.nameOf a) = some a

theorem Recalls.intern {r : Registry} {a : Attribute} (h : r.Recalls a) :
    r.intern (r.nameOf a) = (a, r) :=
  answer_ext (Tables.intern_of_known h)

/-- An attribute that was found by some name is recalled by its own. -/
theorem recalls_of_find? {r : Registry} {a : Attribute} {name : String}
    (h : r.find? name = some a) : r.Recalls a ∧ lower (r.nameOf a) = lower name := by
  have hname := lower_nameOf (find?_eq_some_iff.mp h).1
  refine ⟨?_, hname⟩
  rw [Recalls, find?_eq_some_iff, hname]
  exact find?_eq_some_iff.mp h

theorem recalls_of_nodup {r : Registry} (h : r.keys.Nodup) {a : Attribute} (ha : a.id < r.size) :
    r.Recalls a := by
  rw [← length_keys] at ha
  have hkey : r.keys[a.id]? = some (lower (r.nameOf a)) := by
    rw [lower_nameOf (List.getElem?_eq_getElem ha)]
    exact List.getElem?_eq_getElem ha
  refine find?_eq_some_iff.mpr ⟨hkey, fun i hi hname => ?_⟩
  -- an earlier attribute under this key would have the same name up to letter case
  obtain ⟨hlt, hname⟩ := List.getElem?_eq_some_iff.mp hname
  have hsame : r.keys[i] = r.keys[a.id] := by
    rw [hname, lower_nameOf (List.getElem?_eq_getElem ha)]
  exact List.pairwise_iff_getElem.mp h i a.id hlt ha hi hsame

theorem Reachable.recalls {r : Registry} (h : r.Reachable) {a : Attribute} (ha : a.id < r.size) :
    r.Recalls a :=
  recalls_of_nodup h.nodup_keys ha

/-! ## Flags -/

theorem flagsOf_of_getElem? {t : Tables} {a : Attribute} {e : Registration}
    (h : t.registrations[a.id]? = some e) : t.flagsOf a = e.flags := by
  rw [flagsOf, h]

/-- A number without a name has no flags. -/
theorem flagsOf_of_size_le {t : Tables} {a : Attribute} (h : t.size ≤ a.id) :
    t.flagsOf a = {} := by
  rw [flagsOf, List.getElem?_eq_none h]

/-- The indexed attributes are those with the flag. -/
theorem mem_indexed {t : Tables} {a : Attribute} :
    a ∈ t.indexed ↔ (t.flagsOf a).indexed = true := by
  rw [indexed, List.mem_filter, and_iff_right_iff_imp]
  intro h
  have hlt : a.id < t.size := by
    refine Nat.lt_of_not_le fun hle => ?_
    rw [flagsOf_of_size_le hle] at h
    exact absurd h (by simp)
  exact List.mem_map.mpr ⟨a.id, List.mem_range.mpr hlt, rfl⟩

end Directory.Registry
