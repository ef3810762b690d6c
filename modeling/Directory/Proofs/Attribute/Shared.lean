import Directory.Proofs.Attribute
import Mathlib.Data.Finset.Card
import Mathlib.Logic.Relation

/-!
# A registry that several callers share

Every call finds or makes an entry of the tables and answers its attribute. To intern a name takes
a caller two steps if the name is new: the name is looked for in vain, and later it is registered.
Other callers may do anything in between, the same included. Nothing is assumed of the tables; that
they agree is kept from call to call.

- `Registry.Call`, `Call.perform`: the calls, and their answers.
- `Registry.Shared`, `Shared.Step`: tables in use, and the steps that callers take.
- `Registry.Tables.Reflects`: what tables say of attributes, told from the calls that were answered.
- `Registry.Tables.Keeps`: what stays as it was.
- `Registry.Tables.Accounts`: the invariant, with the agreement of both tables.
- `Registry.Shared.run_reflects`: whatever steps are taken, the tables reflect the calls that were
  answered, and keep what they said.
-/

namespace Directory.Registry

open Text (lower)
open Relation (ReflTransGen)
open Tables (size nameOf flagsOf keys length_keys register_of_known register_of_new)

/-! ## Calls -/

/-- A call for the attribute of a name. -/
inductive Call where
  /-- Adds flags. -/
  | register (name : String) (flags : Attribute.Flags)
  /-- Adds no flags. -/
  | intern (name : String)
  /-- Adds the flag of indexed attributes. -/
  | markIndexed (name : String)
deriving DecidableEq

namespace Call

/-- The name, as the call spells it. -/
def name : Call → String
  | register name _ | intern name | markIndexed name => name

/-- The flags that the call adds. -/
def flags : Call → Attribute.Flags
  | register _ flags => flags
  | intern _ => {}
  | markIndexed _ => { indexed := true }

/-- The answer to a call, and the tables after it. -/
def perform (t : Tables) : Call → Attribute × Tables
  | register name flags => t.register name flags
  | intern name => t.intern name
  | markIndexed name => t.markIndexed name

/-- All calls do the same. -/
theorem perform_eq (t : Tables) (c : Call) : c.perform t = t.register c.name c.flags := by
  cases c with
  | register | markIndexed => rfl
  | intern name => exact t.intern_eq_register name

end Call

/-- The flags that calls add to an attribute. -/
def flagsIn (log : List (Call × Attribute)) (a : Attribute) : Attribute.Flags :=
  (log.filter (·.2 == a)).foldl (fun flags p => flags ∪ p.1.flags) {}

/-- The first call that an attribute was the answer to. -/
def firstFor? (log : List (Call × Attribute)) (a : Attribute) : Option (Call × Attribute) :=
  log.find? (·.2 == a)

/-- What tables say of attributes after calls were answered. Each call of the log stands with its
answer. -/
structure Tables.Reflects (t : Tables) (log : List (Call × Attribute)) : Prop where
  /-- Attributes are numbered from zero on, and each was the answer to a call. -/
  numbered : ∀ a : Attribute, a.id < t.size ↔ ∃ c, (c, a) ∈ log
  /-- Of the names, folded, each leads to its attribute, and nothing else leads anywhere. -/
  lookup_eq_some : ∀ (key : String) (i : Nat),
    t.byName.lookup key = some i ↔ i < t.size ∧ lower (t.nameOf ⟨i⟩) = key
  /-- A name means the attribute whose name it is in some letter case. -/
  find?_eq_some : ∀ (name : String) (a : Attribute),
    t.find? name = some a ↔ a.id < t.size ∧ lower name = lower (t.nameOf a)
  /-- The name of an attribute means that attribute. -/
  recalls : ∀ a : Attribute, a.id < t.size → t.find? (t.nameOf a) = some a
  /-- No two attributes have names that differ in letter case only. -/
  distinct : ∀ a b : Attribute, a.id < t.size → b.id < t.size →
    lower (t.nameOf a) = lower (t.nameOf b) → a = b
  /-- Each call was answered with the attribute that its name means. -/
  answered : ∀ {c : Call} {a : Attribute}, (c, a) ∈ log → t.find? c.name = some a
  /-- Calls have the same answer exactly if their names differ in letter case only. -/
  agreed : ∀ {c d : Call} {a b : Attribute}, (c, a) ∈ log → (d, b) ∈ log →
    (a = b ↔ lower c.name = lower d.name)
  /-- There are as many attributes as names in calls that differ in more than letter case. -/
  size_eq : t.size = (log.map fun p => lower p.1.name).toFinset.card
  /-- An attribute is spelt as in the first call that it was the answer to. -/
  nameOf_eq : ∀ {a : Attribute} {p : Call × Attribute}, firstFor? log a = some p →
    t.nameOf a = p.1.name
  /-- An attribute has the flags that were added to it, and no others. -/
  flagsOf_eq : ∀ a : Attribute, t.flagsOf a = flagsIn log a
  /-- The indexed attributes are listed in ascending order. -/
  ascending : t.indexed.Pairwise (·.id < ·.id)
  /-- They are those with the flag. -/
  mem_indexed : ∀ a : Attribute, a ∈ t.indexed ↔ (t.flagsOf a).indexed = true

/-- Whether what tables say of attributes is still said by later ones. -/
structure Tables.Keeps (t t' : Tables) : Prop where
  /-- No attribute is lost. -/
  size_le : t.size ≤ t'.size
  /-- A name means the same attribute. -/
  find?_eq : ∀ {name : String} {a : Attribute}, t.find? name = some a → t'.find? name = some a
  /-- Attributes are spelt as before. -/
  nameOf_eq : ∀ {a : Attribute}, a.id < t.size → t'.nameOf a = t.nameOf a
  /-- Flags are added only. -/
  flagsOf_eq : ∀ a : Attribute, ∃ more, t'.flagsOf a = t.flagsOf a ∪ more

/-! ## Steps of several callers -/

/-- Tables in use. -/
structure Shared where
  /-- The tables. -/
  registry : Tables
  /-- The names that callers who want to intern them have looked for in vain so far. -/
  pending : List String := []
  /-- The calls that were answered, in order, each with its answer. -/
  log : List (Call × Attribute) := []

namespace Shared

/-- Tables in use after a call that nothing interrupts. -/
def call (s : Shared) (c : Call) : Shared :=
  { s with
    registry := (c.perform s.registry).2
    log := s.log ++ [(c, (c.perform s.registry).1)] }

/-- Tables in use after names were registered one after the other. -/
def calls (s : Shared) (names : List (String × Attribute.Flags)) : Shared :=
  names.foldl (fun s p => s.call (.register p.1 p.2)) s

/-- The tables without names, before any call. -/
def empty : Shared where
  registry := .empty

/-- The tables that know the common directory attributes, after their names were registered. -/
def standard : Shared where
  registry := Registry.standard.toTables
  log := (empty.calls standardNames).log

/-- What one of several callers does next. -/
inductive Step : Shared → Shared → Prop where
  /-- A call that nothing interrupts. -/
  | call {s : Shared} (c : Call) : Step s (s.call c)
  /-- Someone looks for a name in vain, to intern it. -/
  | look {s : Shared} {name : String} : s.registry.find? name = none →
      Step s { s with pending := s.pending ++ [name] }
  /-- Someone who looked for a name in vain registers it, whatever was done in between. -/
  | settle {s : Shared} {before after : List String} {name : String} :
      s.pending = before ++ name :: after →
        Step s {
          registry := (s.registry.register name {}).2
          pending := before ++ after
          log := s.log ++ [(.intern name, (s.registry.register name {}).1)] }

end Shared

/-! ## What a registration does -/

namespace Tables

variable {t : Tables}

theorem size_addFlags (t : Tables) (a : Attribute) (flags : Attribute.Flags) :
    (t.addFlags a flags).size = t.size :=
  List.length_modify _ _ _

theorem nameOf_addFlags (t : Tables) (a b : Attribute) (flags : Attribute.Flags) :
    (t.addFlags b flags).nameOf a = t.nameOf a := by
  rw [addFlags, nameOf, nameOf, List.getElem?_modify]
  cases t.registrations[a.id]? with
  | none => rfl
  | some e => by_cases hb : b.id = a.id <;> simp [hb]

theorem flagsOf_addFlags {b : Attribute} (hb : b.id < t.size) (a : Attribute)
    (flags : Attribute.Flags) :
    (t.addFlags b flags).flagsOf a = if b = a then t.flagsOf a ∪ flags else t.flagsOf a := by
  rw [addFlags, flagsOf, flagsOf, List.getElem?_modify]
  by_cases hab : b = a
  · subst hab
    have hlt : b.id < t.registrations.length := hb
    simp [List.getElem?_eq_getElem hlt]
  · have hid : b.id ≠ a.id := fun heq => hab (congrArg Attribute.mk heq)
    simp [hab, hid]

theorem nameOf_register (name : String) (flags : Attribute.Flags) {a : Attribute}
    (ha : a.id < t.size) : (t.register name flags).2.nameOf a = t.nameOf a := by
  cases hname : t.find? name with
  | some b =>
    rw [register_of_known hname]
    exact t.nameOf_addFlags a b flags
  | none =>
    rw [register_of_new hname, nameOf, nameOf, List.getElem?_append_left ha]

theorem nameOf_register_of_new {name : String} (h : t.find? name = none)
    (flags : Attribute.Flags) :
    (t.register name flags).2.nameOf (t.register name flags).1 = name := by
  rw [register_of_new h, nameOf, size, List.getElem?_concat_length]

/-- Only the attribute of the name gains flags. -/
theorem Agree.flagsOf_register (h : t.Agree) (name : String) (flags : Attribute.Flags)
    (a : Attribute) : (t.register name flags).2.flagsOf a =
      if (t.register name flags).1 = a then t.flagsOf a ∪ flags else t.flagsOf a := by
  cases hname : t.find? name with
  | some b =>
    rw [register_of_known hname]
    exact flagsOf_addFlags (lt_size_of_find? (r := ⟨t, h⟩) hname) a flags
  | none =>
    rw [register_of_new hname]
    rcases Nat.lt_trichotomy a.id t.size with hlt | heq | hgt
    · have hne : Attribute.mk t.size ≠ a := fun h => Nat.lt_irrefl _ (h ▸ hlt)
      rw [if_neg hne, flagsOf, flagsOf, List.getElem?_append_left hlt]
    · obtain rfl : Attribute.mk t.size = a := congrArg Attribute.mk heq.symm
      rw [if_pos rfl, flagsOf_of_size_le (Nat.le_of_eq heq.symm)]
      exact flagsOf_of_getElem? (t := ⟨_, _⟩) List.getElem?_concat_length
    · have hne : Attribute.mk t.size ≠ a := fun h => Nat.lt_irrefl _ (h ▸ hgt)
      rw [if_neg hne, flagsOf_of_size_le (Nat.le_of_lt hgt), flagsOf_of_size_le]
      rw [size, List.length_append]
      exact hgt

/-- A registration keeps what was said before. -/
theorem Agree.keeps_register (h : t.Agree) (name : String) (flags : Attribute.Flags) :
    t.Keeps (t.register name flags).2 where
  size_le := (remembers_register ⟨t, h⟩ name flags).size_le
  find?_eq := (remembers_register ⟨t, h⟩ name flags).find?
  nameOf_eq := nameOf_register name flags
  flagsOf_eq a := by
    rw [h.flagsOf_register]
    split
    · exact ⟨flags, rfl⟩
    · exact ⟨{}, (flags_union_none _).symm⟩

end Tables

/-! ## Registries reflect the calls -/

theorem mem_of_firstFor? {log : List (Call × Attribute)} {a : Attribute} {p : Call × Attribute}
    (h : firstFor? log a = some p) : p ∈ log ∧ p.2 = a :=
  ⟨List.mem_of_find?_eq_some h, by simpa using List.find?_some h⟩

theorem flagsIn_append (log : List (Call × Attribute)) (p : Call × Attribute) (a : Attribute) :
    flagsIn (log ++ [p]) a = if p.2 = a then flagsIn log a ∪ p.1.flags else flagsIn log a := by
  rw [flagsIn, List.filter_append, List.foldl_append, ← flagsIn]
  by_cases h : p.2 = a <;> simp [h]

/-- What is known of tables from the calls that were answered. All else follows from it. -/
structure Tables.Accounts (t : Tables) (log : List (Call × Attribute)) : Prop where
  /-- Names lead to the attributes that are called so. -/
  agree : t.Agree
  /-- No two names differ in letter case only. -/
  nodup : t.keys.Nodup
  /-- Answers are still right. -/
  answered : ∀ {c : Call} {a : Attribute}, (c, a) ∈ log → t.find? c.name = some a
  /-- Attributes are spelt as in the first call that they were the answer to. -/
  spelt : ∀ {a : Attribute}, a.id < t.size →
    ∃ p, firstFor? log a = some p ∧ t.nameOf a = p.1.name
  /-- Attributes have the flags that were added to them. -/
  flags : ∀ a : Attribute, t.flagsOf a = flagsIn log a

namespace Tables.Accounts

variable {t : Tables} {log : List (Call × Attribute)}

/-- The tables as a registry. -/
def registry (h : t.Accounts log) : Registry :=
  ⟨t, h.agree⟩

theorem empty : Accounts .empty [] where
  agree := agree_empty
  nodup := List.nodup_nil
  answered := nofun
  spelt := nofun
  flags _ := rfl

/-- What a call leads to accounts for that call too. -/
theorem register (h : t.Accounts log) (c : Call) :
    (t.register c.name c.flags).2.Accounts (log ++ [(c, (t.register c.name c.flags).1)]) where
  agree := h.agree.register c.name c.flags
  nodup := nodup_keys_register (r := h.registry) h.nodup c.name c.flags
  answered {d a} hd := by
    rcases List.mem_append.mp hd with hd | hd
    · exact (remembers_register h.registry c.name c.flags).find? (h.answered hd)
    · obtain ⟨rfl, rfl⟩ := Prod.mk.inj (List.mem_singleton.mp hd)
      exact find?_register h.registry d.name d.flags
  spelt {a} ha := by
    by_cases hlt : a.id < t.size
    · obtain ⟨p, hp, hname⟩ := h.spelt hlt
      refine ⟨p, ?_, (nameOf_register c.name c.flags hlt).trans hname⟩
      rw [firstFor?, List.find?_append, ← firstFor?, hp]
      rfl
    · -- the attribute is new, so no call before was answered with it
      have hnew : firstFor? log a = none := by
        refine List.find?_eq_none.mpr fun p hp heq => hlt ?_
        rw [← eq_of_beq heq]
        exact lt_size_of_find? (r := h.registry) (h.answered hp)
      cases hname : t.find? c.name with
      | some b =>
        rw [register_of_known hname, size_addFlags] at ha
        exact absurd ha hlt
      | none =>
        have ha' : (t.register c.name c.flags).1 = a := by
          rw [register_of_new hname] at ha ⊢
          rw [size, List.length_append] at ha
          exact congrArg Attribute.mk (Nat.le_antisymm (Nat.le_of_not_lt hlt) (Nat.le_of_lt_succ ha))
        refine ⟨(c, a), ?_, ?_⟩
        · rw [firstFor?, List.find?_append, ← firstFor?, hnew, ha']
          simp
        · rw [← ha']
          exact nameOf_register_of_new hname c.flags
  flags a := by
    rw [h.agree.flagsOf_register, flagsIn_append, h.flags]

theorem recalls (h : t.Accounts log) {a : Attribute} (ha : a.id < t.size) :
    t.find? (t.nameOf a) = some a :=
  recalls_of_nodup (r := h.registry) h.nodup ha

theorem find?_eq_some (h : t.Accounts log) (name : String) (a : Attribute) :
    t.find? name = some a ↔ a.id < t.size ∧ lower name = lower (t.nameOf a) := by
  constructor
  · intro ha
    exact ⟨lt_size_of_find? (r := h.registry) ha, (recalls_of_find? (r := h.registry) ha).2.symm⟩
  · rintro ⟨ha, hlower⟩
    exact (find?_eq_some_iff_lower (r := h.registry) (h.recalls ha)).mpr hlower.symm

/-- Both tables say the same: the one leads from the folded names to the numbers, the other back. -/
theorem lookup_eq_some (h : t.Accounts log) (key : String) (i : Nat) :
    t.byName.lookup key = some i ↔ i < t.size ∧ lower (t.nameOf ⟨i⟩) = key := by
  rw [h.agree.lookup_eq_some_iff h.nodup]
  constructor
  · intro hi
    exact ⟨length_keys t ▸ (List.getElem?_eq_some_iff.mp hi).1, lower_nameOf (a := ⟨i⟩) hi⟩
  · rintro ⟨hlt, hkey⟩
    rw [← length_keys] at hlt
    rw [List.getElem?_eq_getElem hlt, ← hkey, lower_nameOf (List.getElem?_eq_getElem hlt)]

theorem reflects (h : t.Accounts log) : t.Reflects log where
  numbered a := by
    constructor
    · intro ha
      obtain ⟨p, hp, -⟩ := h.spelt ha
      obtain ⟨hmem, rfl⟩ := mem_of_firstFor? hp
      exact ⟨p.1, hmem⟩
    · rintro ⟨c, hc⟩
      exact ((h.find?_eq_some _ _).mp (h.answered hc)).1
  lookup_eq_some := h.lookup_eq_some
  find?_eq_some := h.find?_eq_some
  recalls _ ha := h.recalls ha
  distinct a b ha hb hlower := by
    have hfind := (h.find?_eq_some (t.nameOf b) a).mpr ⟨ha, hlower.symm⟩
    rw [h.recalls hb] at hfind
    exact (Option.some.inj hfind).symm
  answered := h.answered
  agreed {c d a b} hc hd := by
    rw [← find?_eq_some_iff_lower (r := h.registry) (h.answered hc)]
    show a = b ↔ t.find? d.name = some a
    rw [h.answered hd, Option.some.injEq, eq_comm]
  size_eq := by
    have hkeys : t.keys.toFinset = (log.map fun p => lower p.1.name).toFinset := by
      ext key
      rw [List.mem_toFinset, List.mem_toFinset, List.mem_map]
      constructor
      · intro hkey
        -- the attribute with this key was the answer to a call that spells it so
        obtain ⟨i, hi⟩ := List.mem_iff_getElem?.mp hkey
        have hlt : i < t.size := length_keys t ▸ (List.getElem?_eq_some_iff.mp hi).1
        obtain ⟨p, hp, hname⟩ := h.spelt (a := ⟨i⟩) hlt
        exact ⟨p, (mem_of_firstFor? hp).1, hname ▸ lower_nameOf (a := ⟨i⟩) hi⟩
      · rintro ⟨p, hp, rfl⟩
        exact List.mem_of_getElem? (find?_eq_some_iff (r := h.registry).mp (h.answered hp)).1
    rw [← hkeys, List.toFinset_card_of_nodup h.nodup, length_keys]
  nameOf_eq {a p} hp := by
    obtain ⟨hmem, rfl⟩ := mem_of_firstFor? hp
    obtain ⟨q, hq, hname⟩ := h.spelt ((h.find?_eq_some _ _).mp (h.answered hmem)).1
    rw [hname, Option.some.inj (hp.symm.trans hq)]
  flagsOf_eq := h.flags
  ascending := by
    refine List.Pairwise.filter _ (List.pairwise_map.mpr ?_)
    exact List.pairwise_lt_range
  mem_indexed _ := mem_indexed

end Tables.Accounts

/-! ## Runs -/

theorem Tables.Keeps.refl (t : Tables) : t.Keeps t where
  size_le := Nat.le_refl _
  find?_eq h := h
  nameOf_eq _ := rfl
  flagsOf_eq _ := ⟨{}, (flags_union_none _).symm⟩

theorem Tables.Keeps.trans {t t' t'' : Tables} (h : t.Keeps t') (h' : t'.Keeps t'') :
    t.Keeps t'' where
  size_le := Nat.le_trans h.size_le h'.size_le
  find?_eq ha := h'.find?_eq (h.find?_eq ha)
  nameOf_eq ha := (h'.nameOf_eq (Nat.lt_of_lt_of_le ha h.size_le)).trans (h.nameOf_eq ha)
  flagsOf_eq a := by
    obtain ⟨more, hmore⟩ := h.flagsOf_eq a
    obtain ⟨more', hmore'⟩ := h'.flagsOf_eq a
    exact ⟨more ∪ more', by rw [hmore', hmore, flags_union_assoc]⟩

namespace Shared

theorem registry_calls (names : List (String × Attribute.Flags)) (s : Shared) :
    (s.calls names).registry =
      names.foldl (fun t (name, flags) => (t.register name flags).2) s.registry := by
  induction names generalizing s with
  | nil => rfl
  | cons p names ih => exact ih (s.call (.register p.1 p.2))

theorem toTables_foldl_register (names : List (String × Attribute.Flags)) (r : Registry) :
    (names.foldl (fun r (name, flags) => (r.register name flags).2) r).toTables =
      names.foldl (fun t (name, flags) => (t.register name flags).2) r.toTables := by
  induction names generalizing r with
  | nil => rfl
  | cons p names ih => exact ih (r.register p.1 p.2).2

theorem accounts_call {s : Shared} (h : s.registry.Accounts s.log) (c : Call) :
    (s.call c).registry.Accounts (s.call c).log := by
  rw [call, c.perform_eq]
  exact h.register c

theorem accounts_calls {s : Shared} (h : s.registry.Accounts s.log)
    (names : List (String × Attribute.Flags)) :
    (s.calls names).registry.Accounts (s.calls names).log := by
  induction names generalizing s with
  | nil => exact h
  | cons p names ih => exact ih (accounts_call h (.register p.1 p.2))

/-- The tables that know the common attributes came about by registering their names. -/
theorem accounts_standard : standard.registry.Accounts standard.log := by
  have hregistry : (empty.calls standardNames).registry = standard.registry := by
    rw [registry_calls, standard, Registry.standard, toTables_foldl_register]
    rfl
  have hlog : (empty.calls standardNames).log = standard.log := by rw [standard]
  rw [← hregistry, ← hlog]
  exact accounts_calls .empty standardNames

/-- A step is a call, or leaves the registry and the answers as they are. -/
theorem Step.cases_call {s s' : Shared} (h : Step s s') :
    (s'.registry = s.registry ∧ s'.log = s.log) ∨
      ∃ c, s'.registry = (s.call c).registry ∧ s'.log = (s.call c).log := by
  cases h with
  | call c => exact .inr ⟨c, rfl, rfl⟩
  | look _ => exact .inl ⟨rfl, rfl⟩
  | @settle before after name _ =>
    -- to register looks for the name once more, so nothing is lost if it is not new any more
    refine .inr ⟨.intern name, ?_, ?_⟩
    · exact congrArg Prod.snd (s.registry.intern_eq_register name).symm
    · rw [Shared.call, Call.perform, Tables.intern_eq_register]

theorem Step.accounts {s s' : Shared} (h : Step s s') (hs : s.registry.Accounts s.log) :
    s'.registry.Accounts s'.log := by
  rcases h.cases_call with ⟨hregistry, hlog⟩ | ⟨c, hregistry, hlog⟩
  · rwa [hregistry, hlog]
  · rw [hregistry, hlog]
    exact accounts_call hs c

/-- Whatever steps are taken, the tables account for the calls that were answered. -/
theorem accounts_run {s s' : Shared} (h : ReflTransGen Step s s') (hs : s.registry.Accounts s.log) :
    s'.registry.Accounts s'.log := by
  induction h with
  | refl => exact hs
  | tail _ hstep ih => exact hstep.accounts ih

theorem Step.keeps {s s' : Shared} (h : Step s s') (hs : s.registry.Accounts s.log) :
    s.registry.Keeps s'.registry ∧ s.log <+: s'.log := by
  rcases h.cases_call with ⟨hregistry, hlog⟩ | ⟨c, hregistry, hlog⟩
  · rw [hregistry, hlog]
    exact ⟨.refl _, List.prefix_refl _⟩
  · rw [hregistry, hlog, Shared.call, c.perform_eq]
    exact ⟨hs.agree.keeps_register c.name c.flags, List.prefix_append _ _⟩

/-- **A registry reflects what it was asked.** Whatever calls several callers make, and however the
steps of those that intern names mix with other steps, the two tables say the same: there is one
attribute for each name up to letter case, spelt as in the first call for it and with the flags that
calls added. Each call is answered with the attribute of its name, and what was said of an attribute
is kept. -/
theorem run_reflects {s₀ s : Shared} (h₀ : s₀ = empty ∨ s₀ = standard)
    (h : ReflTransGen Step s₀ s) :
    s.registry.Reflects s.log ∧
      ∀ s', ReflTransGen Step s s' → s.registry.Keeps s'.registry ∧ s.log <+: s'.log := by
  have hstart : s₀.registry.Accounts s₀.log := by
    rcases h₀ with rfl | rfl
    · exact .empty
    · exact accounts_standard
  have hs := accounts_run h hstart
  refine ⟨hs.reflects, fun s' hrun => ?_⟩
  induction hrun with
  | refl => exact ⟨.refl _, List.prefix_refl _⟩
  | @tail s' s'' hrun hstep ih =>
    obtain ⟨hkeeps, hlog⟩ := hstep.keeps (accounts_run hrun hs)
    exact ⟨ih.1.trans hkeeps, ih.2.trans hlog⟩

/-- Two callers look for a name in vain. While they do nothing else a third one has the attribute
indexed; then both register the name. -/
theorem run_reflects_race : ∃ s, ReflTransGen Step empty s ∧ s.pending = [] ∧
    (.intern "Owner", ⟨0⟩) ∈ s.log ∧ (.intern "OWNER", ⟨0⟩) ∈ s.log ∧ s.registry.size = 1 ∧
    s.registry.nameOf ⟨0⟩ = "owner" ∧ s.registry.flagsOf ⟨0⟩ = { indexed := true } := by
  have hfirst : Step empty ⟨.empty, ["Owner"], []⟩ := .look rfl
  have hsecond : Step ⟨.empty, ["Owner"], []⟩ ⟨.empty, ["Owner", "OWNER"], []⟩ := .look rfl
  have hsettle : ["Owner", "OWNER"] = ["Owner"] ++ "OWNER" :: [] := rfl
  have hrun : ReflTransGen Step empty _ :=
    .tail (.tail (.tail (.head hfirst (.single hsecond)) (.call (.markIndexed "owner")))
      (.settle hsettle)) (.settle (List.nil_append _).symm)
  obtain ⟨hreflects, -⟩ := run_reflects (.inl rfl) hrun
  refine ⟨_, hrun, rfl, by decide +kernel, by decide +kernel, ?_, ?_, ?_⟩
  · rw [hreflects.size_eq]
    decide +kernel
  · exact hreflects.nameOf_eq (p := (.markIndexed "owner", ⟨0⟩)) (by decide +kernel)
  · rw [hreflects.flagsOf_eq]
    decide +kernel

end Shared

end Directory.Registry
