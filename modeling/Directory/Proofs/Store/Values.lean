import Directory.Proofs.Store.Edges
import Mathlib.Data.List.Basic

/-!
# Values by name

An entry keeps its values under numbers of attributes. What a draft gives under a name, in any
letter case, is found again under the attribute that a registry has for the name, whatever other
names the registry learns.

- `Registry.valuesUnder`: the values of the attribute that a registry knows by a name.
- `Draft.valuesUnder`: the values that an entry gets from a draft, said without a registry.
- `Entry.Stems`: whether an entry has the names, identifiers and values of a draft.
- `Store.Builder.stems_add`: an entry that is added does.
- `Store.Builder.stocked_run`: after any calls, the entries stem from the drafts that were added.
-/

namespace Directory

open Text (lower)

namespace Registry

/-- The values of the attribute that the registry knows by a name, none if the name is unknown. -/
def valuesUnder (r : Registry) (name : String) (values : List (Attribute × Value)) : List Value :=
  values.filterMap fun (a, v) => if r.find? name = some a then some v else none

section valuesUnder

variable {r r' : Registry} {name : String} {values : List (Attribute × Value)}

theorem valuesUnder_append (values values' : List (Attribute × Value)) :
    r.valuesUnder name (values ++ values') =
      r.valuesUnder name values ++ r.valuesUnder name values' :=
  List.filterMap_append

theorem valuesUnder_cons (a : Attribute) (v : Value) (values : List (Attribute × Value)) :
    r.valuesUnder name ((a, v) :: values) =
      if r.find? name = some a then v :: r.valuesUnder name values
      else r.valuesUnder name values := by
  rw [valuesUnder, List.filterMap_cons]
  dsimp only
  by_cases h : r.find? name = some a
  · rw [if_pos h, if_pos h]
    rfl
  · rw [if_neg h, if_neg h]
    rfl

theorem valuesUnder_eq_nil {a : Attribute} (h : r.find? name = some a) :
    r.valuesUnder name values = [] ↔ values.any (·.1 == a) = false := by
  rw [valuesUnder, List.filterMap_eq_nil_iff, List.any_eq_false, h]
  refine forall₂_congr fun p _ => ?_
  by_cases hp : a = p.1
  · simp [hp]
  · simp [hp, Ne.symm hp]

theorem valuesUnder_eq_valuesOf {a : Attribute} (h : r.find? name = some a) (e : Entry) :
    r.valuesUnder name e.values = e.valuesOf a := by
  rw [valuesUnder, Entry.valuesOf, h]
  refine List.filterMap_congr fun p _ => ?_
  simp only [Option.some.injEq, eq_comm]

/-- Names that are learnt later are those of attributes without values. -/
theorem Covers.valuesUnder (h : r.Covers values) (hr : r'.Remembers r) (name : String) :
    r'.valuesUnder name values = r.valuesUnder name values := by
  refine List.filterMap_congr fun p hp => ?_
  have hfind : r'.find? name = some p.1 ↔ r.find? name = some p.1 := by
    constructor
    · intro hlater
      cases hname : r.find? name with
      | none =>
        exact absurd (h p hp) (Nat.not_lt.mpr (hr.size_le_of_find? hname hlater))
      | some a => exact (hr.find? hname).symm.trans hlater
    · exact hr.find?
  simp only [hfind]

/-- An attribute that is interned later has the values that stood under its name. -/
theorem Covers.valuesOf_intern {e : Entry} (h : r.Covers e.values) (hr : r'.Remembers r)
    (name : String) : e.valuesOf (r'.intern name).1 = r.valuesUnder name e.values := by
  rw [← valuesUnder_eq_valuesOf (r'.find?_intern name)]
  exact h.valuesUnder ((r'.remembers_intern name).trans hr) name

end valuesUnder

end Registry

/-! ## Drafts -/

namespace Draft

/-- The values that a draft gives under a name, in any letter case, in order. -/
def given (d : Draft) (name : String) : List Value :=
  d.values.filterMap fun (n, v) => if lower n = lower name then some v else none

/-- The names and identifiers that are values too, each with the attribute's name. -/
def identity (d : Draft) (guid : Guid) : List (String × String) :=
  [("distinguishedName", d.dn), ("objectGUID", guid.render)] ++
    (d.sid.map fun sid => ("objectSid", sid.text)).toList

/-- The name or identifier that stands in for values under a name, if there is one. -/
def standIn (ids : List (String × String)) (name : String) : List Value :=
  (ids.find? fun p => lower p.1 == lower name).toList.map fun p => .text p.2

/-- The values of the entry that a draft becomes, with the given identifier: those that the draft
gives under the name, or else the name or identifier that stands in for them. -/
def valuesUnder (d : Draft) (guid : Guid) (name : String) : List Value :=
  if d.given name = [] then standIn (d.identity guid) name else d.given name

end Draft

/-- Whether an entry has the names, identifiers and values of a draft. A draft without an identifier
got `spare`. -/
structure Entry.Stems (r : Registry) (draft : Draft) (spare : Guid) (e : Entry) : Prop where
  /-- The distinguished name. -/
  dn : e.dn = draft.dn
  /-- The globally unique identifier. -/
  guid : e.guid = draft.guid.getD spare
  /-- The security identifier. -/
  sid : e.sid = draft.sid
  /-- The registry knows the attributes of the values. -/
  covers : r.Covers e.values
  /-- The values, by name. -/
  values : ∀ name,
    r.valuesUnder name e.values = draft.valuesUnder (draft.guid.getD spare) name

theorem Entry.Stems.remembers {r r' : Registry} {draft : Draft} {spare : Guid} {e : Entry}
    (h : e.Stems r draft spare) (hr : r'.Remembers r) : e.Stems r' draft spare where
  dn := h.dn
  guid := h.guid
  sid := h.sid
  covers := h.covers.remembers hr
  values name := (h.covers.valuesUnder hr name).trans (h.values name)

/-- Two entries that stem from one draft have the same values by name, if the draft gives the
identifier. -/
theorem Entry.Stems.valuesUnder_eq {r r' : Registry} {draft : Draft} {spare spare' : Guid}
    {e e' : Entry} (h : e.Stems r draft spare) (h' : e'.Stems r' draft spare')
    (hguid : draft.guid.isSome) (name : String) :
    r.valuesUnder name e.values = r'.valuesUnder name e'.values := by
  obtain ⟨guid, hguid⟩ := Option.isSome_iff_exists.mp hguid
  rw [h.values, h'.values, hguid]
  rfl

/-- Edges are no part of a draft. -/
theorem Entry.Stems.addLink {r : Registry} {draft : Draft} {spare : Guid} {e : Entry}
    (h : e.Stems r draft spare) (d : Direction) (l : Link) :
    (e.addLink d l).Stems r draft spare := by
  cases d <;> exact ⟨h.dn, h.guid, h.sid, h.covers, h.values⟩

namespace Store.Builder

/-! ## Adding entries -/

theorem valuesUnder_internValues (name : String) : ∀ (r : Registry) (l : List (String × Value)),
    (internValues r l).2.valuesUnder name (internValues r l).1 =
      l.filterMap fun (n, v) => if lower n = lower name then some v else none
  | r, [] => rfl
  | r, (n, v) :: rest => by
    have hremembers : (internValues (r.intern n).2 rest).2.Remembers (r.intern n).2 :=
      (internValues_covers (r.intern n).2 rest).1
    have hfind := hremembers.find? (r.find?_intern n)
    have ih := valuesUnder_internValues name (r.intern n).2 rest
    rw [internValues]
    dsimp only
    rw [Registry.valuesUnder_cons, ih, List.filterMap_cons]
    dsimp only
    by_cases hlower : lower n = lower name
    · rw [if_pos ((Registry.find?_eq_some_iff_lower hfind).mpr hlower), if_pos hlower]
    · rw [if_neg (mt (Registry.find?_eq_some_iff_lower hfind).mp hlower), if_neg hlower]

/-- Supplies several texts, each under its name. -/
def supplyAll : List (String × String) → List (Attribute × Value) → Registry →
    List (Attribute × Value) × Registry
  | [], values, r => (values, r)
  | (name, text) :: rest, values, r =>
    supplyAll rest (supply name text values r).1 (supply name text values r).2

/-- What adding an entry does: the values of the draft are interned, then its names and identifiers
are supplied. -/
theorem add_eq (b : Builder) (draft : Draft) (spare : Guid) :
    (b.add draft spare).2 =
      let guid := draft.guid.getD spare
      let given := internValues b.registry draft.values
      let (values, r) := supplyAll (draft.identity guid) given.1 given.2
      { registry := r
        entries := b.entries ++ [{ dn := draft.dn, guid, sid := draft.sid, values }] } := by
  obtain ⟨dn, guid, sid, values⟩ := draft
  cases sid with
  | none => rfl
  | some sid => rfl

theorem supplyAll_covers : ∀ (ids : List (String × String)) {values : List (Attribute × Value)}
    {r : Registry}, r.Covers values →
      (supplyAll ids values r).2.Remembers r ∧
        (supplyAll ids values r).2.Covers (supplyAll ids values r).1
  | [], _, r, h => ⟨.refl r, h⟩
  | (name, text) :: rest, _, _, h => by
    obtain ⟨hremembers, hcovers⟩ := supply_covers name text h
    obtain ⟨hremembers', hcovers'⟩ := supplyAll_covers rest hcovers
    exact ⟨hremembers'.trans hremembers, hcovers'⟩

/-- A text that is supplied is the value under its name if there was none. -/
theorem valuesUnder_supply (other text name : String) {values : List (Attribute × Value)}
    {r : Registry} (h : r.Covers values) :
    (supply other text values r).2.valuesUnder name (supply other text values r).1 =
      if lower other = lower name ∧ r.valuesUnder name values = [] then [.text text]
      else r.valuesUnder name values := by
  have hfind := r.find?_intern other
  have hkept : (r.intern other).2.valuesUnder name values = r.valuesUnder name values :=
    h.valuesUnder (r.remembers_intern other) name
  have hiff : (r.intern other).2.find? name = some (r.intern other).1 ↔ lower other = lower name :=
    Registry.find?_eq_some_iff_lower hfind
  rw [supply]
  dsimp only
  by_cases hlower : lower other = lower name
  · -- values under the name are values of the attribute that was interned
    have hany : r.valuesUnder name values = [] ↔
        values.any (·.1 == (r.intern other).1) = false := by
      rw [← hkept]
      exact Registry.valuesUnder_eq_nil (hiff.mpr hlower)
    by_cases hnone : r.valuesUnder name values = []
    · simp only [hany.mp hnone, Bool.false_eq_true, if_false, hlower, hnone, and_self, if_true]
      rw [Registry.valuesUnder_append, hkept, hnone, Registry.valuesUnder_cons,
        if_pos (hiff.mpr hlower)]
      rfl
    · have htrue : values.any (·.1 == (r.intern other).1) = true :=
        Bool.of_not_eq_false (mt hany.mpr hnone)
      simp only [htrue, if_true, hnone, and_false, if_false]
      exact hkept
  · simp only [hlower, false_and, if_false]
    split
    · exact hkept
    · rw [Registry.valuesUnder_append, hkept, Registry.valuesUnder_cons,
        if_neg (mt hiff.mp hlower)]
      exact List.append_nil _

/-- Of several texts the first under a name stands in for values. -/
theorem valuesUnder_supplyAll (name : String) : ∀ (ids : List (String × String))
    {values : List (Attribute × Value)} {r : Registry}, r.Covers values →
      (supplyAll ids values r).2.valuesUnder name (supplyAll ids values r).1 =
        if r.valuesUnder name values = [] then Draft.standIn ids name
        else r.valuesUnder name values
  | [], values, r, _ => by
    split
    · next hnone => exact hnone
    · rfl
  | (other, text) :: rest, values, r, h => by
    rw [supplyAll, valuesUnder_supplyAll name rest (supply_covers other text h).2,
      valuesUnder_supply other text name h]
    by_cases hlower : lower other = lower name
    · by_cases hnone : r.valuesUnder name values = []
      · simp [Draft.standIn, hlower, hnone]
      · simp [hnone]
    · simp [Draft.standIn, hlower]

/-- An entry that is added stems from its draft and stands at the end. -/
theorem stems_add (b : Builder) (draft : Draft) (spare : Guid) :
    ∃ e, (b.add draft spare).2.entries = b.entries ++ [e] ∧
      (b.add draft spare).2.registry.Remembers b.registry ∧
      e.Stems (b.add draft spare).2.registry draft spare := by
  obtain ⟨hgiven, hcovers⟩ := internValues_covers b.registry draft.values
  obtain ⟨hsupplied, hcovers'⟩ := supplyAll_covers (draft.identity (draft.guid.getD spare)) hcovers
  rw [add_eq]
  refine ⟨_, rfl, hsupplied.trans hgiven, rfl, rfl, rfl, hcovers', fun name => ?_⟩
  rw [Draft.valuesUnder, Draft.given, ← valuesUnder_internValues name b.registry draft.values]
  exact valuesUnder_supplyAll name _ hcovers

/-! ## Runs -/

/-- The drafts that calls add, each with the identifier that it gets if it comes without one. -/
def drafts (calls : List Call) : List (Draft × Guid) :=
  calls.filterMap fun
    | .add draft spare => some (draft, spare)
    | _ => none

/-- Whether the entries of a store under construction stem from some drafts, in the same order. -/
structure Stocked (b : Builder) (l : List (Draft × Guid)) : Prop where
  /-- There are as many of them. -/
  length : b.entries.length = l.length
  /-- Each entry stems from the draft with its number. -/
  stems : ∀ {i : Nat} {e : Entry} {p : Draft × Guid}, b.entries[i]? = some e → l[i]? = some p →
    e.Stems b.registry p.1 p.2

namespace Stocked

variable {b : Builder} {l : List (Draft × Guid)}

/-- Entries still stem from their drafts when more names are known. -/
theorem withRegistry (h : b.Stocked l) {r : Registry} (hr : r.Remembers b.registry) :
    Stocked { b with registry := r } l where
  length := h.length
  stems he hp := (h.stems he hp).remembers hr

theorem markIndexed (h : b.Stocked l) (name : String) : (b.markIndexed name).Stocked l :=
  h.withRegistry (Registry.remembers_register _ name _)

theorem add (h : b.Stocked l) (draft : Draft) (spare : Guid) :
    (b.add draft spare).2.Stocked (l ++ [(draft, spare)]) := by
  obtain ⟨new, hentries, hremembers, hnew⟩ := b.stems_add draft spare
  constructor
  · rw [hentries, List.length_append, List.length_append, h.length]
    rfl
  · intro i e p he hp
    rw [hentries, List.getElem?_append] at he
    rw [List.getElem?_append, ← h.length] at hp
    split at he
    · next hlt =>
      rw [if_pos hlt] at hp
      exact (h.stems he hp).remembers hremembers
    · next hlt =>
      rw [if_neg hlt] at hp
      obtain rfl := List.mem_singleton.mp (List.mem_of_getElem? he)
      obtain rfl := List.mem_singleton.mp (List.mem_of_getElem? hp)
      exact hnew

theorem keep (h : b.Stocked l) (d : Direction) (e : Edge) : (b.keep d e).Stocked l where
  length := (b.length_keep d e).trans h.length
  stems hx hp := by
    obtain ⟨y, hy, rfl⟩ := getElem?_keep hx
    split
    · exact (h.stems hy hp).addLink d (e.link d)
    · exact h.stems hy hp

/-- A call that adds a draft adds an entry that stems from it, any other adds none. -/
theorem perform (h : b.Stocked l) (call : Call) :
    (b.perform call).Stocked (l ++ drafts [call]) := by
  cases call with
  | markIndexed name =>
    rw [show drafts [.markIndexed name] = [] from rfl, List.append_nil]
    exact h.markIndexed name
  | add draft spare => exact h.add draft spare
  | addEdge e =>
    rw [show drafts [.addEdge e] = [] from rfl, List.append_nil, Builder.perform]
    rcases b.join_cases e with ⟨-, hjoin⟩ | ⟨-, -, hjoin⟩ | ⟨-, -, hjoin⟩
    · rw [hjoin]
      exact h
    · rw [hjoin]
      exact h
    · rw [hjoin]
      exact (h.keep .canPwn e).keep .pwnableBy e

theorem run (h : b.Stocked l) (calls : List Call) : (b.run calls).Stocked (l ++ drafts calls) := by
  induction calls generalizing b l with
  | nil =>
    rw [show drafts [] = [] from rfl, List.append_nil]
    exact h
  | cons call rest ih =>
    have hdrafts : drafts (call :: rest) = drafts [call] ++ drafts rest :=
      List.filterMap_append (l := [call])
    rw [Builder.run, hdrafts, ← List.append_assoc]
    exact ih (h.perform call)

end Stocked

/-- The names are those of the drafts. -/
theorem Stocked.map_dn {b : Builder} {l : List (Draft × Guid)} (h : b.Stocked l) :
    b.entries.map Entry.dn = l.map fun p => p.1.dn := by
  refine List.ext_getElem (by simp [h.length]) fun i hi hi' => ?_
  rw [List.length_map] at hi hi'
  rw [List.getElem_map, List.getElem_map]
  exact (h.stems (List.getElem?_eq_getElem hi) (List.getElem?_eq_getElem hi')).dn

theorem stocked_run (r : Registry) (calls : List Call) :
    (run { registry := r } calls).Stocked (drafts calls) := by
  have hstart : Stocked { registry := r } [] := ⟨rfl, fun he => by simp at he⟩
  exact hstart.run calls

end Store.Builder

end Directory
