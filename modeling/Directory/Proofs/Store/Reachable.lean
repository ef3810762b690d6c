import Directory.Proofs.Attribute
import Directory.Store.Basic

/-!
# Stores under construction

A store comes about step by step: names are registered or interned, entries and edges are added. An
edge that is refused leaves the store as it was.

- `Store.Builder.Reachable`: what comes about by such steps, from any registry.
- `Store.Builder.Reachable.covers`: every value of an entry is of an attribute that the registry
  knows by name.
-/

namespace Directory

/-- Whether a registry knows the attributes of all values. -/
def Registry.Covers (r : Registry) (values : List (Attribute × Value)) : Prop :=
  ∀ p ∈ values, p.1.id < r.size

namespace Registry

theorem Covers.remembers {r r' : Registry} {values : List (Attribute × Value)}
    (h : r.Covers values) (hr : r'.Remembers r) : r'.Covers values :=
  fun p hp => Nat.lt_of_lt_of_le (h p hp) hr.size_le

/-- An entry has no values of an attribute that the registry did not know. -/
theorem Covers.valuesOf {r : Registry} {e : Entry} (h : r.Covers e.values) {a : Attribute}
    (ha : r.size ≤ a.id) : e.valuesOf a = [] := by
  rw [Entry.valuesOf, List.filterMap_eq_nil_iff]
  rintro ⟨b, v⟩ hp
  refine if_neg ?_
  rintro rfl
  exact Nat.not_lt.mpr ha (h _ hp)

end Registry

namespace Store.Builder

/-- The stores under construction that come about. -/
inductive Reachable : Builder → Prop where
  | start {r : Registry} : r.Reachable → Reachable { registry := r }
  | register {b : Builder} (name : String) (flags : Attribute.Flags) :
      Reachable b → Reachable { b with registry := (b.registry.register name flags).2 }
  | intern {b : Builder} (name : String) :
      Reachable b → Reachable { b with registry := (b.registry.intern name).2 }
  | markIndexed {b : Builder} (name : String) : Reachable b → Reachable (b.markIndexed name)
  | add {b : Builder} (draft : Draft) (spare : Guid) :
      Reachable b → Reachable (b.add draft spare).2
  | addEdge {b b' : Builder} {e : Edge} : Reachable b → b.addEdge e = .ok b' → Reachable b'

theorem internValues_covers : ∀ (r : Registry) (l : List (String × Value)),
    (internValues r l).2.Remembers r ∧ (internValues r l).2.Covers (internValues r l).1
  | r, [] => ⟨.refl r, nofun⟩
  | r, (name, v) :: rest => by
    obtain ⟨hremembers, hcovers⟩ := internValues_covers (r.intern name).2 rest
    rw [internValues]
    refine ⟨hremembers.trans (r.remembers_intern name), fun p hp => ?_⟩
    rcases List.mem_cons.mp hp with rfl | hp
    · exact Nat.lt_of_lt_of_le (Registry.lt_size_of_find? (r.find?_intern name))
        hremembers.size_le
    · exact hcovers p hp

theorem supply_covers (name text : String) {values : List (Attribute × Value)} {r : Registry}
    (h : r.Covers values) :
    (supply name text values r).2.Remembers r ∧
      (supply name text values r).2.Covers (supply name text values r).1 := by
  have hcovers : (r.intern name).2.Covers values := h.remembers (r.remembers_intern name)
  rw [supply]
  refine ⟨r.remembers_intern name, fun p hp => ?_⟩
  dsimp only at hp
  split at hp
  · exact hcovers p hp
  · rcases List.mem_append.mp hp with hp | hp
    · exact hcovers p hp
    · rw [List.mem_singleton.mp hp]
      exact Registry.lt_size_of_find? (r.find?_intern name)

/-- An entry goes to the end, and its values are of attributes known after it was added. -/
theorem add_spec (b : Builder) (draft : Draft) (spare : Guid) :
    ∃ e, (b.add draft spare).2.entries = b.entries ++ [e] ∧
      (b.add draft spare).2.registry.Remembers b.registry ∧
      (b.add draft spare).2.registry.Covers e.values := by
  obtain ⟨hr₁, h₁⟩ := internValues_covers b.registry draft.values
  obtain ⟨hr₂, h₂⟩ := supply_covers "distinguishedName" draft.dn h₁
  obtain ⟨hr₃, h₃⟩ := supply_covers "objectGUID" (draft.guid.getD spare).render h₂
  refine ⟨_, rfl, ?_⟩
  rw [add]
  dsimp only
  cases draft.sid with
  | none => exact ⟨(hr₃.trans hr₂).trans hr₁, h₃⟩
  | some sid =>
    obtain ⟨hr₄, h₄⟩ := supply_covers "objectSid" sid.text h₃
    exact ⟨((hr₄.trans hr₃).trans hr₂).trans hr₁, h₄⟩

/-- What adding an edge does: it is kept at both ends if both are there, and nothing is kept if one
is not. The end where it starts is looked for first. -/
theorem join_cases (b : Builder) (e : Edge) :
    (b.entries.length ≤ e.source ∧ b.join e = (.error (.unknownEntry e.source), b)) ∨
      (e.source < b.entries.length ∧ b.entries.length ≤ e.target ∧
        b.join e = (.error (.unknownEntry e.target), b)) ∨
      (e.source < b.entries.length ∧ e.target < b.entries.length ∧
        b.join e = (.ok (), (b.keep .canPwn e).keep .pwnableBy e)) := by
  rw [join]
  by_cases hsource : b.entries.length ≤ e.source
  · exact .inl ⟨hsource, if_pos hsource⟩
  · rw [if_neg hsource]
    by_cases htarget : b.entries.length ≤ e.target
    · exact .inr (.inl ⟨Nat.lt_of_not_le hsource, htarget, if_pos htarget⟩)
    · exact .inr (.inr ⟨Nat.lt_of_not_le hsource, Nat.lt_of_not_le htarget, if_neg htarget⟩)

theorem addEdge_eq_ok {b b' : Builder} {e : Edge} (h : b.addEdge e = .ok b') :
    b' = (b.keep .canPwn e).keep .pwnableBy e := by
  rw [addEdge] at h
  rcases b.join_cases e with ⟨-, hjoin⟩ | ⟨-, -, hjoin⟩ | ⟨-, -, hjoin⟩
  · rw [hjoin] at h
    exact nomatch h
  · rw [hjoin] at h
    exact nomatch h
  · rw [hjoin] at h
    exact (Except.ok.inj h).symm

/-- Keeping an edge changes what is kept at one entry, and nothing else. -/
theorem getElem?_keep {b : Builder} {d : Direction} {e : Edge} {id : Nat} {x : Entry}
    (h : (b.keep d e).entries[id]? = some x) :
    ∃ y, b.entries[id]? = some y ∧ x = if e.near d = id then y.addLink d (e.link d) else y := by
  rw [keep, List.getElem?_modify, Option.map_eq_map, Option.map_eq_some_iff] at h
  obtain ⟨y, hy, rfl⟩ := h
  exact ⟨y, hy, rfl⟩

theorem exists_of_mem_keep {b : Builder} {d : Direction} {e : Edge} {x : Entry}
    (h : x ∈ (b.keep d e).entries) : ∃ y ∈ b.entries, x.values = y.values := by
  obtain ⟨i, hi⟩ := List.mem_iff_getElem?.mp h
  obtain ⟨y, hy, rfl⟩ := getElem?_keep hi
  refine ⟨y, List.mem_of_getElem? hy, ?_⟩
  split
  · cases d <;> rfl
  · rfl

/-- Every value of an entry is of an attribute that the registry knows. -/
theorem Reachable.covers {b : Builder} (h : b.Reachable) :
    ∀ e ∈ b.entries, b.registry.Covers e.values := by
  induction h with
  | start => exact nofun
  | register name flags _ ih =>
    exact fun e he => (ih e he).remembers (Registry.remembers_register _ name flags)
  | intern name _ ih =>
    exact fun e he => (ih e he).remembers (Registry.remembers_intern _ name)
  | markIndexed name _ ih =>
    exact fun e he => (ih e he).remembers (Registry.remembers_register _ name _)
  | @add b draft spare _ ih =>
    obtain ⟨new, hentries, hremembers, hcovers⟩ := b.add_spec draft spare
    intro e he
    rw [hentries] at he
    rcases List.mem_append.mp he with he | he
    · exact (ih e he).remembers hremembers
    · exact List.mem_singleton.mp he ▸ hcovers
  | addEdge _ hedge ih =>
    rw [addEdge_eq_ok hedge]
    intro x hx
    obtain ⟨y, hy, hxy⟩ := exists_of_mem_keep hx
    obtain ⟨z, hz, hyz⟩ := exists_of_mem_keep hy
    rw [hxy, hyz]
    exact ih z hz

/-- Two entries that share a name up to letter case. One of them has it twice. -/
def namesakes : Builder :=
  let b := Builder.markIndexed { registry := .empty } "cn"
  let b := (b.add ⟨"CN=1", some ⟨1⟩, none, [("cn", .text "Eve"), ("CN", .text "eve")]⟩ ⟨0⟩).2
  (b.add ⟨"CN=2", some ⟨2⟩, none, [("Cn", .text "EVE"), ("cn", .int 7)]⟩ ⟨0⟩).2

theorem reachable_namesakes : namesakes.Reachable :=
  .add _ _ (.add _ _ (.markIndexed _ (.start .empty)))

end Store.Builder

end Directory
