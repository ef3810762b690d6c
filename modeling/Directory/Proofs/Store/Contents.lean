import Directory.Proofs.Store.Values

/-!
# What a finished store holds

A store under construction is given drafts, and between them attribute names are registered or
interned. The finished store holds these drafts and nothing else, whatever the names were.

- `Store.Builder.Step`, `advance`: what may be done to a store under construction.
- `Store.Builder.drafted`: the drafts that are added.
- `Store.Builder.stocked_advance`: the entries stem from them.
- `Store.Holds`: what a store keeps of drafts.
- `Store.Builder.build_holds`: when a store can be finished, and what it then holds.
-/

namespace Directory

open Text (lower)

namespace Store

/-! ## Names -/

section Names

variable {b : Builder} {s : Store} (hs : b.build = .ok s) {name : String}
include hs

/-- The names of a finished store differ in more than letter case. -/
theorem nodup_of_build : (s.entries.map fun e => lower e.dn).Nodup := by
  rw [(Builder.build_eq_ok hs).1]
  exact Builder.exists_build_iff.mp ⟨s, hs⟩

/-- The table of names and the entries say the same. -/
theorem findByName?_eq_some_iff {i : Nat} :
    s.findByName? name = some i ↔ ∃ e, s.entry? i = some e ∧ lower e.dn = lower name := by
  rw [findByName?, (Builder.names_of_build hs).lookup_eq_some_iff (nodup_of_build hs),
    List.getElem?_map, Option.map_eq_some_iff]
  rfl

theorem named?_eq_some_iff {i : Nat} {e : Entry} :
    s.named? name = some (i, e) ↔ s.entry? i = some e ∧ lower e.dn = lower name := by
  have hnamed : s.named? name = some (i, e) ↔ s.findByName? name = some i ∧ s.entry? i = some e := by
    rw [named?, Option.bind_eq_some_iff]
    simp [Option.map_eq_some_iff]
  rw [hnamed, findByName?_eq_some_iff hs]
  constructor
  · rintro ⟨⟨e', he', hname⟩, he⟩
    rw [← Option.some.inj (he'.symm.trans he)]
    exact ⟨he', hname⟩
  · rintro ⟨he, hname⟩
    exact ⟨⟨e, he, hname⟩, he⟩

theorem named?_eq_none_iff :
    s.named? name = none ↔ ∀ e ∈ s.entries, lower e.dn ≠ lower name := by
  rw [Option.eq_none_iff_forall_ne_some]
  constructor
  · intro h e he hname
    obtain ⟨i, hi⟩ := List.mem_iff_getElem?.mp he
    exact h (i, e) ((named?_eq_some_iff hs).mpr ⟨hi, hname⟩)
  · rintro h ⟨i, e⟩ hnamed
    obtain ⟨he, hname⟩ := (named?_eq_some_iff hs).mp hnamed
    exact h e (List.mem_of_getElem? he) hname

end Names

namespace Builder

/-! ## Steps -/

/-- What may be done to a store under construction. -/
inductive Step where
  /-- A call, which may be refused. -/
  | call (c : Call)
  /-- Registers an attribute name with flags. -/
  | register (name : String) (flags : Attribute.Flags)
  /-- Interns an attribute name. -/
  | intern (name : String)

/-- What a store under construction is after a step. -/
def advance (b : Builder) : Step → Builder
  | .call c => b.perform c
  | .register name flags => { b with registry := (b.registry.register name flags).2 }
  | .intern name => { b with registry := (b.registry.intern name).2 }

/-- The drafts that steps add, each with the identifier that it gets if it comes without one. -/
def drafted (steps : List Step) : List (Draft × Guid) :=
  steps.filterMap fun
    | .call (.add draft spare) => some (draft, spare)
    | _ => none

theorem reachable_internValues : ∀ {r : Registry} (l : List (String × Value)), r.Reachable →
    (internValues r l).2.Reachable
  | _, [], h => h
  | _, (name, _) :: rest, h => by
    rw [internValues]
    exact reachable_internValues rest (h.intern name)

theorem reachable_supplyAll : ∀ (ids : List (String × String)) (values : List (Attribute × Value))
    {r : Registry}, r.Reachable → (supplyAll ids values r).2.Reachable
  | [], _, _, h => h
  | (name, _) :: rest, _, _, h => reachable_supplyAll rest _ (h.intern name)

/-- A step gives attributes names as any naming does. -/
theorem reachable_advance {b : Builder} (h : b.registry.Reachable) (x : Step) :
    (b.advance x).registry.Reachable := by
  cases x with
  | call c =>
    cases c with
    | markIndexed name => exact h.markIndexed name
    | add draft spare =>
      rw [advance, perform, add_eq]
      exact reachable_supplyAll _ _ (reachable_internValues _ h)
    | addEdge e =>
      rw [advance, perform]
      rcases b.join_cases e with ⟨-, hjoin⟩ | ⟨-, -, hjoin⟩ | ⟨-, -, hjoin⟩
      · rw [hjoin]
        exact h
      · rw [hjoin]
        exact h
      · rw [hjoin]
        exact h
  | register name flags => exact h.register name flags
  | intern name => exact h.intern name

/-- A step that adds a draft adds an entry that stems from it, any other adds none. -/
theorem stocked_advance {b : Builder} {l : List (Draft × Guid)} (h : b.Stocked l) (x : Step) :
    (b.advance x).Stocked (l ++ drafted [x]) := by
  cases x with
  | call c =>
    have hdrafted : drafted [.call c] = drafts [c] := by cases c <;> rfl
    rw [hdrafted]
    exact h.perform c
  | register name flags =>
    rw [show drafted [.register name flags] = [] from rfl, List.append_nil]
    exact h.withRegistry (Registry.remembers_register _ name flags)
  | intern name =>
    rw [show drafted [.intern name] = [] from rfl, List.append_nil]
    exact h.withRegistry (Registry.remembers_intern _ name)

theorem drafted_cons (x : Step) (rest : List Step) :
    drafted (x :: rest) = drafted [x] ++ drafted rest :=
  List.filterMap_append (l := [x])

/-- After any steps the names are still those of a registry that came about by naming attributes,
and the entries stem from the drafts that were added. -/
theorem stocked_foldl_advance (steps : List Step) {b : Builder} {l : List (Draft × Guid)}
    (hb : b.registry.Reachable) (h : b.Stocked l) :
    (steps.foldl advance b).registry.Reachable ∧
      (steps.foldl advance b).Stocked (l ++ drafted steps) := by
  induction steps generalizing b l with
  | nil =>
    rw [show drafted [] = [] from rfl, List.append_nil]
    exact ⟨hb, h⟩
  | cons x rest ih =>
    rw [List.foldl_cons, drafted_cons, ← List.append_assoc]
    exact ih (reachable_advance hb x) (stocked_advance h x)

end Builder

/-! ## Finished stores -/

/-- What a store keeps of drafts, each with the identifier that it gets if it comes without one. -/
structure Holds (s : Store) (l : List (Draft × Guid)) : Prop where
  /-- There are no further entries. -/
  entry?_eq_none : ∀ i, s.entry? i = none ↔ l.length ≤ i
  /-- The entries are the drafts, in their order. -/
  exists_entry : ∀ {i : Nat} {p : Draft × Guid}, l[i]? = some p → ∃ e, s.entry? i = some e ∧
    e.dn = p.1.dn ∧ e.guid = p.1.guid.getD p.2 ∧ e.sid = p.1.sid ∧
    ∀ r : Registry, r.Reachable → r.Remembers s.registry → ∀ a : Attribute,
      e.valuesOf a = if a.id < r.size then p.1.valuesUnder e.guid (r.nameOf a) else []
  /-- A name leads to the only entry that has it up to letter case. -/
  named?_eq_some : ∀ {name : String} {i : Nat} {e : Entry},
    s.named? name = some (i, e) ↔ s.entry? i = some e ∧ lower e.dn = lower name
  /-- A name leads nowhere if no draft has it. -/
  named?_eq_none : ∀ {name : String}, s.named? name = none ↔ ∀ p ∈ l, lower p.1.dn ≠ lower name

namespace Builder

/-- Attributes that are numbered have the values that the draft gives under their names, others have
none. -/
theorem valuesOf_stems {r r' : Registry} {draft : Draft} {spare : Guid} {e : Entry}
    (h : e.Stems r draft spare) (hr' : r'.Reachable) (hr : r'.Remembers r) (a : Attribute) :
    e.valuesOf a = if a.id < r'.size then draft.valuesUnder e.guid (r'.nameOf a) else [] := by
  have hstems : e.Stems r' draft spare := h.remembers hr
  split
  · next hlt =>
    rw [← Registry.valuesUnder_eq_valuesOf (hr'.recalls hlt), hstems.values, hstems.guid]
  · next hlt => exact hstems.covers.valuesOf (Nat.le_of_not_lt hlt)

variable {b : Builder} {l : List (Draft × Guid)}

/-- Only a repeated name keeps a store from being finished, and the first is reported. -/
theorem build_eq_error {err : Store.Error} : b.build = .error err ↔
    ∃ before dn after, b.entries.map Entry.dn = before ++ dn :: after ∧ (before.map lower).Nodup ∧
      lower dn ∈ before.map lower ∧ err = .duplicateName dn := by
  have hnames := @numberNames_eq_error [] [] Numbering.of_nil List.nodup_nil err
    (b.entries.map Entry.dn)
  simp only [List.nil_append] at hnames
  rw [← hnames, build, List.length_nil]
  cases numberNames [] 0 (b.entries.map Entry.dn) <;> simp

/-- A finished store holds the drafts that were added. -/
theorem Stocked.holds (h : b.Stocked l) {s : Store} (hs : b.build = .ok s) : s.Holds l := by
  obtain ⟨hentries, hsize, hregistry, -⟩ := build_eq_ok hs
  constructor
  · intro i
    rw [← h.length, ← hentries]
    exact List.getElem?_eq_none_iff
  · intro i p hp
    have hlt : i < b.entries.length := h.length ▸ (List.getElem?_eq_some_iff.mp hp).1
    have he := List.getElem?_eq_getElem hlt
    have hstems := h.stems he hp
    rw [Store.entry?, hentries, hregistry]
    exact ⟨_, he, hstems.dn, hstems.guid, hstems.sid,
      fun r hr hremembers => valuesOf_stems hstems hr hremembers⟩
  · exact named?_eq_some_iff hs
  · intro name
    have hsame : (∀ dn ∈ s.entries.map Entry.dn, lower dn ≠ lower name) ↔
        ∀ dn ∈ l.map fun p => p.1.dn, lower dn ≠ lower name := by
      rw [hentries, h.map_dn]
    rw [List.forall_mem_map, List.forall_mem_map] at hsame
    exact (named?_eq_none_iff hs).trans hsame

/-- **Nothing is lost and nothing is invented.** Whatever is done to a store under construction, it
can be finished exactly if the names of the drafts differ in more than letter case, and otherwise the
first name is reported that an earlier draft has. The finished store holds the drafts. -/
theorem build_holds {r : Registry} (hr : r.Reachable) (steps : List Step) :
    let b := steps.foldl advance { registry := r }
    let names := (drafted steps).map (·.1.dn)
    ((∃ s, b.build = .ok s) ↔ (names.map lower).Nodup) ∧
    (∀ err, b.build = .error err ↔ ∃ before dn after, names = before ++ dn :: after ∧
      (before.map lower).Nodup ∧ lower dn ∈ before.map lower ∧ err = .duplicateName dn) ∧
    ∀ s, b.build = .ok s → s.registry.Reachable ∧ s.Holds (drafted steps) := by
  intro b names
  have hstart : Stocked { registry := r } [] := ⟨rfl, fun he => by simp at he⟩
  obtain ⟨hreachable, hstocked⟩ : b.registry.Reachable ∧ b.Stocked (drafted steps) :=
    stocked_foldl_advance steps hr hstart
  have hnames : b.entries.map Entry.dn = names := hstocked.map_dn
  refine ⟨?_, fun err => ?_, fun s hs => ⟨?_, hstocked.holds hs⟩⟩
  · rw [exists_build_iff, ← hnames, List.map_map]
    rfl
  · rw [build_eq_error, hnames]
  · obtain ⟨-, -, hregistry, -⟩ := build_eq_ok hs
    rw [hregistry]
    exact hreachable

/-- Steps that spell attributes in several letter cases. One draft gives its identifier as a value,
the other one leaves it to the store. -/
def variants : List Step :=
  [.intern "CN", .call (.markIndexed "cn"),
   .call (.add ⟨"CN=1", none, some ⟨"S-1-5-7"⟩,
     [("cn", .text "Eve"), ("OBJECTGUID", .int 7), ("Cn", .text "eve")]⟩ ⟨1⟩),
   .register "OBJECTSID" { mergeable := true }, .call (.addEdge ⟨0, 1, .owns⟩),
   .call (.add ⟨"CN=2", none, none, []⟩ ⟨2⟩)]

/-- One more draft, whose name the first has in another letter case. -/
def repeated : Step :=
  .call (.add ⟨"cn=1", none, none, []⟩ ⟨3⟩)

theorem build_holds_variants :
    (∃ s e, (variants.foldl advance { registry := .empty }).build = .ok s ∧
      s.named? "cn=1" = some (0, e) ∧ e.valuesOf ⟨0⟩ = [.text "Eve", .text "eve"] ∧
      e.valuesOf ⟨1⟩ = [.int 7]) ∧
    ((variants ++ [repeated]).foldl advance { registry := .empty }).build =
      .error (.duplicateName "cn=1") := by
  obtain ⟨hbuild, -, hholds⟩ := build_holds .empty variants
  obtain ⟨-, herror, -⟩ := build_holds .empty (variants ++ [repeated])
  obtain ⟨s, hs⟩ := hbuild.mpr (by decide +kernel)
  obtain ⟨hreachable, hheld⟩ := hholds s hs
  obtain ⟨e, he, hdn, hguid, -, hvalues⟩ := hheld.exists_entry (i := 0) rfl
  have hregistry : s.registry = (variants.foldl advance { registry := .empty }).registry :=
    (build_eq_ok hs).2.2.1
  refine ⟨⟨s, e, hs, hheld.named?_eq_some.mpr ⟨he, ?_⟩, ?_, ?_⟩, (herror _).mpr ?_⟩
  · rw [hdn]
    decide +kernel
  · rw [hvalues s.registry hreachable (.refl _), hregistry, hguid]
    decide +kernel
  · rw [hvalues s.registry hreachable (.refl _), hregistry, hguid]
    decide +kernel
  · exact ⟨["CN=1", "CN=2"], "cn=1", [], rfl, by decide +kernel, by decide +kernel, rfl⟩

end Builder

end Store

end Directory
