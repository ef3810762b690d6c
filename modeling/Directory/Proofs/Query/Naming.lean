import Directory.Proofs.Query.Algebra
import Directory.Proofs.Store.Contents

/-!
# Names in filters and in look-ups

An entry is found by its distinguished name in two ways: a look-up goes by the names of the entries,
a filter by the values of the attribute that the names are kept under. If drafts leave that
attribute to the store, both ways lead to the same entry.

- `Registry.nameAttribute`: the attribute of distinguished names.
- `Store.Builder.renderedOf_nameAttribute`: an entry has its name as the only value of it.
- `Query.mem_matched_named`: a filter on the attribute finds what a look-up finds.
- `Query.execute_named`: so the answer holds the entry of that name and no other.
-/

namespace Directory

open Text (lower lower_lower)

/-- The standard registry comes about by naming attributes. -/
theorem Registry.Reachable.standard : Registry.standard.Reachable :=
  List.foldlRecOn _ _ .empty fun _ h p _ => h.register p.1 p.2

/-- The attribute of distinguished names, in all registries that grew from the standard one. -/
def Registry.nameAttribute : Attribute :=
  ⟨0⟩

theorem Registry.find?_nameAttribute {r : Registry} (h : r.Remembers standard) :
    r.find? "distinguishedName" = some nameAttribute :=
  h.find? (by decide +kernel)

/-- A draft that gives no distinguished name as a value gets its own. -/
theorem Draft.valuesUnder_distinguishedName {draft : Draft}
    (h : draft.given "distinguishedName" = []) (guid : Guid) :
    draft.valuesUnder guid "distinguishedName" = [.text draft.dn] := by
  rw [valuesUnder, if_pos h]
  simp [standIn, identity]

namespace Store.Builder

/-- A step keeps the meaning of all names. -/
theorem remembers_advance (b : Builder) (x : Step) :
    (b.advance x).registry.Remembers b.registry := by
  cases x with
  | call c =>
    cases c with
    | markIndexed name => exact Registry.remembers_register _ name _
    | add draft spare =>
      obtain ⟨-, -, hremembers, -⟩ := b.stems_add draft spare
      exact hremembers
    | addEdge e =>
      rw [advance, perform]
      rcases b.join_cases e with ⟨-, hjoin⟩ | ⟨-, -, hjoin⟩ | ⟨-, -, hjoin⟩ <;> rw [hjoin] <;>
        exact .refl b.registry
  | register name flags => exact Registry.remembers_register _ name flags
  | intern name => exact Registry.remembers_intern _ name

/-- So do any steps. -/
theorem remembers_foldl_advance (steps : List Step) (b : Builder) :
    (steps.foldl advance b).registry.Remembers b.registry := by
  induction steps generalizing b with
  | nil => exact .refl b.registry
  | cons x rest ih => exact (ih (b.advance x)).trans (b.remembers_advance x)

/-- The only value that an entry has under the attribute of names is its own name, if no draft gives
another one. -/
theorem renderedOf_nameAttribute {b : Builder} {l : List (Draft × Guid)} (h : b.Stocked l)
    (hb : b.registry.Remembers .standard)
    (hgiven : ∀ p ∈ l, p.1.given "distinguishedName" = []) {e : Entry} (he : e ∈ b.entries) :
    e.renderedOf Registry.nameAttribute = [e.dn] := by
  obtain ⟨i, hi⟩ := List.mem_iff_getElem?.mp he
  have hlt : i < l.length := h.length ▸ (List.getElem?_eq_some_iff.mp hi).1
  have hp := List.getElem?_eq_getElem hlt
  have hstems := h.stems hi hp
  rw [Entry.renderedOf, ← Registry.valuesUnder_eq_valuesOf (Registry.find?_nameAttribute hb),
    hstems.values, Draft.valuesUnder_distinguishedName (hgiven _ (List.mem_of_getElem? hp)),
    hstems.dn]
  rfl

end Store.Builder

namespace Query

open Directory.Filter Directory.Filter.Node
open Store.Builder (Step advance drafted)

/-- The filter that asks for a distinguished name in any letter case. -/
def named (name : String) : Filter :=
  ofNode (.equalsFolded Registry.nameAttribute (lower name))

theorem foldedLiterals_named (name : String) : FoldedLiterals (named name).root := by
  intro a text hmem
  obtain ⟨-, rfl⟩ := Node.equalsFolded.inj (List.mem_singleton.mp hmem)
  exact lower_lower name

/-- If entries have no other value under the attribute of names than their own, a filter that asks
for a name finds the number that a look-up finds. -/
theorem mem_matched_named {b : Store.Builder} {s : Store} (hs : b.build = .ok s)
    (hvalues : ∀ e ∈ s.entries, e.renderedOf Registry.nameAttribute = [e.dn]) (r : Registry)
    (d : Draws) {name : String} {id : Nat} :
    id ∈ (execute { s with registry := r } (named name) d).1.matched ↔
      s.findByName? name = some id := by
  have hholds : ∀ e ∈ s.entries,
      ((Node.equalsFolded Registry.nameAttribute (lower name)).holds s id e = true ↔
        lower e.dn = lower name) := by
    intro e he
    rw [holds, eval, hvalues e he]
    simp
  have hindexed : s.Indexed := Store.Builder.indexed_of_build hs
  rw [Store.findByName?_eq_some_iff hs]
  refine (mem_matched_execute hindexed (foldedLiterals_named name) rfl rfl r d).trans ?_
  exact exists_congr fun e => and_congr_right fun he => hholds e (List.mem_of_getElem? he)

/-- Numbers without repetition that are those of an option are its number, if it has one. -/
theorem eq_toList_of_mem_iff {l : List Nat} (hl : l.Nodup) {found : Option Nat}
    (h : ∀ id, id ∈ l ↔ found = some id) : l = found.toList := by
  cases found with
  | none => exact List.eq_nil_iff_forall_not_mem.mpr fun id hid => nomatch (h id).mp hid
  | some i =>
    have hperm := (List.perm_ext_iff_of_nodup hl (List.pairwise_singleton _ i)).mpr
    refine List.perm_singleton.mp (hperm fun id => ?_)
    rw [h, List.mem_singleton, Option.some.injEq, eq_comm]

/-- **Names.** In a store whose drafts give no distinguished names as values, the answer to a filter
that asks for a name, in any letter case, is what a look-up of the name finds, and nothing if it
finds nothing. Both find every entry by its name, whatever was registered or interned on the way and
whatever becomes of the registry later. -/
theorem execute_named (steps : List Step)
    (hgiven : ∀ p ∈ drafted steps, p.1.given "distinguishedName" = []) {s : Store}
    (hs : (steps.foldl advance { registry := .standard }).build = .ok s) (r : Registry)
    (d : Draws) :
    s.registry.find? "distinguishedName" = some Registry.nameAttribute ∧
    (∀ name, (execute { s with registry := r } (named name) d).1.matched =
      (s.findByName? name).toList) ∧
    ∀ i e, s.entry? i = some e → ∀ name, lower name = lower e.dn →
      s.named? name = some (i, e) ∧
        (execute { s with registry := r } (named name) d).1.matched = [i] := by
  have hremembers := Store.Builder.remembers_foldl_advance steps { registry := .standard }
  obtain ⟨-, hstocked⟩ := Store.Builder.stocked_foldl_advance steps .standard
    (b := { registry := .standard }) (l := []) ⟨rfl, fun he => by simp at he⟩
  obtain ⟨hentries, -, hregistry, -⟩ := Store.Builder.build_eq_ok hs
  have hvalues : ∀ e ∈ s.entries, e.renderedOf Registry.nameAttribute = [e.dn] := by
    rw [hentries]
    exact fun e he => Store.Builder.renderedOf_nameAttribute hstocked hremembers hgiven he
  have hindexed : s.Indexed := Store.Builder.indexed_of_build hs
  have hmatched : ∀ name, (execute { s with registry := r } (named name) d).1.matched =
      (s.findByName? name).toList := by
    intro name
    have hnodup := nodup_matched_execute hindexed (foldedLiterals_named name) rfl rfl r d
    exact eq_toList_of_mem_iff hnodup fun id => mem_matched_named hs hvalues r d
  refine ⟨?_, hmatched, fun i e he name hname => ?_⟩
  · rw [hregistry]
    exact Registry.find?_nameAttribute hremembers
  · have hnamed := (Store.named?_eq_some_iff hs).mpr ⟨he, hname.symm⟩
    have hfind := (Store.findByName?_eq_some_iff hs).mpr ⟨e, he, hname.symm⟩
    exact ⟨hnamed, (hmatched name).trans (congrArg Option.toList hfind)⟩

/-- Two entries, of which the name of the second ends in a sigma that is folded to its final
form. -/
def roads : List Step :=
  [.intern "DistinguishedName", .call (.markIndexed "member"),
   .call (.add ⟨"CN=1", none, none, [("member", .text "CN=ΟΔΟΣ")]⟩ ⟨1⟩),
   .register "OWNER" {}, .call (.add ⟨"CN=ΟΔΟΣ", none, none, []⟩ ⟨2⟩)]

theorem execute_named_roads :
    (∀ p ∈ drafted roads, p.1.given "distinguishedName" = []) ∧
    ∃ s e, (roads.foldl advance { registry := .standard }).build = .ok s ∧
      s.entry? 1 = some e ∧ lower "cn=ΟΔος" = lower e.dn ∧ s.named? "cn=ΟΔος" = some (1, e) ∧
      (execute s (named "cn=ΟΔος") (Draws.ofList [])).1.matched = [1] ∧
      (execute s (named "CN=ΟΔΟ") (Draws.ofList [])).1.matched = [] := by
  have hgiven : ∀ p ∈ drafted roads, p.1.given "distinguishedName" = [] := by decide +kernel
  have hs : (roads.foldl advance { registry := .standard }).build = .ok _ := rfl
  obtain ⟨-, hmatched, hfound⟩ := execute_named roads hgiven hs _ (Draws.ofList [])
  have hname : lower "cn=ΟΔος" = lower "CN=ΟΔΟΣ" := by decide +kernel
  obtain ⟨hnamed, hanswer⟩ := hfound 1 _ rfl "cn=ΟΔος" hname
  refine ⟨hgiven, _, _, hs, rfl, hname, hnamed, hanswer, (hmatched "CN=ΟΔΟ").trans ?_⟩
  decide +kernel

end Query

end Directory
