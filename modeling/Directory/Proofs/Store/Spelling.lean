import Directory.Proofs.Store.Alike
import Directory.Proofs.Store.Contents
import Mathlib.Data.List.Forall2

/-!
# Integers and their texts

A draft may give an integer as such or as the text that is its written form. The stores that are
built have the same names, numbers, edges and indexes, and only the values that were given otherwise
differ.

- `Value.Respelt`: the same value, or the text of an integer instead of it.
- `Draft.Respelt`, `Entry.Respelt`, `Store.Builder.Respelt`: nothing else is different.
- `Store.Builder.Step.Respelt`: a step that adds a draft in another spelling.
  `Store.Builder.Respelt.advance`: what one step keeps, `Store.Builder.respelt_foldl`: what all do.
- `Store.Builder.Respelt.build`: the finished stores.
- `Store.alike_respelt`: they say the same.
-/

namespace Directory

/-! ## Values -/

/-- Whether the second value is the first one, or the text of the first one, an integer. -/
inductive Value.Respelt : Value → Value → Prop where
  /-- The value is kept. -/
  | same (v : Value) : Respelt v v
  /-- The integer is given as its written form. -/
  | text (n : Int64) : Respelt (.int n) (.text (Decimal.render n))

theorem Value.Respelt.rendered_eq {v v' : Value} (h : v.Respelt v') : v.rendered = v'.rendered := by
  cases h with
  | same => rfl
  | text => rfl

/-- Whether values stand under the same keys and are the same except for spelling. -/
def RespeltAmong {κ : Type} : List (κ × Value) → List (κ × Value) → Prop :=
  List.Forall₂ fun p q => p.1 = q.1 ∧ p.2.Respelt q.2

namespace RespeltAmong

variable {κ : Type} {l l' : List (κ × Value)}

theorem refl (l : List (κ × Value)) : RespeltAmong l l :=
  List.forall₂_same.mpr fun p _ => ⟨rfl, .same p.2⟩

theorem any_key (h : RespeltAmong l l') (p : κ → Bool) : l.any (p ·.1) = l'.any (p ·.1) := by
  have hkeys : l.map (·.1) = l'.map (·.1) := map_eq_of_forall₂ h And.left
  have hany := congrArg (List.any · p) hkeys
  rwa [List.any_map, List.any_map] at hany

end RespeltAmong

/-! ## Drafts and entries -/

/-- Whether two drafts are the same except for the spelling of values. -/
inductive Draft.Respelt : Draft → Draft → Prop where
  /-- Some values are given as texts. -/
  | values (d : Draft) {values : List (String × Value)} (h : RespeltAmong d.values values) :
      Respelt d { d with values }

/-- Whether two entries are the same except for the spelling of values. -/
inductive Entry.Respelt : Entry → Entry → Prop where
  /-- Some values are texts. -/
  | values (e : Entry) {values : List (Attribute × Value)} (h : RespeltAmong e.values values) :
      Respelt e { e with values }

namespace Entry.Respelt

variable {e e' : Entry}

theorem renderedOf_eq (h : e.Respelt e') (a : Attribute) : e.renderedOf a = e'.renderedOf a := by
  obtain ⟨h⟩ := h
  refine map_eq_of_forall₂ (List.rel_filterMap ?_ h) Value.Respelt.rendered_eq
  rintro ⟨b, v⟩ ⟨_, v'⟩ ⟨rfl, hv⟩
  dsimp only
  split
  · exact .some hv
  · exact .none

theorem dn_eq (h : e.Respelt e') : e.dn = e'.dn := by
  obtain ⟨-⟩ := h
  rfl

theorem links_eq (h : e.Respelt e') (d : Direction) : e.links d = e'.links d := by
  obtain ⟨-⟩ := h
  cases d <;> rfl

theorem addLink (h : e.Respelt e') (d : Direction) (l : Link) :
    (e.addLink d l).Respelt (e'.addLink d l) := by
  obtain ⟨h⟩ := h
  cases d
  · exact .values (e.addLink .canPwn l) h
  · exact .values (e.addLink .pwnableBy l) h

theorem alike (h : e.Respelt e') : e.Alike Eq e' :=
  ⟨h.dn_eq, fun {a _} hab => hab ▸ h.renderedOf_eq a⟩

end Entry.Respelt

namespace Store

namespace Builder

/-! ## Steps -/

/-- Whether two stores under construction are the same except for the spelling of values. -/
structure Respelt (b b' : Builder) : Prop where
  /-- The names are the same. -/
  registry : b.registry = b'.registry
  /-- So are the entries except for the spelling of values. -/
  entries : List.Forall₂ Entry.Respelt b.entries b'.entries

/-- Whether two steps are the same except for the spelling of values. -/
inductive Step.Respelt : Step → Step → Prop where
  /-- The step is kept. -/
  | same (x : Step) : Respelt x x
  /-- The step adds a draft in another spelling. -/
  | add {d d' : Draft} (h : d.Respelt d') (spare : Guid) :
      Respelt (.call (.add d spare)) (.call (.add d' spare))

/-- Whether values are the same except for spelling, and the registries after them are the same. -/
def RespeltWith {κ : Type} (p q : List (κ × Value) × Registry) : Prop :=
  RespeltAmong p.1 q.1 ∧ p.2 = q.2

theorem respelt_internValues {l l' : List (String × Value)} (h : RespeltAmong l l') (r : Registry) :
    RespeltWith (internValues r l) (internValues r l') := by
  induction h generalizing r with
  | nil => exact ⟨.nil, rfl⟩
  | @cons p q l l' hpq _ ih =>
    obtain ⟨name, v⟩ := p
    obtain ⟨_, v'⟩ := q
    obtain ⟨rfl, hv⟩ := hpq
    obtain ⟨hvalues, hregistry⟩ := ih (r.intern name).2
    exact ⟨.cons ⟨rfl, hv⟩ hvalues, hregistry⟩

theorem respelt_supply (name text : String) {values values' : List (Attribute × Value)}
    (h : RespeltAmong values values') (r : Registry) :
    RespeltWith (supply name text values r) (supply name text values' r) := by
  refine ⟨?_, rfl⟩
  rw [supply, supply]
  dsimp only
  rw [h.any_key (· == (r.intern name).1)]
  split
  · exact h
  · exact List.rel_append h (RespeltAmong.refl _)

theorem respelt_supplyAll : ∀ (ids : List (String × String))
    {p q : List (Attribute × Value) × Registry}, RespeltWith p q →
      RespeltWith (supplyAll ids p.1 p.2) (supplyAll ids q.1 q.2)
  | [], _, _, h => h
  | (name, text) :: rest, p, q, h => by
    rw [supplyAll, supplyAll, ← h.2]
    exact respelt_supplyAll rest (respelt_supply name text h.1 p.2)

namespace Respelt

variable {b b' : Builder} (h : b.Respelt b')
include h

theorem add {d d' : Draft} (hd : d.Respelt d') (spare : Guid) :
    (b.add d spare).2.Respelt (b'.add d' spare).2 := by
  obtain ⟨hd⟩ := hd
  obtain ⟨hvalues, hregistry⟩ :=
    respelt_supplyAll (d.identity (d.guid.getD spare)) (respelt_internValues hd b.registry)
  rw [add_eq, add_eq, ← h.registry]
  exact ⟨hregistry, List.rel_append h.entries (.cons (.values _ hvalues) .nil)⟩

theorem keep (d : Direction) (e : Edge) : (b.keep d e).Respelt (b'.keep d e) :=
  ⟨h.registry, forall₂_modify h.entries (fun he => he.addLink d (e.link d)) (e.near d)⟩

theorem join (e : Edge) : (b.join e).2.Respelt (b'.join e).2 := by
  -- whether the edge is refused depends on the number of entries only
  rw [Builder.join, Builder.join, h.entries.length_eq]
  split
  · exact h
  · split
    · exact h
    · exact (h.keep .canPwn e).keep .pwnableBy e

theorem withRegistry (g : Registry → Registry) :
    Respelt { b with registry := g b.registry } { b' with registry := g b'.registry } :=
  ⟨congrArg g h.registry, h.entries⟩

/-- What one step keeps. -/
theorem advance {x x' : Step} (hx : x.Respelt x') : (b.advance x).Respelt (b'.advance x') := by
  cases hx with
  | add hd spare => exact h.add hd spare
  | same x =>
    cases x with
    | register name flags => exact h.withRegistry fun r => (r.register name flags).2
    | intern name => exact h.withRegistry fun r => (r.intern name).2
    | call c =>
      cases c with
      | markIndexed name => exact h.withRegistry fun r => (r.markIndexed name).2
      | add d spare => exact h.add (.values d (.refl _)) spare
      | addEdge e => exact h.join e

end Respelt

/-- What all steps keep. -/
theorem respelt_foldl {steps steps' : List Step} (h : List.Forall₂ Step.Respelt steps steps')
    (r : Registry) :
    Respelt (steps.foldl advance { registry := r }) (steps'.foldl advance { registry := r }) :=
  List.rel_foldl (fun _ _ hb _ _ hx => hb.advance hx) ⟨rfl, .nil⟩ h

/-! ## Finished stores -/

theorem indexFrom_respelt (a : Attribute) {l l' : List Entry} (h : List.Forall₂ Entry.Respelt l l')
    (x : Index) (id : Nat) : indexFrom a x id l = indexFrom a x id l' := by
  induction h generalizing x id with
  | nil => rfl
  | cons he _ ih => rw [indexFrom, indexFrom, he.renderedOf_eq a, ih]

/-- The stores differ in the spelling of values only, or neither can be finished. -/
theorem Respelt.build {b b' : Builder} (h : b.Respelt b') :
    (∀ err, b.build = .error err ↔ b'.build = .error err) ∧
    ∀ s, b.build = .ok s → ∃ entries, b'.build = .ok { s with entries } ∧
      List.Forall₂ Entry.Respelt s.entries entries := by
  have hnames : b.entries.map Entry.dn = b'.entries.map Entry.dn :=
    map_eq_of_forall₂ h.entries Entry.Respelt.dn_eq
  have hindexes : (b.registry.indexed.map fun a => (a, indexFrom a {} 0 b.entries)) =
      b'.registry.indexed.map fun a => (a, indexFrom a {} 0 b'.entries) := by
    rw [h.registry]
    exact List.map_congr_left fun a _ => by rw [indexFrom_respelt a h.entries]
  rw [Builder.build, Builder.build, ← hnames]
  cases numberNames [] 0 (b.entries.map Entry.dn) with
  | error err => simp
  | ok names =>
    refine ⟨by simp, fun s hs => ?_⟩
    obtain rfl := Except.ok.inj hs
    rw [hindexes, h.registry]
    exact ⟨b'.entries, rfl, h.entries⟩

end Builder

/-- Stores that differ in the spelling of values say the same. -/
theorem alike_respelt {s : Store} {entries : List Entry}
    (h : List.Forall₂ Entry.Respelt s.entries entries) : s.Alike Eq { s with entries } where
  edges := by
    funext d id
    have hid := forall₂_iff_getElem?.mp h id
    rw [edgesAt, edgesAt, entry?, entry?]
    dsimp only
    generalize s.entries[id]? = x, entries[id]? = x' at hid
    cases hid with
    | none => rfl
    | some he => exact congrArg _ (he.links_eq d)
  entries := forall₂_iff_getElem?.mp (h.imp fun _ _ => Entry.Respelt.alike)
  findByName? _ := rfl

end Store

end Directory
