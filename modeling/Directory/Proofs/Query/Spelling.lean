import Directory.Proofs.Query.Reloading
import Directory.Proofs.Store.Spelling

/-!
# Integers and their texts in answers

Whether an integer is given as such or as its written form does not show in answers. Conditions look
at the texts of values or at their integers, and both are the same, so that indexes and plans are.

- `Query.forall₂_located`: an index leads to entries that differ in spelling only.
- `Query.execute_entries`: entries in another spelling give the same answer.
- `Query.execute_respelt`: so do stores that are built from drafts in another spelling.
-/

namespace Directory

namespace Query

open Directory.Filter Directory.Filter.Node
open Store.Builder (Step advance)

section Entries

variable {s : Store} {entries : List Entry} (h : List.Forall₂ Entry.Respelt s.entries entries)
include h

theorem forall₂_located (ids : IdSet) :
    List.Forall₂ (fun p q => p.1 = q.1 ∧ p.2.Alike Eq q.2) (located s ids)
      (located { s with entries } ids) := by
  refine List.rel_filterMap (R := Eq) ?_ (List.forall₂_refl ids.ids)
  rintro i _ rfl
  dsimp only
  have hi := (Store.alike_respelt h).entries i
  generalize s.entry? i = x, Store.entry? { s with entries } i = x' at hi
  cases hi with
  | none => exact .none
  | some he => exact .some ⟨rfl, he⟩

theorem select_respelt (f : Filter) {l l' : List (Nat × Entry)}
    (hl : List.Forall₂ (fun p q => p.1 = q.1 ∧ p.2.Alike Eq q.2) l l') (m : Memory) :
    select s f l m = select { s with entries } f l' m := by
  refine select_congr (hl.imp ?_) m
  rintro ⟨i, e⟩ ⟨_, e'⟩ ⟨rfl, he⟩
  exact ⟨rfl, (Alike.refl f.root).eval_eq (Store.alike_respelt h) i he⟩

/-- Entries in another spelling give the same answer, found in the same way. -/
theorem execute_entries (f : Filter) (draws : Draws) :
    execute { s with entries } f draws = execute s f draws := by
  have hplan : plan { s with entries } f = plan s f := rfl
  have hsize : Store.size { s with entries } = s.size := h.length_eq.symm
  have hnumbered := forall₂_numbered (h.imp fun _ _ => Entry.Respelt.alike) 0
  have hscan : scan { s with entries } f draws = scan s f draws := by
    rw [scan, scan, numbered_eq, numbered_eq, select_respelt h f hnumbered]
  cases hdriving : (plan s f).driving with
  | none =>
    rw [execute_of_driving_eq_none hdriving, execute_of_driving_eq_none (hplan ▸ hdriving), hsize,
      hscan]
  | some c =>
    have hdriven : driven { s with entries } c = driven s c := rfl
    have hlocated := forall₂_located h (driven s c)
    rw [execute, execute, hplan, hdriving]
    dsimp only
    rw [hdriven, ← hlocated.length_eq, select_respelt h f hlocated]

end Entries

/-- **Spelling does not show.** If drafts give some integers as texts, the store is finished or
rejected as before. A finished one has the same names and indexes, and every filter has the same
answer, found in the same way and with the same draws, limits and random conditions included. -/
theorem execute_respelt {steps steps' : List Step} (h : List.Forall₂ Step.Respelt steps steps')
    (r : Registry) :
    let b := steps.foldl advance { registry := r }
    let b' := steps'.foldl advance { registry := r }
    (∀ err, b.build = .error err ↔ b'.build = .error err) ∧
    ∀ s, b.build = .ok s → ∃ s', b'.build = .ok s' ∧ s'.registry = s.registry ∧
      s'.indexes = s.indexes ∧ ∀ (named : Registry) (f : Filter) (draws : Draws),
        execute { s' with registry := named } f draws =
          execute { s with registry := named } f draws := by
  intro b b'
  obtain ⟨herror, hok⟩ := (Store.Builder.respelt_foldl h r).build
  refine ⟨herror, fun s hs => ?_⟩
  obtain ⟨entries, hs', hentries⟩ := hok s hs
  exact ⟨_, hs', rfl, rfl, fun named f draws =>
    execute_entries (s := { s with registry := named }) hentries f draws⟩

/-- Two entries with an integer each, of which the first is given as `v`. -/
def extremes (v : Value) : List Step :=
  [.call (.markIndexed "n"), .call (.add ⟨"CN=1", some ⟨1⟩, none, [("n", v)]⟩ ⟨0⟩),
   .call (.add ⟨"CN=2", some ⟨2⟩, none, [("n", .int Int64.maxValue)]⟩ ⟨0⟩)]

/-- The least integer, by its text and by its size, with an even chance. -/
def leastByChance : Node :=
  .all [.equalsFolded ⟨0⟩ "-9223372036854775808", .compare ⟨0⟩ .less 0, .random .less 50]

theorem execute_respelt_extremes :
    ∃ s s', ((extremes (.int Int64.minValue)).foldl advance { registry := .empty }).build = .ok s ∧
      ((extremes (.text "-9223372036854775808")).foldl advance { registry := .empty }).build =
        .ok s' ∧
      (execute s' (ofNode leastByChance) (Draws.ofList [])).1 =
        ⟨[0], .indexVerified ⟨0⟩ "-9223372036854775808" 1, 1⟩ := by
  have hvalues : RespeltAmong [("n", Value.int Int64.minValue)]
      [("n", .text "-9223372036854775808")] := .cons ⟨rfl, .text Int64.minValue⟩ .nil
  have hdraft := Draft.Respelt.values ⟨"CN=1", some ⟨1⟩, none, _⟩ hvalues
  have hsteps : List.Forall₂ Step.Respelt (extremes (.int Int64.minValue))
      (extremes (.text "-9223372036854775808")) :=
    .cons (.same _) (.cons (.add hdraft ⟨0⟩) (.cons (.same _) .nil))
  have hbuild : ((extremes (.int Int64.minValue)).foldl advance { registry := .empty }).build =
    .ok _ := rfl
  obtain ⟨-, hok⟩ := execute_respelt hsteps .empty
  obtain ⟨s', hs', hregistry, -, hsame⟩ := hok _ hbuild
  refine ⟨_, s', hbuild, hs', ?_⟩
  have hexecute := hsame s'.registry (ofNode leastByChance) (Draws.ofList [])
  rw [show { s' with registry := s'.registry } = s' from rfl] at hexecute
  rw [hexecute, hregistry]
  decide +kernel

end Query

end Directory
