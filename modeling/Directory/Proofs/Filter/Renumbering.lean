import Directory.Proofs.Filter.Alike
import Directory.Proofs.Filter.Stateless

/-!
# Entries under other numbers

Limits and random conditions aside, an answer depends neither on how entries are numbered nor on the
order in which edges are followed.

- `Filter.Node.Alike.holds_eq`: on stores that differ in these only, conditions that are alike hold
  of the same entries; the induction goes through groups and along edges.
-/

namespace Directory.Filter.Node

variable {R : Attribute → Attribute → Prop} {ren : Nat → Nat} {s s' : Store}

/-- The edges at an entry by a method lead to the same entries. -/
theorem edgesBy_perm (hs : s.Permuted R ren s') (d : Direction) (m : Option AttackMethod)
    (id : Nat) : ((edgesBy s d m id).map (Edge.renumber ren)).Perm (edgesBy s' d m (ren id)) := by
  have hkept : (edgesBy s d m id).map (Edge.renumber ren) =
      ((s.edgesAt d id).map (Edge.renumber ren)).filter fun e => m.all (· == e.method) := by
    rw [edgesBy, List.filter_map]
    rfl
  rw [hkept]
  exact (hs.edges d id).filter _

mutual

/-- On stores whose entries are numbered differently, conditions that are alike hold of the same
entries. -/
theorem Alike.holds_eq (hs : s.Permuted R ren s') : ∀ {n n' : Node}, n.Alike R n' →
    n.hasLimit = false → n.hasRandom = false → ∀ (id : Nat) {e e' : Entry}, e.Alike R e' →
      n.holds s id e = n'.holds s' (ren id) e'
  | _, _, .attribute hn hab, _, _, id, _, _, he => by
    rw [holds, holds, eval_on hs.toRenumbered hn hab id he]
  | _, _, .all h, hl, hr, id, _, _, he => by
    have hl' := h.hasLimitAmong_eq.symm.trans hl
    have hr' := h.hasRandomAmong_eq.symm.trans hr
    rw [holds_all s hl hr, holds_all s' hl' hr', (h.holds_eq hs hl hr id he).1]
  | _, _, .any h, hl, hr, id, _, _, he => by
    have hl' := h.hasLimitAmong_eq.symm.trans hl
    have hr' := h.hasRandomAmong_eq.symm.trans hr
    rw [holds_any s hl hr, holds_any s' hl' hr', (h.holds_eq hs hl hr id he).2]
  | _, _, .not h, hl, hr, id, _, _, he => by
    rw [holds_not, holds_not, h.holds_eq hs hl hr id he]
  | _, _, .limit _ _, hl, _, _, _, _, _ => nomatch hl
  | _, _, .random _ _, _, hr, _, _, _, _ => nomatch hr
  | _, _, .edge d m, _, _, id, _, _, _ => by
    show (!(edgesBy s d m id).isEmpty) = !(edgesBy s' d m (ren id)).isEmpty
    rw [← (edgesBy_perm hs d m id).isEmpty_eq, List.isEmpty_map]
  | _, _, .edgeTo d m (t := t) (u := u) h, hl, hr, id, _, _, _ => by
    have hl' := h.hasLimit_eq.symm.trans hl
    have hr' := h.hasRandom_eq.symm.trans hr
    rw [holds_edgeTo s d m (t := t) hl hr, holds_edgeTo s' d m hl' hr',
      ← (edgesBy_perm hs d m id).any_eq, List.any_map]
    refine congrArg (List.any _) (funext fun x => ?_)
    rw [Function.comp_apply, Edge.far_renumber]
    have hfar := hs.entries (x.far d)
    generalize s.entry? (x.far d) = y, s'.entry? (ren (x.far d)) = y' at hfar
    cases hfar with
    | none => rw [Option.any_none, Option.any_none]
    | some hf => exact h.holds_eq hs hl hr (x.far d) hf

theorem AlikeAmong.holds_eq (hs : s.Permuted R ren s') : ∀ {cs ds : List Node},
    AlikeAmong R cs ds → hasLimitAmong cs = false → hasRandomAmong cs = false →
      ∀ (id : Nat) {e e' : Entry}, e.Alike R e' →
        (cs.all fun c => c.holds s id e) = (ds.all fun c => c.holds s' (ren id) e') ∧
          (cs.any fun c => c.holds s id e) = (ds.any fun c => c.holds s' (ren id) e')
  | _, _, .nil, _, _, _, _, _, _ => by
    -- the conditions must not be compared, their evaluation would be unfolded
    rw [List.all_nil, List.all_nil, List.any_nil, List.any_nil]
    exact ⟨rfl, rfl⟩
  | _, _, .cons h hcs, hl, hr, id, _, _, he => by
    rw [hasLimitAmong, Bool.or_eq_false_iff] at hl
    rw [hasRandomAmong, Bool.or_eq_false_iff] at hr
    have hfirst := h.holds_eq hs hl.1 hr.1 id he
    obtain ⟨hall, hany⟩ := hcs.holds_eq hs hl.2 hr.2 id he
    constructor
    · rw [List.all_cons, List.all_cons, hfirst, hall]
    · rw [List.any_cons, List.any_cons, hfirst, hany]

end

end Directory.Filter.Node
