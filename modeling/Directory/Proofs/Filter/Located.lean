import Directory.Proofs.Filter.Places

/-!
# Where faults are found

Reading by positions never goes astray. It comes to the same as reading with the rest of the text
at hand, so each offset that is reported is a place in the text. The condition at the end of an edge
is a slice of the text, and what is wrong with it is wrong with it alone.

- `Filter.Source.Contains`: whether a text is a slice of another, where it is said to be.
- `Filter.Source.FailsAlone`: whether it is rejected by itself as it is within the other.
- `Filter.Source.mirrors_query`: a condition is read in both ways alike.
- `Filter.read_located`: so are whole texts.
-/

namespace Directory.Filter

/-! ## Slices -/

/-- Whether a text is a slice of another, and stands where it is said to. -/
def Source.Contains (v w : Source) : Prop :=
  ∃ before after, v.text = before ++ (w.text ++ after) ∧ w.base = v.base + byteLength before

/-- Whether a rejection is the one that the condition at the end of an edge gets if it is read by
itself, moved to where the condition stands. -/
def Source.FailsAlone [Regex.Properties] (w : Source) (e : Rejection) : Prop :=
  ∃ e' : Rejection, e = e'.shift w.base ∧
    ∀ fuel r slot, 3 * w.text.length + 1 ≤ fuel →
      ∃ r', target fuel ⟨⟨w.text, 0⟩, r, slot⟩ = .error ⟨e', r'⟩

theorem Rejection.shift_injective {d : Nat} {e e' : Rejection} (h : e.shift d = e'.shift d) :
    e = e' := by
  obtain ⟨hfault, hoffset⟩ := Rejection.mk.inj h
  exact congrArg₂ Rejection.mk hfault (Nat.add_right_cancel hoffset)

namespace Source

variable {u v w : Source}

theorem Contains.refl (v : Source) : v.Contains v :=
  ⟨[], [], by simp, rfl⟩

theorem Contains.trans (h : u.Contains v) (h' : v.Contains w) : u.Contains w := by
  obtain ⟨before, after, htext, hbase⟩ := h
  obtain ⟨before', after', htext', hbase'⟩ := h'
  refine ⟨before ++ before', after' ++ after, ?_, ?_⟩
  · rw [htext, htext']
    simp
  · rw [hbase', hbase, byteLength_append, Nat.add_assoc]

/-- A place in a slice is one in the text. -/
theorem Contains.has (h : v.Contains w) {offset : Nat} (ho : w.Has offset) : v.Has offset := by
  obtain ⟨before, after, htext, hbase⟩ := h
  obtain ⟨pos, rest, hoffset, front, hfront, hpos⟩ := ho
  refine ⟨byteLength before + pos, rest ++ after, ?_, before ++ front, ?_, ?_⟩
  · dsimp only at hoffset ⊢
    rw [hoffset, hbase, Nat.add_assoc]
  · rw [htext, hfront]
    simp
  · rw [byteLength_append, hpos]

/-- The condition at the end of an edge is a slice. -/
theorem contains_target {t : Term} (h : t.Placed v) {e : Direction} {m : Option AttackMethod}
    {target : Nat × List Char} (hspecial : t.special = .ok (.edge e m (some target))) :
    v.Contains ⟨target.2, target.1⟩ := by
  obtain ⟨-, hname, -, word, -, -, ⟨-, hnone⟩ | ⟨text, hvalue, htarget⟩⟩ :=
    Term.special_eq_edge.mp hspecial
  · exact nomatch hnone
  · obtain rfl := Option.some.inj htarget
    obtain ⟨pos, rest, hoffset, front, htext, hpos⟩ :=
      h.verbatim (by rw [hname]; exact Term.holdsCondition_directionWord e)
    have hcomma : byteLength (word ++ [',']) = byteLength word + 1 := by
      rw [byteLength_append]
      rfl
    refine ⟨front ++ (word ++ [',']), ')' :: rest, ?_, ?_⟩
    · rw [htext, hvalue]
      simp
    · dsimp only at hoffset ⊢
      rw [hoffset, byteLength_append, hcomma, hpos]
      omega

/-- A condition at the end of an edge that is rejected where it stands is rejected by itself,
too. -/
theorem failsAlone_of_target [Regex.Properties] {fuel : Nat} {r : Registry} {slot : Nat}
    {e : Failure} (hfuel : 3 * w.text.length + 1 ≤ fuel)
    (h : target fuel ⟨⟨w.text, w.base⟩, r, slot⟩ = .error e) : w.FailsAlone e.rejection := by
  have hcursor : (⟨w.text, w.base⟩ : Cursor) = Cursor.shift w.base ⟨w.text, 0⟩ :=
    congrArg (Cursor.mk _) (Nat.zero_add _).symm
  have halone : ∀ fuel' r' slot', 3 * w.text.length + 1 ≤ fuel' →
      ∃ e' r'', e.rejection = e'.shift w.base ∧
        target fuel' ⟨⟨w.text, 0⟩, r', slot'⟩ = .error ⟨e', r''⟩ := by
    intro fuel' r' slot' hfuel'
    have hshifted := shifted_target (d := w.base) fuel' fuel ⟨⟨w.text, 0⟩, r', slot'⟩ r slot hfuel'
      hfuel
    rw [hcursor] at h
    rw [h] at hshifted
    generalize target fuel' ⟨⟨w.text, 0⟩, r', slot'⟩ = x at hshifted
    cases hshifted with
    | error => exact ⟨_, _, rfl, rfl⟩
  obtain ⟨e', -, he, -⟩ := halone _ r slot hfuel
  refine ⟨e', he, fun fuel' r' slot' hfuel' => ?_⟩
  obtain ⟨e'', r'', he', halone⟩ := halone fuel' r' slot' hfuel'
  obtain rfl := Rejection.shift_injective (he.symm.trans he')
  exact ⟨r'', halone⟩

section Steps

variable {pos offset : Nat} {c : Char} {l : List Char} {r : Registry} {slot : Nat}

theorem Sees.skip (h : v.Sees pos ⟨c :: l, offset⟩) :
    v.skip ⟨pos, r, slot⟩ = .ok ⟨pos + c.utf8Size, r, slot⟩ := by
  rw [Source.skip, h.bump_cons]
  rfl

theorem Sees.openAt (h : v.Sees pos ⟨'(' :: l, offset⟩) :
    v.openAt ⟨pos, r, slot⟩ = .ok ⟨pos + 1, r, slot⟩ := by
  rw [Source.openAt, h.peek]
  exact h.skip

end Steps

end Source

/-! ## Offsets -/

theorem byteLength_eq_utf8ByteSize (l : List Char) :
    byteLength l = (String.ofList l).utf8ByteSize := by
  induction l with
  | nil => rfl
  | cons c l ih =>
    have hone : (String.ofList [c]).utf8ByteSize = c.utf8Size := by
      rw [← String.singleton_eq_ofList, String.utf8ByteSize_singleton]
    rw [byteLength_cons, ih, ← hone, ← String.utf8ByteSize_append, ← String.ofList_append]
    rfl

/-- A place in the text is an offset between two of its characters. -/
theorem isValid_of_has {text : String} {offset : Nat} (h : (⟨text.toList, 0⟩ : Source).Has offset) :
    String.Pos.Raw.IsValid text ⟨offset⟩ := by
  obtain ⟨pos, rest, hoffset, front, htext, hpos⟩ := h
  refine String.Pos.Raw.isValid_iff_exists_append.mpr
    ⟨String.ofList front, String.ofList rest, ?_, ?_⟩
  · rw [← String.ofList_append, ← htext, String.ofList_toList]
  · refine String.Pos.Raw.ext ?_
    rw [String.byteIdx_rawEndPos, ← byteLength_eq_utf8ByteSize, hpos]
    exact hoffset.trans (Nat.zero_add _)

/-! ## Conditions -/

section Reading

variable [Regex.Properties]

/-- Whether a step of a reading by positions goes the way it goes with the rest at hand. It succeeds
with the same result where the rest is seen, or it fails for the same reason at a place in the text.
The conditions at the ends of edges in which the fault was found are slices of the text, and each of
them fails by itself. -/
inductive Source.Mirrors (v : Source) {α : Type} :
    Except (Stop Located) (α × Standing) → Except Failure (α × State) → Prop where
  | ok {a : α} {pos : Nat} {k : Cursor} {r : Registry} {slot : Nat} :
      v.Sees pos k → Mirrors v (.ok (a, ⟨pos, r, slot⟩)) (.ok (a, ⟨k, r, slot⟩))
  | rejected {e : Failure} {within : List Source} :
      v.Has e.rejection.offset →
      (∀ w ∈ within, v.Contains w ∧ w.FailsAlone e.rejection) →
      Mirrors v (.error (.rejected ⟨e, within⟩)) (.error e)

namespace Source

variable {v : Source}

section Mirrors

variable {α β : Type}

theorem Mirrors.bind {x : Except (Stop Located) (α × Standing)} {y : Except Failure (α × State)}
    {f : α × Standing → Except (Stop Located) (β × Standing)}
    {g : α × State → Except Failure (β × State)} (h : v.Mirrors x y)
    (hf : ∀ a pos k r slot, y = .ok (a, ⟨k, r, slot⟩) → v.Sees pos k →
      v.Mirrors (f (a, ⟨pos, r, slot⟩)) (g (a, ⟨k, r, slot⟩))) :
    v.Mirrors (x >>= f) (y >>= g) := by
  cases h with
  | ok hsees => exact hf _ _ _ _ _ rfl hsees
  | rejected he hwithin => exact .rejected he hwithin

theorem Mirrors.map {x : Except (Stop Located) (α × Standing)} {y : Except Failure (α × State)}
    (h : v.Mirrors x y) (f : α → β) :
    v.Mirrors (x >>= fun p => .ok (f p.1, p.2)) (y >>= fun p => .ok (f p.1, p.2)) :=
  h.bind fun _ _ _ _ _ _ hsees => .ok hsees

theorem mirrors_stopWith {e : Rejection} (h : v.Has e.offset) (r : Registry) :
    v.Mirrors (stopWith e r : Except (Stop Located) (α × Standing)) (.error ⟨e, r⟩) :=
  .rejected h nofun

variable {pos : Nat} {k : Cursor} {r : Registry} {slot : Nat}

theorem mirrors_fail (h : v.Sees pos k) (fault : Fault) :
    v.Mirrors (v.fail ⟨pos, r, slot⟩ fault : Except (Stop Located) (α × Standing))
      (State.fail ⟨k, r, slot⟩ fault) := by
  rw [Source.fail, ← h.offset]
  exact mirrors_stopWith h.has r

/-- What was read may be followed by a parenthesis. -/
theorem mirrors_close (h : v.Sees pos k) (a : α) :
    v.Mirrors (v.closeAt ⟨pos, r, slot⟩ >>= fun s => .ok (a, s))
      (State.close ⟨k, r, slot⟩ >>= fun s => .ok (a, s)) := by
  obtain ⟨l, offset⟩ := k
  rw [Source.closeAt, h.peek, State.close]
  cases l with
  | nil => exact mirrors_fail h _
  | cons c l =>
    show v.Mirrors ((if some c = some ')' then _ else _) >>= _) _
    by_cases hc : c = ')'
    · subst hc
      rw [if_pos rfl, h.skip]
      exact .ok h.next
    · rw [if_neg fun heq => hc (Option.some.inj heq)]
      dsimp only
      split
      · next heq => exact absurd (List.cons.inj heq).1 hc
      · next heq =>
        obtain ⟨rfl, rfl⟩ := List.cons.inj heq
        exact mirrors_fail h _
      · next heq => exact absurd heq (List.cons_ne_nil _ _)

theorem Mirrors.close {x : Except (Stop Located) (α × Standing)} {y : Except Failure (α × State)}
    (h : v.Mirrors x y) (f : α → β) :
    v.Mirrors (x >>= fun p => v.closeAt p.2 >>= fun s => .ok (f p.1, s))
      (y >>= fun p => p.2.close >>= fun s => .ok (f p.1, s)) :=
  h.bind fun a _ _ _ _ _ hsees => mirrors_close hsees (f a)

/-- A condition at the end of an edge is noted as one in which a fault was found. -/
theorem Mirrors.inside {x : Except (Stop Located) (α × Standing)}
    {y : Except Failure (α × State)} (h : v.Mirrors x y)
    (halone : ∀ e, y = .error e → v.FailsAlone e.rejection) :
    v.Mirrors (x.mapError (Stop.inside v)) y := by
  cases h with
  | ok h => exact .ok h
  | rejected he hwithin =>
    refine .rejected he fun w hw => ?_
    rcases List.mem_cons.mp hw with rfl | hw
    · exact ⟨.refl _, halone _ rfl⟩
    · exact hwithin w hw

end Mirrors

mutual

/-- A condition is read by positions as it is read with the rest at hand. -/
theorem mirrors_query : ∀ (fuel : Nat) {v : Source} {pos : Nat} {k : Cursor} (r : Registry)
    (slot : Nat), 3 * k.rest.length ≤ fuel → v.Sees pos k →
      v.Mirrors (queryAt fuel v ⟨pos, r, slot⟩) (query fuel ⟨k, r, slot⟩)
  | 0, _, _, _, _, _, _, h => mirrors_fail h _
  | fuel + 1, v, pos, ⟨l, offset⟩, r, slot, hfuel, h => by
    rw [queryAt, query]
    dsimp only at hfuel ⊢
    split
    · next l =>
      have hnext : v.Sees (pos + 1) ⟨l, offset + 1⟩ := h.next
      rw [h.openAt]
      show v.Mirrors (v.peek (pos + 1) >>= _) _
      rw [hnext.peek]
      rw [List.length_cons] at hfuel
      split
      · exact mirrors_fail hnext _
      · exact (mirrors_query fuel r slot (by dsimp only; omega) hnext).close id
      · next m =>
        show v.Mirrors (v.skip ⟨pos + 1, r, slot⟩ >>= _) _
        rw [hnext.skip]
        rw [List.length_cons] at hfuel
        exact (mirrors_group fuel r slot (by dsimp only; omega) hnext.next).map _
      · next m =>
        show v.Mirrors (v.skip ⟨pos + 1, r, slot⟩ >>= _) _
        rw [hnext.skip]
        rw [List.length_cons] at hfuel
        exact (mirrors_group fuel r slot (by dsimp only; omega) hnext.next).map _
      · next m =>
        show v.Mirrors (v.skip ⟨pos + 1, r, slot⟩ >>= _) _
        rw [hnext.skip]
        rw [List.length_cons] at hfuel
        exact (mirrors_query fuel r slot (by dsimp only; omega) hnext.next).close _
      · next hnil hopen hall hany hnot =>
        cases l with
        | nil => exact absurd rfl hnil
        | cons c m =>
          show v.Mirrors (if c = '(' then _ else if c = '&' then _ else if c = '|' then _ else
            if c = '!' then _ else _) _
          rw [if_neg fun hc : c = '(' => hopen m (hc ▸ rfl),
            if_neg fun hc : c = '&' => hall m (hc ▸ rfl),
            if_neg fun hc : c = '|' => hany m (hc ▸ rfl),
            if_neg fun hc : c = '!' => hnot m (hc ▸ rfl)]
          exact mirrors_condition fuel r slot (by dsimp only; omega) hnext
    · next hopen =>
      have hhead : l.head? ≠ some '(' := by
        intro hhead
        obtain ⟨m, hm⟩ := List.head?_eq_some_iff.mp hhead
        exact hopen m hm
      rw [Source.openAt, h.peek]
      show v.Mirrors ((if l.head? = some '(' then _ else _) >>= _) _
      rw [if_neg hhead]
      exact mirrors_fail h _

theorem mirrors_group : ∀ (fuel : Nat) {v : Source} {pos : Nat} {k : Cursor} (r : Registry)
    (slot : Nat), 3 * k.rest.length + 2 ≤ fuel → v.Sees pos k →
      v.Mirrors (groupAt fuel v ⟨pos, r, slot⟩) (group fuel ⟨k, r, slot⟩)
  | 0, _, _, _, _, _, hfuel, _ => absurd hfuel (by omega)
  | fuel + 1, v, pos, k, r, slot, hfuel, h => by
    rw [groupAt, group]
    refine (mirrors_queries fuel r slot (by omega) h).bind fun ns pos' k' r' slot' _ h' => ?_
    dsimp only
    rw [h'.peek]
    show v.Mirrors (if k'.rest.head? = some ')' ∧ ns = [] then _ else _) _
    split
    · next hempty =>
      obtain ⟨hhead, rfl⟩ := hempty
      obtain ⟨m, hm⟩ := List.head?_eq_some_iff.mp hhead
      rw [hm]
      exact mirrors_fail h _
    · next hother =>
      cases ns with
      | cons n ns => exact mirrors_close h' _
      | nil =>
        split
        · next hrest => exact absurd ⟨congrArg List.head? hrest, rfl⟩ hother
        · exact mirrors_close h' _

theorem mirrors_queries : ∀ (fuel : Nat) {v : Source} {pos : Nat} {k : Cursor} (r : Registry)
    (slot : Nat), 3 * k.rest.length + 1 ≤ fuel → v.Sees pos k →
      v.Mirrors (queriesAt fuel v ⟨pos, r, slot⟩) (queries fuel ⟨k, r, slot⟩)
  | 0, _, _, _, _, _, hfuel, _ => absurd hfuel (by omega)
  | fuel + 1, v, pos, ⟨l, offset⟩, r, slot, hfuel, h => by
    rw [queriesAt, queries, h.peek]
    show v.Mirrors (if l.head? = some '(' then _ else _) _
    dsimp only at hfuel ⊢
    split
    · next hhead =>
      obtain ⟨m, rfl⟩ := List.head?_eq_some_iff.mp hhead
      refine (mirrors_query fuel r slot (by dsimp only; omega) h).bind
        fun n pos' k' r' slot' hread h' => ?_
      -- the first condition has used up what the others need less
      have hlength := length_of_query hread
      dsimp only at hlength
      exact (mirrors_queries fuel r' slot' (by omega) h').map _
    · next hhead =>
      split
      · exact absurd rfl hhead
      · exact .ok h

/-- The same goes for a term. -/
theorem mirrors_condition : ∀ (fuel : Nat) {v : Source} {pos : Nat} {k : Cursor} (r : Registry)
    (slot : Nat), 3 * k.rest.length ≤ fuel → v.Sees pos k →
      v.Mirrors (conditionAt fuel v ⟨pos, r, slot⟩) (term fuel ⟨k, r, slot⟩)
  | 0, _, _, _, _, _, _, h => mirrors_fail h _
  | fuel + 1, v, pos, k, r, slot, hfuel, h => by
    rw [conditionAt, term]
    have hterm := keeps_termAt h
    dsimp only
    generalize v.termAt pos = x, hread : Term.read k = y at hterm
    cases hterm with
    | rejected he => exact .rejected he nofun
    | @ok t pos' k' ht h' =>
      show v.Mirrors (if t.isSpecial then _ else _) _
      dsimp only
      split
      · next hspecial =>
        cases hmeans : t.special with
        | error e => exact mirrors_stopWith (ht.special e hmeans) r
        | ok special =>
          cases special with
          | limit max => exact .ok h'
          | random c n => exact .ok h'
          | edge e m target =>
            cases target with
            | none => exact .ok h'
            | some target =>
              have hlength := Term.length_target_of_read hread hmeans
              have hcontains := contains_target ht hmeans
              have htarget := mirrors_target fuel (w := ⟨target.2, target.1⟩) r slot
                (by dsimp only; omega)
              show v.Mirrors (targetAt fuel ⟨target.2, target.1⟩ ⟨0, r, slot⟩ >>= _)
                (Filter.target fuel ⟨⟨target.2, target.1⟩, r, slot⟩ >>= _)
              generalize targetAt fuel ⟨target.2, target.1⟩ ⟨0, r, slot⟩ = x,
                Filter.target fuel ⟨⟨target.2, target.1⟩, r, slot⟩ = y at htarget
              -- what is found in a slice is found in the text
              cases htarget with
              | ok => exact .ok h'
              | rejected he hwithin =>
                exact .rejected (hcontains.has he) fun w hw =>
                  ⟨hcontains.trans (hwithin w hw).1, (hwithin w hw).2⟩
      · next hordinary =>
        have hcondition : v.Mirrors (match t.condition r with
            | (.error e, r) => stopWith e r
            | (.ok n, r) => .ok (n, ⟨pos', r, slot⟩))
          (match t.condition r with
            | (.error e, r) => .error ⟨e, r⟩
            | (.ok n, r) => .ok (n, ⟨k', r, slot⟩)) := by
          have hcovers := ht.condition r
          cases hmeans : t.condition r with
          | mk x r' =>
            rw [hmeans] at hcovers
            cases x with
            | error e => exact mirrors_stopWith (hcovers e rfl) r'
            | ok n => exact .ok h'
        split
        · next hregex =>
          rw [betweenSlashes_of_isRegex hregex]
          exact hcondition
        · exact hcondition

theorem mirrors_target : ∀ (fuel : Nat) {w : Source} (r : Registry) (slot : Nat),
    3 * w.text.length + 1 ≤ fuel →
      w.Mirrors (targetAt fuel w ⟨0, r, slot⟩) (target fuel ⟨⟨w.text, w.base⟩, r, slot⟩)
  | 0, _, _, _, hfuel => absurd hfuel (by omega)
  | fuel + 1, w, r, slot, hfuel => by
    have hstart : w.Sees 0 ⟨w.text, w.base⟩ := ⟨rfl, [], rfl, rfl⟩
    rw [targetAt]
    generalize htarget : target (fuel + 1) ⟨⟨w.text, w.base⟩, r, slot⟩ = y
    refine Mirrors.inside (y := y) ?_ fun e he => failsAlone_of_target hfuel (htarget.trans he)
    rw [← htarget, target]
    dsimp only
    by_cases hshort : byteLength w.text < leastBytes
    · rw [if_pos hshort, if_pos hshort]
      exact mirrors_fail hstart _
    · rw [if_neg hshort, if_neg hshort]
      refine (mirrors_query fuel r slot (by dsimp only; omega) hstart).bind
        fun n pos k r' slot' _ h => ?_
      dsimp only
      obtain ⟨front, htext, hpos⟩ := h.splits
      have hlength : byteLength w.text = pos + byteLength k.rest := by
        rw [htext, byteLength_append, hpos]
      split
      · next hpos =>
        have hrest : k.rest ≠ [] := by
          intro hnil
          rw [hlength, hnil] at hpos
          exact absurd hpos (by simp [byteLength])
        rw [h.rest]
        obtain ⟨c, l, hl⟩ := List.exists_cons_of_ne_nil hrest
        rw [hl]
        exact mirrors_fail h _
      · next hpos =>
        have hrest : k.rest = [] := by
          rw [← byteLength_eq_zero]
          omega
        rw [hrest]
        exact .ok h

end

end Source

/-! ## Whole texts -/

/-- Whether reading a text by positions comes to the same as reading it with the rest at hand. If it
is rejected, then at an offset within the text and between two characters. The conditions at the
ends of edges in which the fault was found are slices of the text, each begins where it is said to,
and each fails by itself in the same way, its start being offset zero. -/
def Follows {α : Type} (text : String) (x : Except (Stop Located) (α × Registry))
    (y : Reading α) : Prop :=
  match y.outcome with
  | .ok a => x = .ok (a, y.registry)
  | .error e =>
    e.offset ≤ text.utf8ByteSize ∧ String.Pos.Raw.IsValid text ⟨e.offset⟩ ∧
      ∃ within, x = .error (.rejected ⟨⟨e, y.registry⟩, within⟩) ∧ ∀ w ∈ within,
        (∃ before after : String, text = before ++ String.ofList w.text ++ after ∧
          before.utf8ByteSize = w.base) ∧ w.FailsAlone e

section Follows

variable {α : Type} {text : String}

theorem follows_error {e : Rejection} {r : Registry} {within : List Source}
    (h : (⟨text.toList, 0⟩ : Source).Has e.offset)
    (hwithin : ∀ w ∈ within, (⟨text.toList, 0⟩ : Source).Contains w ∧ w.FailsAlone e) :
    Follows text (.error (.rejected ⟨⟨e, r⟩, within⟩) : Except _ (α × Registry)) ⟨.error e, r⟩ := by
  have hvalid := isValid_of_has h
  refine ⟨hvalid.le_rawEndPos, hvalid, within, rfl, fun w hw => ⟨?_, (hwithin w hw).2⟩⟩
  obtain ⟨before, after, htext, hbase⟩ := (hwithin w hw).1
  refine ⟨String.ofList before, String.ofList after, ?_, ?_⟩
  · rw [← String.ofList_append, ← String.ofList_append, List.append_assoc, ← htext,
      String.ofList_toList]
  · rw [← byteLength_eq_utf8ByteSize, hbase]
    exact (Nat.zero_add _).symm

theorem follows_readStart (r : Registry) (text : String) :
    Follows text (slicedReadStart r text) (readStart r text) := by
  have hstart : (⟨text.toList, 0⟩ : Source).Sees 0 ⟨text.toList, 0⟩ := ⟨rfl, [], rfl, rfl⟩
  rw [slicedReadStart, readStart]
  dsimp only
  split
  · exact follows_error hstart.has nofun
  · split
    · exact follows_error hstart.has nofun
    · split
      · have hend : (⟨text.toList, 0⟩ : Source).Sees (byteLength text.toList)
            ⟨[], byteLength text.toList⟩ :=
          ⟨(Nat.zero_add _).symm, text.toList, (List.append_nil _).symm, rfl⟩
        exact follows_error hend.has nofun
      · have hquery := Source.mirrors_query (3 * text.toList.length) r 0 (Nat.le_refl _) hstart
        generalize queryAt (3 * text.toList.length) ⟨text.toList, 0⟩ ⟨0, r, 0⟩ = x,
          query (3 * text.toList.length) ⟨⟨text.toList, 0⟩, r, 0⟩ = y at hquery
        cases hquery with
        | @ok n pos k r' slot h =>
          show (Source.rest ⟨text.toList, 0⟩ pos >>= fun rest => .ok ((ofNode n, rest), r')) =
            Except.ok ((ofNode n, k.rest), r')
          rw [h.rest]
          rfl
        | rejected he hwithin => exact follows_error he hwithin

theorem follows_read (r : Registry) (text : String) :
    Follows text (slicedRead r text) (read r text) := by
  have hstart := follows_readStart r text
  rw [slicedRead, read]
  generalize slicedReadStart r text = x, hy : readStart r text = y at hstart
  obtain ⟨outcome, r'⟩ := y
  cases outcome with
  | error e =>
    obtain ⟨hle, hvalid, within, rfl, hwithin⟩ := hstart
    exact ⟨hle, hvalid, within, rfl, hwithin⟩
  | ok p =>
    obtain ⟨f, rest⟩ := p
    obtain rfl : x = .ok ((f, rest), r') := hstart
    cases rest with
    | nil => rfl
    | cons c rest =>
      obtain ⟨-, -, -, d, htext, -⟩ := readStart_eq_ok.mp hy
      -- what follows the filter begins where the filter ends
      have hoffset : byteLength text.toList - byteLength (c :: rest) = byteLength d.text := by
        rw [htext, byteLength_append, Nat.add_sub_cancel]
      have hplace : (⟨text.toList, 0⟩ : Source).Sees (byteLength d.text)
          ⟨c :: rest, byteLength d.text⟩ :=
        ⟨(Nat.zero_add _).symm, d.text, htext, rfl⟩
      show Follows text (stopWith ⟨.trailing (String.ofList (c :: rest)), _⟩ r')
        ⟨.error ⟨.trailing (String.ofList (c :: rest)), _⟩, r'⟩
      rw [hoffset]
      exact follows_error hplace.has nofun

end Follows

/-- **Offsets.** Reading by positions never cuts a text outside of it or inside a character, and
comes to the same as reading with the rest at hand, whether only the start of a text is to be a
filter or all of it. So an offset that is reported is one within the text and between two
characters. A fault within conditions at the ends of edges, one inside the other, is the one that
each of them has by itself, and each is a slice of the text. -/
theorem read_located (r : Registry) (text : String) :
    Follows text (slicedReadStart r text) (readStart r text) ∧
      Follows text (slicedRead r text) (read r text) :=
  ⟨follows_readStart r text, follows_read r text⟩

end Reading

/-- A fault in a condition within a condition, after a character of two bytes. -/
example : (match slicedRead .empty "(_canpwn=*,(|(é=1)(_pwnable=,(a<x))))" with
    | .error (.rejected e) => some (e.failure.rejection.offset, e.within.map (·.base))
    | _ => none) = some (33, [11, 30]) := by
  decide +kernel

end Directory.Filter
