import Directory.Proofs.Filter.Slicing

/-!
# Places in a text

A reader at a byte position of a text and a cursor that carries the rest of it along say the same as
long as the position is between two characters. The parts of a term are cut out by positions as they
are cut off the rest, and a term that is refused is refused at a place in the text.

- `Filter.cut?_eq_some`: what it is to cut a text at a byte position.
- `Filter.Source.Sees`: whether a position and a cursor say the same. `Filter.Source.Has`: whether
  an offset is that of a place in the text.
- `Filter.Source.keeps_termAt`: the parts of a term are cut out in both ways alike.
- `Filter.Term.Placed.condition`, `Filter.Term.Placed.special`: where terms are refused.
-/

namespace Directory.Filter

/-! ## Cuts -/

theorem byteLength_eq_zero {l : List Char} : byteLength l = 0 ↔ l = [] := by
  cases l with
  | nil => simp [byteLength]
  | cons c l =>
    have hpos := c.utf8Size_pos
    simp only [byteLength_cons, reduceCtorEq, iff_false]
    omega

theorem cut?_eq_some {n : Nat} {l front rest : List Char} :
    cut? n l = some (front, rest) ↔ l = front ++ rest ∧ byteLength front = n := by
  fun_induction cut? n l generalizing front with
  | case1 l =>
    rw [byteLength_eq_zero, Option.some.injEq, Prod.mk.injEq]
    constructor
    · rintro ⟨rfl, rfl⟩
      exact ⟨rfl, rfl⟩
    · rintro ⟨rfl, rfl⟩
      exact ⟨rfl, rfl⟩
  | case2 n =>
    refine ⟨fun h => (nomatch h), fun ⟨hnil, hlength⟩ => ?_⟩
    rw [(List.append_eq_nil_iff.mp hnil.symm).1] at hlength
    exact nomatch hlength
  | case3 n c l hle ih =>
    rw [Option.map_eq_some_iff]
    constructor
    · rintro ⟨⟨front', rest'⟩, hcut, heq⟩
      obtain ⟨rfl, rfl⟩ := Prod.mk.inj heq
      obtain ⟨rfl, hlength⟩ := ih.mp hcut
      exact ⟨rfl, by rw [byteLength_cons, hlength]; omega⟩
    · rintro ⟨hl, hlength⟩
      cases front with
      | nil => exact nomatch hlength
      | cons d front =>
        obtain ⟨rfl, htail⟩ := List.cons.inj hl
        rw [byteLength_cons] at hlength
        exact ⟨(front, rest), ih.mpr ⟨htail, by omega⟩, rfl⟩
  | case4 n c l hnot =>
    refine ⟨fun h => (nomatch h), fun ⟨hl, hlength⟩ => ?_⟩
    cases front with
    | nil => exact nomatch hlength
    | cons d front =>
      obtain ⟨rfl, -⟩ := List.cons.inj hl
      rw [byteLength_cons] at hlength
      omega

/-- Whether a reader at a position of a text sees what a cursor says. -/
structure Source.Sees (v : Source) (pos : Nat) (k : Cursor) : Prop where
  /-- The offset counts what stands before the text as well. -/
  offset : k.offset = v.base + pos
  /-- The rest is that from the position on. -/
  splits : ∃ front, v.text = front ++ k.rest ∧ byteLength front = pos

/-- Whether an offset is that of a place in the text. -/
def Source.Has (v : Source) (offset : Nat) : Prop :=
  ∃ pos rest, v.Sees pos ⟨rest, offset⟩

namespace Source.Sees

variable {ε : Type} {v : Source} {pos offset : Nat} {k : Cursor} {c : Char} {l : List Char}

theorem has (h : v.Sees pos k) : v.Has k.offset :=
  ⟨pos, k.rest, h⟩

theorem rest (h : v.Sees pos k) : v.rest pos = (.ok k.rest : Except (Stop ε) _) := by
  obtain ⟨front, hfront⟩ := h.splits
  rw [Source.rest, cut?_eq_some.mpr hfront]

theorem peek (h : v.Sees pos k) : v.peek pos = (.ok k.rest.head? : Except (Stop ε) _) := by
  rw [Source.peek, h.rest]
  rfl

theorem bump_cons (h : v.Sees pos ⟨c :: l, offset⟩) :
    v.bump pos = (.ok (some c, pos + c.utf8Size) : Except (Stop ε) _) := by
  rw [Source.bump, h.peek]
  rfl

theorem bump_nil (h : v.Sees pos ⟨[], offset⟩) :
    v.bump pos = (.ok (none, pos) : Except (Stop ε) _) := by
  rw [Source.bump, h.peek]
  rfl

/-- After some characters the reader sees what is left. -/
theorem after (front : List Char) (h : v.Sees pos ⟨front ++ l, offset⟩) :
    v.Sees (pos + byteLength front) ⟨l, offset + byteLength front⟩ := by
  obtain ⟨hoffset, before, htext, hpos⟩ := h
  refine ⟨?_, before ++ front, ?_, ?_⟩
  · dsimp only at hoffset ⊢
    rw [hoffset, Nat.add_assoc]
  · rw [htext, List.append_assoc]
  · rw [byteLength_append, hpos]

theorem next (h : v.Sees pos ⟨c :: l, offset⟩) :
    v.Sees (pos + c.utf8Size) ⟨l, offset + c.utf8Size⟩ :=
  h.after [c]

end Source.Sees

/-! ## Parts of terms -/

/-- Whether a part of a term is cut out by positions as it is with the rest at hand. If it is, it
has a property, and otherwise it is rejected at a place in the text. -/
inductive Source.Keeps (v : Source) {α : Type} (P : α → Prop) :
    Except (Stop Rejection) (α × Nat) → Except Rejection (α × Cursor) → Prop where
  | ok {a : α} {pos : Nat} {k : Cursor} : P a → v.Sees pos k → Keeps v P (.ok (a, pos)) (.ok (a, k))
  | rejected {e : Rejection} : v.Has e.offset → Keeps v P (.error (.rejected e)) (.error e)

namespace Source

variable {v : Source}

section Keeps

variable {α β : Type} {P : α → Prop} {Q : β → Prop}

theorem Keeps.bind {x : Except (Stop Rejection) (α × Nat)} {y : Except Rejection (α × Cursor)}
    {f : α × Nat → Except (Stop Rejection) (β × Nat)}
    {g : α × Cursor → Except Rejection (β × Cursor)}
    (h : v.Keeps P x y)
    (hf : ∀ a pos k, y = .ok (a, k) → P a → v.Sees pos k → v.Keeps Q (f (a, pos)) (g (a, k))) :
    v.Keeps Q (x >>= f) (y >>= g) := by
  cases h with
  | ok ha hsees => exact hf _ _ _ rfl ha hsees
  | rejected he => exact .rejected he

theorem Keeps.map {x : Except (Stop Rejection) (α × Nat)} {y : Except Rejection (α × Cursor)}
    (h : v.Keeps P x y) {f : α → β} (hf : ∀ a, P a → Q (f a)) :
    v.Keeps Q (x >>= fun p => .ok (f p.1, p.2)) (y >>= fun p => .ok (f p.1, p.2)) :=
  h.bind fun a _ _ _ ha hsees => .ok (hf a ha) hsees

theorem keeps_refuse {pos : Nat} {k : Cursor} (h : v.Sees pos k) (fault : Fault) :
    v.Keeps P (v.refuse pos fault) (.error ⟨fault, k.offset⟩) := by
  rw [h.offset, refuse]
  exact .rejected (h.offset ▸ h.has)

end Keeps

/-- The character after a backslash. -/
theorem Sees.escapedAt {pos offset : Nat} {c : Char} {l : List Char}
    (h : v.Sees pos ⟨'\\' :: c :: l, offset⟩) :
    v.escapedAt pos = .ok (c, pos + 1 + c.utf8Size) ∧
      v.Sees (pos + 1 + c.utf8Size) ⟨l, offset + 1 + c.utf8Size⟩ := by
  refine ⟨?_, h.next.next⟩
  rw [Source.escapedAt, h.bump_cons]
  show v.bump (pos + '\\'.utf8Size) >>= _ = _
  rw [h.next.bump_cons]
  rfl

theorem Sees.escapedAt_last {pos offset : Nat} (h : v.Sees pos ⟨['\\'], offset⟩) :
    v.escapedAt pos = v.refuse pos .endsAfterBackslash := by
  rw [Source.escapedAt, h.bump_cons]
  show v.bump (pos + '\\'.utf8Size) >>= _ = _
  rw [h.next.bump_nil]
  rfl

/-- A name is cut out the same way. Each character takes one unit of fuel. -/
theorem keeps_nameAt {offset : Nat} {l : List Char} :
    ∀ {fuel pos : Nat}, l.length ≤ fuel → v.Sees pos ⟨l, offset⟩ →
      v.Keeps (fun _ => True) (v.nameAt (fuel + 1) pos) (nameOf offset l) := by
  fun_induction nameOf offset l with
  | case1 offset =>
    intro fuel pos _ h
    rw [nameAt, h.peek]
    exact keeps_refuse h _
  | case2 offset =>
    intro fuel pos _ h
    rw [nameAt, h.peek]
    show v.Keeps _ (v.escapedAt pos >>= _) _
    rw [h.escapedAt_last]
    exact keeps_refuse h _
  | case3 offset c l ih =>
    intro fuel pos hfuel h
    obtain ⟨fuel, rfl⟩ := Nat.exists_eq_succ_of_ne_zero (Nat.ne_zero_of_lt hfuel)
    obtain ⟨hescaped, hnext⟩ := h.escapedAt
    rw [nameAt, h.peek]
    show v.Keeps _ (v.escapedAt pos >>= _) _
    rw [hescaped]
    rw [List.length_cons, List.length_cons] at hfuel
    exact (ih (by omega) hnext).map (f := fun name => c :: name) fun _ _ => trivial
  | case4 offset l =>
    intro fuel pos _ h
    rw [nameAt, h.peek]
    exact keeps_refuse h _
  | case5 offset c l hlast hpair hclose hend =>
    intro fuel pos _ h
    rw [nameAt, h.peek]
    show v.Keeps _ (if c = '\\' then _ else if c = ')' then _ else if _ then _ else _) _
    rw [if_neg (ne_backslash hlast hpair), if_neg hclose, if_pos hend]
    exact .ok trivial h
  | case6 offset c l hlast hpair hclose hend ih =>
    intro fuel pos hfuel h
    obtain ⟨fuel, rfl⟩ := Nat.exists_eq_succ_of_ne_zero (Nat.ne_zero_of_lt hfuel)
    rw [nameAt, h.peek]
    show v.Keeps _ (if c = '\\' then _ else if c = ')' then _ else if _ then _ else _) _
    rw [if_neg (ne_backslash hlast hpair), if_neg hclose, if_neg hend, h.bump_cons]
    rw [List.length_cons] at hfuel
    exact (ih (by omega) h.next).map (f := fun name => c :: name) fun _ _ => trivial

/-- So is a modifier, and its place is one in the text. -/
theorem keeps_modifierAt {pos : Nat} {k : Cursor} (h : v.Sees pos k) :
    v.Keeps (fun m => ∀ p ∈ m, v.Has p.1) (v.modifierAt pos) (modifierOf k) := by
  obtain ⟨l, offset⟩ := k
  rw [modifierAt, h.peek]
  show v.Keeps _ (if l.head? = some ':' then _ else _) _
  split
  · next hcolon =>
    obtain ⟨l, rfl⟩ := List.head?_eq_some_iff.mp hcolon
    rw [h.bump_cons]
    show v.Keeps _ (v.rest (pos + ':'.utf8Size) >>= _) _
    rw [h.next.rest]
    show v.Keeps _ (if ':' ∈ l then _ else _) _
    split
    · next hmem =>
      obtain ⟨front, rest, rfl, hfront⟩ := List.eq_append_cons_of_mem hmem
      obtain ⟨htake, hdrop⟩ := takeWhile_ne_append hfront rest
      have hcut : cut? (byteLength front) (front ++ ':' :: rest) = some (front, ':' :: rest) :=
        cut?_eq_some.mpr ⟨rfl, rfl⟩
      have hafter := (h.next.after _).next
      have hmodifier : modifierOf ⟨':' :: (front ++ ':' :: rest), offset⟩ = .ok
          (some (v.base + pos, front), ⟨rest, offset + 1 + byteLength front + 1⟩) := by
        have hmove : offset + byteLength front + 2 = offset + 1 + byteLength front + 1 := by omega
        have hoffset : offset = v.base + pos := h.offset
        rw [modifierOf]
        simp only [htake, hdrop, hmove]
        rw [← hoffset]
      simp only [htake, hcut, hmodifier]
      refine .ok ?_ hafter
      rintro p hp
      obtain rfl := Option.some.inj hp
      exact h.offset ▸ h.has
    · next hmem =>
      rw [modifierOf]
      simp only [takeWhile_ne_self hmem]
      exact keeps_refuse h _
  · next hcolon =>
    have hnone : modifierOf ⟨l, offset⟩ = .ok (none, ⟨l, offset⟩) := by
      cases l with
      | nil => rfl
      | cons c l =>
        have hc : c ≠ ':' := fun hc => hcolon (congrArg some hc)
        simp [modifierOf, hc]
    rw [hnone]
    exact .ok (fun p hp => absurd hp (Option.not_mem_none p)) h

theorem comparatorOf_tilde {l : List Char} (h : l.head? ≠ some '=') (offset : Nat) :
    comparatorOf ⟨'~' :: l, offset⟩ = .error ⟨.loneTilde, offset⟩ := by
  cases l with
  | nil => rfl
  | cons c l =>
    have hc : c ≠ '=' := fun hc => h (congrArg some hc)
    simp [comparatorOf, hc]

theorem comparatorOf_other {c : Char} (hequal : c ≠ '=') (htilde : c ≠ '~') (hless : c ≠ '<')
    (hgreater : c ≠ '>') (l : List Char) (offset : Nat) :
    comparatorOf ⟨c :: l, offset⟩ = .error ⟨.expectedComparator c, offset⟩ := by
  simp [comparatorOf, htilde, hless, hgreater]

/-- A sign that may have an equals sign after it. -/
theorem comparatorOf_open {c : Char} {strict inclusive : Comparator}
    (hc : (c, strict, inclusive) ∈
      [('<', .less, .lessOrEqual), ('>', .greater, .greaterOrEqual)]) (l : List Char)
    (offset : Nat) :
    comparatorOf ⟨c :: l, offset⟩ =
      if l.head? = some '=' then .ok (inclusive, ⟨l.tail, offset + c.utf8Size + 1⟩)
      else .ok (strict, ⟨l, offset + c.utf8Size⟩) := by
  simp only [List.mem_cons, List.not_mem_nil, or_false, Prod.mk.injEq] at hc
  split
  · next h =>
    obtain ⟨l, rfl⟩ := List.head?_eq_some_iff.mp h
    rcases hc with ⟨rfl, rfl, rfl⟩ | ⟨rfl, rfl, rfl⟩ <;> rfl
  · next h =>
    rcases hc with ⟨rfl, rfl, rfl⟩ | ⟨rfl, rfl, rfl⟩
    · exact comparatorOf_less h offset
    · exact comparatorOf_greater h offset

theorem keeps_orEqualAt {strict inclusive : Comparator} {pos offset : Nat} {l : List Char}
    (h : v.Sees pos ⟨l, offset⟩) :
    v.Keeps (fun _ => True) (v.orEqualAt strict inclusive pos)
      (if l.head? = some '=' then .ok (inclusive, ⟨l.tail, offset + 1⟩)
        else .ok (strict, ⟨l, offset⟩)) := by
  rw [orEqualAt, h.peek]
  show v.Keeps _ (if l.head? = some '=' then _ else _) _
  split
  · next hequal =>
    obtain ⟨l, rfl⟩ := List.head?_eq_some_iff.mp hequal
    rw [h.bump_cons]
    exact .ok trivial h.next
  · exact .ok trivial h

theorem keeps_comparatorAt {pos : Nat} {k : Cursor} (h : v.Sees pos k) :
    v.Keeps (fun _ => True) (v.comparatorAt pos) (comparatorOf k) := by
  obtain ⟨l, offset⟩ := k
  rw [comparatorAt]
  cases l with
  | nil =>
    rw [h.bump_nil]
    exact keeps_refuse h _
  | cons c l =>
    rw [h.bump_cons]
    show v.Keeps _ (if c = '=' then _ else if c = '~' then _ else if c = '<' then _ else
      if c = '>' then _ else _) _
    split
    · next hc =>
      subst hc
      exact .ok trivial h.next
    · next hequal =>
      split
      · next hc =>
        subst hc
        show v.Keeps _ (v.bump (pos + '~'.utf8Size) >>= _) _
        by_cases hhead : l.head? = some '='
        · obtain ⟨l, rfl⟩ := List.head?_eq_some_iff.mp hhead
          rw [h.next.bump_cons]
          exact .ok trivial h.next.next
        · rw [comparatorOf_tilde hhead]
          cases l with
          | nil =>
            rw [h.next.bump_nil]
            exact keeps_refuse h _
          | cons d l =>
            rw [h.next.bump_cons]
            show v.Keeps _ (if some d = some '=' then _ else _) _
            rw [List.head?_cons] at hhead
            rw [if_neg hhead]
            exact keeps_refuse h _
      · next htilde =>
        split
        · next hc =>
          subst hc
          rw [comparatorOf_open List.mem_cons_self]
          exact keeps_orEqualAt h.next
        · next hless =>
          split
          · next hc =>
            subst hc
            rw [comparatorOf_open (List.mem_cons_of_mem _ List.mem_cons_self)]
            exact keeps_orEqualAt h.next
          · next hgreater =>
            rw [comparatorOf_other hequal htilde hless hgreater]
            exact keeps_refuse h _

theorem keeps_valueAt {verbatim : Bool} {depth offset : Nat} {l : List Char} :
    ∀ {fuel pos : Nat}, l.length ≤ fuel → v.Sees pos ⟨l, offset⟩ →
      v.Keeps (fun _ => True) (v.valueAt verbatim (fuel + 1) depth pos)
        (valueOf verbatim depth offset l) := by
  fun_induction valueOf verbatim depth offset l with
  | case1 depth offset =>
    intro fuel pos _ h
    rw [valueAt, h.peek]
    exact keeps_refuse h _
  | case2 depth offset =>
    intro fuel pos _ h
    rw [valueAt, h.peek]
    show v.Keeps _ (v.escapedAt pos >>= _) _
    rw [h.escapedAt_last]
    exact keeps_refuse h _
  | case3 depth offset c l ih =>
    intro fuel pos hfuel h
    obtain ⟨fuel, rfl⟩ := Nat.exists_eq_succ_of_ne_zero (Nat.ne_zero_of_lt hfuel)
    obtain ⟨hescaped, hnext⟩ := h.escapedAt
    rw [valueAt, h.peek]
    show v.Keeps _ (v.escapedAt pos >>= _) _
    rw [hescaped]
    rw [List.length_cons, List.length_cons] at hfuel
    exact (ih (by omega) hnext).map
      (f := fun value => if verbatim then '\\' :: c :: value else c :: value) fun _ _ => trivial
  | case4 depth offset c l hlast hpair hend =>
    intro fuel pos _ h
    rw [valueAt, h.peek]
    show v.Keeps _ (if c = '\\' then _ else v.bump pos >>= _) _
    rw [if_neg (ne_backslash hlast hpair), h.bump_cons]
    show v.Keeps _ (if c = ')' ∧ depth = 0 then _ else _) _
    rw [if_pos hend]
    obtain ⟨rfl, -⟩ := hend
    exact .ok trivial h.next
  | case5 depth offset c l hlast hpair hopen =>
    rename_i ih
    intro fuel pos hfuel h
    obtain ⟨fuel, rfl⟩ := Nat.exists_eq_succ_of_ne_zero (Nat.ne_zero_of_lt hfuel)
    rw [valueAt, h.peek]
    show v.Keeps _ (if c = '\\' then _ else v.bump pos >>= _) _
    rw [if_neg (ne_backslash hlast hpair), h.bump_cons]
    show v.Keeps _ (if c = ')' ∧ depth = 0 then _ else _) _
    rw [if_neg hopen]
    rw [List.length_cons] at hfuel
    exact (ih (by omega) h.next).map (f := fun value => c :: value) fun _ _ => trivial

theorem Sees.length_le {pos : Nat} {k : Cursor} (h : v.Sees pos k) :
    k.rest.length ≤ v.text.length := by
  obtain ⟨front, htext, -⟩ := h.splits
  rw [htext, List.length_append]
  exact Nat.le_add_left _ _

end Source

/-- Whether the parts of a term stand in a text where the term says. -/
structure Term.Placed (v : Source) (t : Term) : Prop where
  /-- The name is in the text. -/
  name : v.Has t.nameOffset
  /-- So is the modifier. -/
  modifier : ∀ m ∈ t.modifier, v.Has m.1
  /-- So is the value. -/
  value : v.Has t.valueOffset
  /-- A value that holds a condition stands there as it is. -/
  verbatim : holdsCondition t.name = true →
    ∃ pos rest, v.Sees pos ⟨t.value ++ ')' :: rest, t.valueOffset⟩

namespace Source

variable {v : Source}

theorem keeps_termAt {pos : Nat} {k : Cursor} (h : v.Sees pos k) :
    v.Keeps (Term.Placed v) (v.termAt pos) (Term.read k) := by
  rw [termAt, Term.read]
  refine (keeps_nameAt h.length_le h).bind fun name pos₁ k₁ _ _ h₁ => ?_
  refine (keeps_modifierAt h₁).bind fun modifier pos₂ k₂ _ hmodifier h₂ => ?_
  dsimp only
  split
  · exact keeps_refuse h _
  · refine (keeps_comparatorAt h₂).bind fun c pos₃ k₃ _ _ h₃ => ?_
    dsimp only
    rw [← h₃.offset, ← h.offset]
    refine (keeps_valueAt h₃.length_le h₃).bind fun value pos₄ k₄ hvalue _ h₄ => ?_
    refine .ok ⟨h.has, hmodifier, h₃.has, fun hholds => ⟨pos₃, k₄.rest, ?_⟩⟩ h₄
    dsimp only at hholds
    rw [hholds] at hvalue
    obtain ⟨-, hrest⟩ := paired_of_valueOf hvalue
    exact ⟨h₃.offset, hrest ▸ h₃.splits⟩

end Source

/-! ## Meanings of terms -/

/-- Whether a rejection, if there is one, is at a place in the text. -/
def Source.Covers (v : Source) {α : Type} (x : Except Rejection α) : Prop :=
  ∀ e, x = .error e → v.Has e.offset

namespace Source

variable {v : Source} {α β : Type}

theorem covers_ok (a : α) : v.Covers (.ok a) :=
  nofun

theorem covers_error {e : Rejection} (h : v.Has e.offset) :
    v.Covers (.error e : Except Rejection α) := by
  rintro _ he
  obtain rfl := Except.error.inj he
  exact h

theorem Covers.bind {x : Except Rejection α} {f : α → Except Rejection β} (h : v.Covers x)
    (hf : ∀ a, v.Covers (f a)) : v.Covers (x >>= f) := by
  cases x with
  | ok a => exact hf a
  | error e => exact covers_error (h e rfl)

end Source

namespace Term.Placed

variable {v : Source} {t : Term} (h : t.Placed v)

include h

theorem integer (purpose : String) : v.Covers (t.integer purpose) := by
  rw [Term.integer]
  split
  · exact Source.covers_ok _
  · exact Source.covers_error h.value

theorem requireEqual : v.Covers t.requireEqual := by
  rw [Term.requireEqual]
  split
  · exact Source.covers_ok _
  · exact Source.covers_error h.value

theorem edge (e : Direction) : v.Covers (t.edge e) := by
  rw [Term.edge]
  refine h.requireEqual.bind fun _ => ?_
  dsimp only
  split
  · split <;> exact Source.covers_ok _
  · split
    · split <;> exact Source.covers_ok _
    · exact Source.covers_error h.value

/-- A term of a special kind that has no meaning is refused at one of its parts. -/
theorem special : v.Covers t.special := by
  unfold Term.special
  dsimp only
  split
  · next offset modifier hm => exact Source.covers_error (h.modifier _ hm)
  · split
    · exact h.requireEqual.bind fun _ => (h.integer _).bind fun _ => Source.covers_ok _
    · exact (h.integer _).bind fun _ => Source.covers_ok _
    · exact h.edge _
    · exact h.edge _
    · exact Source.covers_error h.name

variable [Regex.Properties]

theorem match? (a : Attribute) (caseSensitive : Bool) : v.Covers (t.match? a caseSensitive) := by
  rw [Term.match?]
  split
  · exact Source.covers_ok _
  · split
    · split
      · exact Source.covers_ok _
      · exact Source.covers_error h.value
    · split
      · dsimp only
        split
        · exact Source.covers_ok _
        · exact Source.covers_error h.value
      · split <;> exact Source.covers_ok _

theorem comparison (a : Attribute) (caseSensitive : Bool) :
    v.Covers (t.comparison a caseSensitive) := by
  rw [Term.comparison]
  split
  · exact h.match? a caseSensitive
  · exact (h.integer _).bind fun _ => Source.covers_ok _

theorem modified (a : Attribute) {offset : Nat} (hoffset : v.Has offset) (modifier : String) :
    v.Covers (t.modified a offset modifier) := by
  unfold Term.modified
  split
  · exact h.comparison a true
  · exact (h.integer _).bind fun _ => Source.covers_ok _
  · exact (h.integer _).bind fun _ => Source.covers_ok _
  · exact (h.integer _).bind fun _ => Source.covers_ok _
  · exact h.requireEqual.bind fun _ => (h.integer _).bind fun _ => Source.covers_ok _
  · exact h.requireEqual.bind fun _ => (h.integer _).bind fun _ => Source.covers_ok _
  · exact h.requireEqual.bind fun _ => (h.integer _).bind fun _ => Source.covers_ok _
  · exact h.requireEqual.bind fun _ => (h.integer _).bind fun _ => Source.covers_ok _
  · exact h.requireEqual.bind fun _ => Source.covers_ok _
  · exact h.requireEqual.bind fun _ => Source.covers_ok _
  · exact Source.covers_error hoffset

/-- So is a term that puts no condition on an attribute. -/
theorem condition (r : Registry) : v.Covers (t.condition r).1 := by
  rw [Term.condition]
  dsimp only
  split
  · exact h.comparison _ false
  · next offset modifier hm => exact h.modified _ (h.modifier _ hm) _

end Term.Placed

theorem betweenSlashes_of_isRegex {value : List Char} (h : Term.isRegex value = true) :
    betweenSlashes value = .ok ((value.drop 1).dropLast) := by
  obtain ⟨source, rfl⟩ := Term.isRegex_iff.mp h
  have hlength : byteLength ('/' :: source ++ ['/']) - 1 = byteLength ('/' :: source) := by
    rw [byteLength_append]
    exact Nat.add_sub_cancel _ 1
  have hfront : cut? (byteLength ('/' :: source)) ('/' :: source ++ ['/']) =
      some ('/' :: source, ['/']) := cut?_eq_some.mpr ⟨rfl, rfl⟩
  have hsource : cut? 1 ('/' :: source) = some (['/'], source) := cut?_eq_some.mpr ⟨rfl, rfl⟩
  rw [betweenSlashes, hlength, hfront]
  dsimp only
  rw [hsource, Term.source_slashed]

end Directory.Filter
