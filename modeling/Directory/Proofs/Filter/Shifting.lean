import Directory.Proofs.Filter.Agreement

/-!
# Readings at another place

What stands before a text moves the places that a reading reports, and changes nothing else.
Neither do the attributes and the limits that are known before it, as far as it is rejected: the
same fault is found at the same character.

- `Filter.Rejection.shift`, `Filter.Cursor.shift`, `Filter.Term.shift`: the same so many bytes
  later.
- `Filter.Moved`: whether the parts of a term are cut out the same way so many bytes later.
- `Filter.Shifted`: whether a step of a reading goes the same way so many bytes later.
- `Filter.shifted_query`, `Filter.shifted_target`: reading a condition does, as long as it is not
  cut short.
-/

namespace Directory.Filter

/-- The same fault so many bytes later. -/
def Rejection.shift (d : Nat) (e : Rejection) : Rejection :=
  { e with offset := e.offset + d }

/-- The same rest so many bytes later. -/
def Cursor.shift (d : Nat) (k : Cursor) : Cursor :=
  { k with offset := k.offset + d }

/-- The same term so many bytes later. -/
def Term.shift (d : Nat) (t : Term) : Term :=
  { t with
    nameOffset := t.nameOffset + d
    modifier := t.modifier.map fun m => (m.1 + d, m.2)
    valueOffset := t.valueOffset + d }

/-! ## Parts of terms -/

/-- Whether a part is cut out the same way so many bytes later. -/
inductive Moved (d : Nat) {α β : Type} (Q : α → β → Prop) :
    Except Rejection (α × Cursor) → Except Rejection (β × Cursor) → Prop where
  | ok {a : α} {b : β} {k : Cursor} : Q a b → Moved d Q (.ok (a, k)) (.ok (b, k.shift d))
  | error {e : Rejection} : Moved d Q (.error e) (.error (e.shift d))

section Moved

variable {d : Nat} {α β α' β' : Type} {Q : α → β → Prop} {Q' : α' → β' → Prop}

theorem Moved.bind {x : Except Rejection (α × Cursor)} {y : Except Rejection (β × Cursor)}
    {f : α × Cursor → Except Rejection (α' × Cursor)}
    {g : β × Cursor → Except Rejection (β' × Cursor)} (h : Moved d Q x y)
    (hf : ∀ a b k, Q a b → Moved d Q' (f (a, k)) (g (b, k.shift d))) :
    Moved d Q' (x >>= f) (y >>= g) := by
  cases h with
  | ok hab => exact hf _ _ _ hab
  | error => exact .error

theorem Moved.map {x : Except Rejection (α × Cursor)} {y : Except Rejection (α × Cursor)}
    {f : α → β} (h : Moved d Eq x y) :
    Moved d Eq (x >>= fun p => .ok (f p.1, p.2)) (y >>= fun p => .ok (f p.1, p.2)) :=
  h.bind fun _ _ _ hab => hab ▸ .ok rfl

end Moved

section Parts

variable (d : Nat)

theorem moved_nameOf (offset : Nat) (l : List Char) :
    Moved d Eq (nameOf offset l) (nameOf (offset + d) l) := by
  fun_induction nameOf offset l with
  | case1 => exact .error
  | case2 => exact .error
  | case3 offset c l ih =>
    rw [nameOf, show offset + d + 1 + c.utf8Size = offset + 1 + c.utf8Size + d by omega]
    exact ih.map
  | case4 offset l hlast hpair =>
    rw [nameOf_cons (ne_backslash hlast hpair), if_pos rfl]
    exact .error
  | case5 offset c l hlast hpair hclose hend =>
    rw [nameOf_cons (ne_backslash hlast hpair), if_neg hclose, if_pos hend]
    exact .ok rfl
  | case6 offset c l hlast hpair hclose hend ih =>
    rw [nameOf_cons (ne_backslash hlast hpair), if_neg hclose, if_neg hend, Nat.add_right_comm]
    exact ih.map

theorem moved_modifierOf (k : Cursor) :
    Moved d (fun m m' => m' = m.map fun p => (p.1 + d, p.2)) (modifierOf k)
      (modifierOf (k.shift d)) := by
  have hmove : ∀ n l, (⟨l, k.offset + d + n + 2⟩ : Cursor) = Cursor.shift d ⟨l, k.offset + n + 2⟩ :=
    fun n l => congrArg (Cursor.mk l) (by dsimp only; omega)
  rw [modifierOf, modifierOf, Cursor.shift]
  dsimp only
  split
  · split
    · exact .error
    · rw [hmove]
      exact .ok rfl
  · exact .ok rfl

theorem moved_comparatorOf (k : Cursor) :
    Moved d Eq (comparatorOf k) (comparatorOf (k.shift d)) := by
  have hmove : ∀ n l, (⟨l, k.offset + d + n⟩ : Cursor) = Cursor.shift d ⟨l, k.offset + n⟩ :=
    fun n l => congrArg (Cursor.mk l) (Nat.add_right_comm _ _ _)
  rw [comparatorOf, comparatorOf, Cursor.shift]
  dsimp only
  simp only [hmove]
  split <;> first | exact .ok rfl | exact .error

theorem moved_valueOf (verbatim : Bool) (depth offset : Nat) (l : List Char) :
    Moved d Eq (valueOf verbatim depth offset l) (valueOf verbatim depth (offset + d) l) := by
  fun_induction valueOf verbatim depth offset l with
  | case1 => exact .error
  | case2 => exact .error
  | case3 depth offset c l ih =>
    rw [valueOf, show offset + d + 1 + c.utf8Size = offset + 1 + c.utf8Size + d by omega]
    exact ih.map (f := fun value => if verbatim then '\\' :: c :: value else c :: value)
  | case4 depth offset c l hlast hpair hend =>
    rw [valueOf_cons (ne_backslash hlast hpair), if_pos hend, Nat.add_right_comm]
    exact .ok rfl
  | case5 depth offset c l hlast hpair hopen =>
    rename_i ih
    rw [valueOf_cons (ne_backslash hlast hpair), if_neg hopen, Nat.add_right_comm]
    exact ih.map

theorem moved_read (k : Cursor) :
    Moved d (fun t t' => t' = t.shift d) (Term.read k) (Term.read (k.shift d)) := by
  rw [Term.read, Term.read]
  refine (moved_nameOf d k.offset k.rest).bind fun name _ k₁ hname => ?_
  subst hname
  refine (moved_modifierOf d k₁).bind fun modifier _ k₂ hmodifier => ?_
  subst hmodifier
  dsimp only
  split
  · exact .error
  · refine (moved_comparatorOf d k₂).bind fun c _ k₃ hc => ?_
    subst hc
    refine (moved_valueOf d _ 0 k₃.offset k₃.rest).bind fun value _ k₄ hvalue => ?_
    subst hvalue
    exact .ok rfl

end Parts

/-! ## Meanings of terms -/

section Meanings

variable (d : Nat) (t : Term)

theorem Term.integer_shift (purpose : String) :
    (t.shift d).integer purpose = (t.integer purpose).mapError (Rejection.shift d) := by
  rw [integer, integer, shift]
  dsimp only
  split <;> rfl

theorem Term.requireEqual_shift :
    (t.shift d).requireEqual = t.requireEqual.mapError (Rejection.shift d) := by
  rw [requireEqual, requireEqual, shift]
  dsimp only
  split
  · rfl
  · cases t.modifier <;> rfl

/-- The same condition at the end of an edge so many bytes later. -/
def Special.shift (d : Nat) : Special → Special
  | edge e m target => edge e m (target.map fun p => (p.1 + d, p.2))
  | x => x

theorem Term.edge_shift (e : Direction) :
    (t.shift d).edge e =
      ((t.edge e).mapError (Rejection.shift d)).map (Special.shift d) := by
  have hmove : ∀ n, t.valueOffset + d + n + 1 = t.valueOffset + n + 1 + d := fun n => by omega
  rw [edge, edge, requireEqual_shift]
  cases t.requireEqual with
  | error e => rfl
  | ok _ =>
    simp only [shift, hmove]
    generalize t.value.takeWhile (· ≠ ',') = word, t.value.dropWhile (· ≠ ',') = rest
    show (if word = [] ∨ word = ['*'] then _ else _) = Except.map _ (Except.mapError _ (ite _ _ _))
    by_cases hany : word = [] ∨ word = ['*']
    · rw [if_pos hany, if_pos hany]
      cases rest <;> rfl
    · rw [if_neg hany, if_neg hany]
      cases AttackMethod.ofName? word <;> cases rest <;> rfl

theorem Term.special_shift :
    (t.shift d).special = (t.special.mapError (Rejection.shift d)).map (Special.shift d) := by
  have hname : (t.shift d).name = t.name := rfl
  have hmodifier : (t.shift d).modifier = t.modifier.map fun m => (m.1 + d, m.2) := rfl
  unfold special
  simp only [integer_shift, requireEqual_shift, edge_shift, hname, hmodifier]
  cases t.modifier with
  | some m => rfl
  | none =>
    dsimp only [Option.map_none]
    split
    · cases t.requireEqual <;> cases t.integer "limit" <;> rfl
    · cases t.integer "random100" <;> rfl
    · rfl
    · rfl
    · rfl

variable [Regex.Properties]

theorem Term.match?_shift (a : Attribute) (caseSensitive : Bool) :
    (t.shift d).match? a caseSensitive =
      (t.match? a caseSensitive).mapError (Rejection.shift d) := by
  rw [match?, match?, shift]
  dsimp only
  split
  · rfl
  · split
    · split <;> rfl
    · split
      · split <;> rfl
      · split <;> rfl

theorem Term.comparison_shift (a : Attribute) (caseSensitive : Bool) :
    (t.shift d).comparison a caseSensitive =
      (t.comparison a caseSensitive).mapError (Rejection.shift d) := by
  have hcomparator : (t.shift d).comparator = t.comparator := rfl
  rw [comparison, comparison, hcomparator, match?_shift, integer_shift]
  split
  · rfl
  · cases t.integer "numeric comparison" <;> rfl

theorem Term.modified_shift (a : Attribute) (offset : Nat) (modifier : String) :
    (t.shift d).modified a (offset + d) modifier =
      (t.modified a offset modifier).mapError (Rejection.shift d) := by
  have hcomparator : (t.shift d).comparator = t.comparator := rfl
  have hvalue : (t.shift d).value = t.value := rfl
  unfold modified
  simp only [comparison_shift, integer_shift, requireEqual_shift, hcomparator, hvalue]
  split
  · rfl
  · cases t.integer "count modifier" <;> rfl
  · cases t.integer "length modifier" <;> rfl
  · cases t.integer "length modifier" <;> rfl
  · cases t.requireEqual <;> cases t.integer "bitwise and" <;> rfl
  · cases t.requireEqual <;> cases t.integer "bitwise and" <;> rfl
  · cases t.requireEqual <;> cases t.integer "bitwise or" <;> rfl
  · cases t.requireEqual <;> cases t.integer "bitwise or" <;> rfl
  · cases t.requireEqual <;> rfl
  · cases t.requireEqual <;> rfl
  · rfl

/-- A term further behind puts the same condition on an attribute, or is refused further behind. -/
theorem Term.condition_shift (r : Registry) :
    (t.shift d).condition r =
      ((t.condition r).1.mapError (Rejection.shift d), (t.condition r).2) := by
  have hmodifier : (t.shift d).modifier = t.modifier.map fun m => (m.1 + d, m.2) := rfl
  rw [condition, condition, hmodifier]
  refine Prod.ext ?_ rfl
  cases t.modifier with
  | none => exact t.comparison_shift d _ false
  | some m => exact t.modified_shift d _ m.1 _

end Meanings

/-! ## Fuel -/

theorem query_of_nil [Regex.Properties] {fuel : Nat} {s : State} (h : s.cursor.rest = []) :
    query fuel s = s.fail .expectedOpen := by
  cases fuel with
  | zero => rfl
  | succ fuel => rw [query, h]

theorem term_of_nil [Regex.Properties] {fuel : Nat} {s : State} (h : s.cursor.rest = []) :
    term fuel s = s.fail .endsInName := by
  cases fuel with
  | zero => rfl
  | succ fuel =>
    have hread : Term.read s.cursor = .error ⟨.endsInName, s.cursor.offset⟩ := by
      rw [Term.read, h]
      rfl
    rw [term, hread]
    rfl

/-- A condition takes at least one character. -/
theorem length_of_query [Regex.Properties] {fuel : Nat} {s s' : State} {n : Node}
    (h : query fuel s = .ok (n, s')) :
    s'.cursor.rest.length < s.cursor.rest.length := by
  obtain ⟨d, hd, -⟩ := yields_of_query h
  obtain ⟨l, hl⟩ := d.exists_text
  rw [hd, hl, List.length_append, List.length_cons]
  omega

/-- A value that holds a condition stands in the text as it is, before a parenthesis. -/
theorem Term.value_of_read {k k' : Cursor} {t : Term} (h : read k = .ok (t, k'))
    (hholds : holdsCondition t.name = true) :
    ∃ front, k.rest = front ++ (t.value ++ ')' :: k'.rest) := by
  obtain ⟨⟨name, k₁⟩, hname, h⟩ := bind_eq_ok.mp h
  obtain ⟨⟨modifier, k₂⟩, hmodifier, h⟩ := bind_eq_ok.mp h
  dsimp only at h
  split at h
  · exact nomatch h
  · obtain ⟨⟨c, k₃⟩, hcomparator, h⟩ := bind_eq_ok.mp h
    obtain ⟨⟨value, k₄⟩, hvalue, h⟩ := bind_eq_ok.mp h
    obtain ⟨rfl, rfl⟩ := Prod.mk.inj (Except.ok.inj h)
    obtain ⟨rawName, -, hrest, -⟩ := resolves_of_nameOf hname
    obtain ⟨hrest₁, -⟩ := modifierText_of_modifierOf hmodifier
    obtain ⟨s, -, hrest₂, -⟩ := text_of_comparatorOf hcomparator
    rw [hholds] at hvalue
    obtain ⟨-, hrest₃⟩ := paired_of_valueOf hvalue
    refine ⟨rawName ++ (modifierText (modifier.map (·.2)) ++ s.text), ?_⟩
    rw [hrest, hrest₁, hrest₂, hrest₃]
    simp

theorem Term.holdsCondition_directionWord (e : Direction) :
    holdsCondition (directionWord e).toList = true := by
  cases e <;> rfl

/-- A condition at the end of an edge is shorter than the text that the term is read from. -/
theorem Term.length_target_of_read {k k' : Cursor} {t : Term} (h : read k = .ok (t, k'))
    {e : Direction} {m : Option AttackMethod} {target : Nat × List Char}
    (hspecial : t.special = .ok (.edge e m (some target))) :
    target.2.length < k.rest.length := by
  obtain ⟨-, hname, -, word, -, -, ⟨-, hnone⟩ | ⟨text, hvalue, htarget⟩⟩ :=
    special_eq_edge.mp hspecial
  · exact nomatch hnone
  · obtain rfl := Option.some.inj htarget
    obtain ⟨front, hfront⟩ :=
      value_of_read h (by rw [hname]; exact holdsCondition_directionWord e)
    rw [hfront, hvalue]
    simp only [List.length_append, List.length_cons]
    omega

/-! ## Conditions -/

/-- Whether a step of a reading goes the same way so many bytes later, whatever is known before it.
It succeeds with results that are related, or it fails for the same reason. -/
inductive Shifted (d : Nat) {α β : Type} (Q : α → β → Prop) :
    Except Failure (α × State) → Except Failure (β × State) → Prop where
  | ok {a : α} {b : β} {s : State} {r : Registry} {slot : Nat} :
      Q a b → Shifted d Q (.ok (a, s)) (.ok (b, ⟨s.cursor.shift d, r, slot⟩))
  | error {e : Rejection} {r r' : Registry} : Shifted d Q (.error ⟨e, r⟩) (.error ⟨e.shift d, r'⟩)

section Shifted

variable {d : Nat} {α β α' β' : Type} {Q : α → β → Prop} {Q' : α' → β' → Prop}

theorem Shifted.bind {x : Except Failure (α × State)} {y : Except Failure (β × State)}
    {f : α × State → Except Failure (α' × State)} {g : β × State → Except Failure (β' × State)}
    (h : Shifted d Q x y)
    (hf : ∀ a b s r slot, x = .ok (a, s) → Q a b →
      Shifted d Q' (f (a, s)) (g (b, ⟨s.cursor.shift d, r, slot⟩))) :
    Shifted d Q' (x >>= f) (y >>= g) := by
  cases h with
  | ok hab => exact hf _ _ _ _ _ rfl hab
  | error => exact .error

theorem Shifted.map {x : Except Failure (α × State)} {y : Except Failure (β × State)} {f : α → α'}
    {g : β → β'} (h : Shifted d Q x y) (hf : ∀ a b, Q a b → Q' (f a) (g b)) :
    Shifted d Q' (x >>= fun p => .ok (f p.1, p.2)) (y >>= fun p => .ok (g p.1, p.2)) :=
  h.bind fun a b _ _ _ _ hab => .ok (hf a b hab)

variable (s : State) (r : Registry) (slot : Nat)

theorem past_shift (l : List Char) :
    State.past ⟨s.cursor.shift d, r, slot⟩ l = ⟨(s.past l).cursor.shift d, r, slot⟩ :=
  congrArg (fun n => State.mk ⟨l, n⟩ r slot) (Nat.add_right_comm _ _ _)

theorem shifted_fail (fault : Fault) :
    Shifted d Q (s.fail fault) (State.fail ⟨s.cursor.shift d, r, slot⟩ fault) :=
  .error (e := ⟨fault, s.cursor.offset⟩)

theorem shifted_close {a : α} {b : β} (hab : Q a b) :
    Shifted d Q (s.close >>= fun s => .ok (a, s))
      (State.close ⟨s.cursor.shift d, r, slot⟩ >>= fun s => .ok (b, s)) := by
  rw [State.close, State.close, show (Cursor.shift d s.cursor).rest = s.cursor.rest from rfl]
  split
  · rw [past_shift]
    exact .ok hab
  · exact shifted_fail s r slot _
  · exact shifted_fail s r slot _

theorem Shifted.close {x : Except Failure (α × State)} {y : Except Failure (β × State)} {f : α → α'}
    {g : β → β'} (h : Shifted d Q x y) (hf : ∀ a b, Q a b → Q' (f a) (g b)) :
    Shifted d Q' (x >>= fun p => p.2.close >>= fun s => .ok (f p.1, s))
      (y >>= fun p => p.2.close >>= fun s => .ok (g p.1, s)) :=
  h.bind fun a b s r slot _ hab => shifted_close s r slot (hf a b hab)

end Shifted

section Readers

variable [Regex.Properties] {d : Nat}

mutual

/-- A condition is read the same way so many bytes later, with any fuel that is enough. -/
theorem shifted_query : ∀ (fuel fuel' : Nat) (s : State) (r : Registry) (slot : Nat),
    3 * s.cursor.rest.length ≤ fuel → 3 * s.cursor.rest.length ≤ fuel' →
      Shifted d (fun _ _ => True) (query fuel s) (query fuel' ⟨s.cursor.shift d, r, slot⟩)
  | 0, fuel', s, r, slot, hfuel, _ => by
    have hnil : s.cursor.rest = [] := List.length_eq_zero_iff.mp (by omega)
    rw [query_of_nil hnil, query_of_nil (s := ⟨s.cursor.shift d, r, slot⟩) hnil]
    exact shifted_fail s r slot _
  | _ + 1, 0, s, r, slot, _, hfuel => by
    have hnil : s.cursor.rest = [] := List.length_eq_zero_iff.mp (by omega)
    rw [query_of_nil hnil, query_of_nil (s := ⟨s.cursor.shift d, r, slot⟩) hnil]
    exact shifted_fail s r slot _
  | fuel + 1, fuel' + 1, s, r, slot, hfuel, hfuel' => by
    rw [query, query, show (Cursor.shift d s.cursor).rest = s.cursor.rest from rfl]
    split
    · next l hl =>
      rw [hl, List.length_cons] at hfuel hfuel'
      dsimp only
      rw [past_shift]
      split
      · exact shifted_fail (s.past _) r slot _
      · exact (shifted_query fuel fuel' (s.past _) r slot (by dsimp only [State.past]; omega)
          (by dsimp only [State.past]; omega)).close (f := id) (g := id) fun _ _ h => h
      · next m =>
        rw [past_shift]
        rw [List.length_cons] at hfuel hfuel'
        exact (shifted_group fuel fuel' _ r slot (by dsimp only [State.past]; omega)
          (by dsimp only [State.past]; omega)).map fun _ _ _ => trivial
      · next m =>
        rw [past_shift]
        rw [List.length_cons] at hfuel hfuel'
        exact (shifted_group fuel fuel' _ r slot (by dsimp only [State.past]; omega)
          (by dsimp only [State.past]; omega)).map fun _ _ _ => trivial
      · next m =>
        rw [past_shift]
        rw [List.length_cons] at hfuel hfuel'
        exact (shifted_query fuel fuel' _ r slot (by dsimp only [State.past]; omega)
          (by dsimp only [State.past]; omega)).close fun _ _ _ => trivial
      · exact shifted_term fuel fuel' (s.past l) r slot (by dsimp only [State.past]; omega)
          (by dsimp only [State.past]; omega)
    · exact shifted_fail s r slot _

theorem shifted_group : ∀ (fuel fuel' : Nat) (s : State) (r : Registry) (slot : Nat),
    3 * s.cursor.rest.length + 2 ≤ fuel → 3 * s.cursor.rest.length + 2 ≤ fuel' →
      Shifted d (fun ns ns' => ns.isEmpty = ns'.isEmpty) (group fuel s)
        (group fuel' ⟨s.cursor.shift d, r, slot⟩)
  | 0, _, _, _, _, hfuel, _ => absurd hfuel (by omega)
  | _ + 1, 0, _, _, _, _, hfuel => absurd hfuel (by omega)
  | fuel + 1, fuel' + 1, s, r, slot, hfuel, hfuel' => by
    rw [group, group]
    refine (shifted_queries fuel fuel' s r slot (by omega) (by omega)).bind
      fun ns ns' t r' slot' _ hns => ?_
    have hrest : (Cursor.shift d t.cursor).rest = t.cursor.rest := rfl
    cases ns with
    | nil =>
      obtain rfl : ns' = [] := List.isEmpty_iff.mp hns.symm
      dsimp only
      rw [hrest]
      split
      · exact shifted_fail s r slot _
      · exact shifted_close t r' slot' rfl
    | cons n ns =>
      obtain ⟨n', ns', rfl⟩ := List.exists_cons_of_ne_nil (l := ns')
        fun hnil => by rw [hnil] at hns; exact nomatch hns
      exact shifted_close t r' slot' rfl

theorem shifted_queries : ∀ (fuel fuel' : Nat) (s : State) (r : Registry) (slot : Nat),
    3 * s.cursor.rest.length + 1 ≤ fuel → 3 * s.cursor.rest.length + 1 ≤ fuel' →
      Shifted d (fun ns ns' => ns.isEmpty = ns'.isEmpty) (queries fuel s)
        (queries fuel' ⟨s.cursor.shift d, r, slot⟩)
  | 0, _, _, _, _, hfuel, _ => absurd hfuel (by omega)
  | _ + 1, 0, _, _, _, _, hfuel => absurd hfuel (by omega)
  | fuel + 1, fuel' + 1, s, r, slot, hfuel, hfuel' => by
    rw [queries, queries, show (Cursor.shift d s.cursor).rest = s.cursor.rest from rfl]
    split
    · refine (shifted_query fuel fuel' s r slot (by omega) (by omega)).bind
        fun n n' t r' slot' hread _ => ?_
      -- the first condition has used up what the others need less
      have hlength := length_of_query hread
      refine (shifted_queries fuel fuel' t r' slot' (by omega) (by omega)).bind
        fun ns ns' u r'' slot'' _ _ => ?_
      exact .ok rfl
    · exact .ok rfl

theorem shifted_term : ∀ (fuel fuel' : Nat) (s : State) (r : Registry) (slot : Nat),
    3 * s.cursor.rest.length ≤ fuel → 3 * s.cursor.rest.length ≤ fuel' →
      Shifted d (fun _ _ => True) (term fuel s) (term fuel' ⟨s.cursor.shift d, r, slot⟩)
  | 0, fuel', s, r, slot, hfuel, _ => by
    have hnil : s.cursor.rest = [] := List.length_eq_zero_iff.mp (by omega)
    rw [term_of_nil hnil, term_of_nil (s := ⟨s.cursor.shift d, r, slot⟩) hnil]
    exact shifted_fail s r slot _
  | _ + 1, 0, s, r, slot, _, hfuel => by
    have hnil : s.cursor.rest = [] := List.length_eq_zero_iff.mp (by omega)
    rw [term_of_nil hnil, term_of_nil (s := ⟨s.cursor.shift d, r, slot⟩) hnil]
    exact shifted_fail s r slot _
  | fuel + 1, fuel' + 1, s, r, slot, hfuel, hfuel' => by
    rw [term, term]
    have hread := moved_read d s.cursor
    generalize hx : Term.read s.cursor = x, Term.read (s.cursor.shift d) = y at hread
    cases hread with
    | error => exact .error
    | @ok t t' k ht =>
      subst ht
      have hspecial : (t.shift d).isSpecial = t.isSpecial := rfl
      dsimp only
      rw [hspecial]
      split
      · rw [Term.special_shift]
        cases hmeans : t.special with
        | error e => exact .error
        | ok special =>
          cases special with
          | limit max => exact .ok trivial
          | random c n => exact .ok trivial
          | edge e m target =>
            cases target with
            | none => exact .ok trivial
            | some target =>
              have hlength := Term.length_target_of_read hx hmeans
              exact (shifted_target fuel fuel' ⟨⟨target.2, target.1⟩, s.registry, s.nextSlot⟩ r
                slot (by dsimp only; omega) (by dsimp only; omega)).bind
                  fun _ _ _ _ _ _ _ => .ok trivial
      · rw [Term.condition_shift]
        have hon := t.condition_on s.registry r
        cases hcondition : t.condition s.registry with
        | mk x r₁ =>
          rw [hcondition] at hon
          dsimp only at hon ⊢
          rw [hon]
          cases x with
          | error e => exact .error
          | ok n => exact .ok trivial

/-- The same goes for a condition at the end of an edge. -/
theorem shifted_target : ∀ (fuel fuel' : Nat) (s : State) (r : Registry) (slot : Nat),
    3 * s.cursor.rest.length + 1 ≤ fuel → 3 * s.cursor.rest.length + 1 ≤ fuel' →
      Shifted d (fun _ _ => True) (target fuel s) (target fuel' ⟨s.cursor.shift d, r, slot⟩)
  | 0, _, _, _, _, hfuel, _ => absurd hfuel (by omega)
  | _ + 1, 0, _, _, _, _, hfuel => absurd hfuel (by omega)
  | fuel + 1, fuel' + 1, s, r, slot, hfuel, hfuel' => by
    rw [target, target, show (Cursor.shift d s.cursor).rest = s.cursor.rest from rfl]
    dsimp only
    split
    · exact shifted_fail s r slot _
    · refine (shifted_query fuel fuel' s r slot (by omega) (by omega)).bind
        fun n n' t r' slot' _ _ => ?_
      dsimp only
      rw [show (Cursor.shift d t.cursor).rest = t.cursor.rest from rfl]
      split
      · exact .ok trivial
      · exact shifted_fail t r' slot' _

end

end Readers

end Directory.Filter
