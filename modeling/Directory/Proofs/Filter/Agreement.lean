import Directory.Proofs.Filter.Alike

/-!
# Readings with two registries

Which attributes a registry knows, and by which numbers, decides nothing about a text. Read with two
registries it is accepted both times or rejected both times, for the same reason and at the same
place. If it is accepted, the two filters are alike.

- `Filter.Agree`: whether a step of a reading goes the same way with two registries.
- `Filter.agree_query`: reading a condition does; so do readings as a whole (`Filter.agree_read`).
- `Filter.exists_read`: a text that is accepted once is accepted with every registry.
-/

namespace Directory.Filter

/-! ## Terms -/

section Terms

variable [Regex.Properties] (t : Term) (a b : Attribute)

theorem Term.match?_on (caseSensitive : Bool) :
    t.match? b caseSensitive = (t.match? a caseSensitive).map (Node.on b) := by
  rw [match?, match?]
  split
  · rfl
  · split
    · split <;> rfl
    · split
      · dsimp only
        split <;> rfl
      · split <;> rfl

theorem Term.comparison_on (caseSensitive : Bool) :
    t.comparison b caseSensitive = (t.comparison a caseSensitive).map (Node.on b) := by
  rw [comparison, comparison]
  split
  · exact t.match?_on a b caseSensitive
  · cases t.integer "numeric comparison" <;> rfl

theorem Term.modified_on (offset : Nat) (modifier : String) :
    t.modified b offset modifier = (t.modified a offset modifier).map (Node.on b) := by
  unfold modified
  split
  · exact t.comparison_on a b true
  · cases t.integer "count modifier" <;> rfl
  · cases t.integer "length modifier" <;> rfl
  · cases t.integer "length modifier" <;> rfl
  · cases t.requireEqual <;> cases t.integer "bitwise and" <;> rfl
  · cases t.requireEqual <;> cases t.integer "bitwise and" <;> rfl
  · cases t.requireEqual <;> cases t.integer "bitwise or" <;> rfl
  · cases t.requireEqual <;> cases t.integer "bitwise or" <;> rfl
  · cases t.requireEqual <;> rfl
  · cases t.requireEqual <;> rfl
  · rfl

/-- A term puts the same condition on the attribute of its name with any registry, or is refused for
the same reason. -/
theorem Term.condition_on (r r' : Registry) :
    (t.condition r').1 =
      (t.condition r).1.map (Node.on (r'.intern (String.ofList t.name)).1) := by
  rw [condition, condition]
  dsimp only
  split
  · exact t.comparison_on _ _ false
  · exact t.modified_on _ _ _ _

end Terms

/-! ## Steps -/

/-- Whether a step of a reading goes the same way with two registries. It succeeds with results that
are related and otherwise the same states, or it fails for the same reason. -/
inductive Agree (P : Registry → Registry → Prop) {α β : Type} (Q : α → β → Prop) :
    Except Failure (α × State) → Except Failure (β × State) → Prop where
  | ok {a : α} {b : β} {s : State} {r : Registry} :
      Q a b → P s.registry r → Agree P Q (.ok (a, s)) (.ok (b, { s with registry := r }))
  | error {e : Rejection} {r r' : Registry} : P r r' → Agree P Q (.error ⟨e, r⟩) (.error ⟨e, r'⟩)

section Agree

variable {P : Registry → Registry → Prop} {α β α' β' : Type} {Q : α → β → Prop}
  {Q' : α' → β' → Prop}

/-- Two steps go the same way if each does. -/
theorem Agree.bind {x : Except Failure (α × State)} {y : Except Failure (β × State)}
    {f : α × State → Except Failure (α' × State)} {g : β × State → Except Failure (β' × State)}
    (h : Agree P Q x y)
    (hf : ∀ a b s r, Q a b → P s.registry r →
      Agree P Q' (f (a, s)) (g (b, { s with registry := r }))) :
    Agree P Q' (x >>= f) (y >>= g) := by
  cases h with
  | ok hab hr => exact hf _ _ _ _ hab hr
  | error hr => exact .error hr

theorem Agree.map {x : Except Failure (α × State)} {y : Except Failure (β × State)} {f : α → α'}
    {g : β → β'} (h : Agree P Q x y) (hf : ∀ a b, Q a b → Q' (f a) (g b)) :
    Agree P Q' (x >>= fun p => .ok (f p.1, p.2)) (y >>= fun p => .ok (g p.1, p.2)) :=
  h.bind fun a b _ _ hab hr => .ok (hf a b hab) hr

theorem agree_fail (s : State) {r : Registry} (hr : P s.registry r) (fault : Fault) :
    Agree P Q (s.fail fault) (State.fail { s with registry := r } fault) :=
  .error hr

/-- What was read may be followed by a parenthesis. -/
theorem agree_close (s : State) {r : Registry} (hr : P s.registry r) {a : α} {b : β}
    (hab : Q a b) :
    Agree P Q (s.close >>= fun s => .ok (a, s))
      (State.close { s with registry := r } >>= fun s => .ok (b, s)) := by
  rw [State.close, State.close]
  dsimp only
  split
  · exact .ok hab hr
  · exact .error hr
  · exact .error hr

theorem Agree.close {x : Except Failure (α × State)} {y : Except Failure (β × State)} {f : α → α'}
    {g : β → β'} (h : Agree P Q x y) (hf : ∀ a b, Q a b → Q' (f a) (g b)) :
    Agree P Q' (x >>= fun p => p.2.close >>= fun s => .ok (f p.1, s))
      (y >>= fun p => p.2.close >>= fun s => .ok (g p.1, s)) :=
  h.bind fun a b s _ hab hr => agree_close s hr (hf a b hab)

end Agree

section Readers

variable [Regex.Properties] {R : Attribute → Attribute → Prop} {P : Registry → Registry → Prop}

mutual

/-- A condition is read the same way with two registries. -/
theorem agree_query (hP : Registry.Corresponds R P) :
    ∀ (fuel : Nat) (s : State) {r : Registry}, P s.registry r →
      Agree P (Node.Alike R) (query fuel s) (query fuel { s with registry := r })
  | 0, s, _, hr => agree_fail s hr _
  | fuel + 1, s, r, hr => by
    rw [query, query]
    dsimp only
    split
    · next l _ =>
      split
      · exact agree_fail (s.past _) hr _
      · exact (agree_query hP fuel (s.past _) hr).close (f := id) (g := id) fun _ _ h => h
      · exact (agree_group hP fuel ((s.past _).past _) hr).map fun _ _ => .all
      · exact (agree_group hP fuel ((s.past _).past _) hr).map fun _ _ => .any
      · exact (agree_query hP fuel ((s.past _).past _) hr).close fun _ _ => .not
      · exact agree_term hP fuel (s.past l) hr
    · exact agree_fail s hr _

theorem agree_group (hP : Registry.Corresponds R P) :
    ∀ (fuel : Nat) (s : State) {r : Registry}, P s.registry r →
      Agree P (Node.AlikeAmong R) (group fuel s) (group fuel { s with registry := r })
  | 0, s, _, hr => agree_fail s hr _
  | fuel + 1, s, r, hr => by
    rw [group, group]
    refine (agree_queries hP fuel s hr).bind fun ns ns' t r' hns hr' => ?_
    cases hns with
    | nil =>
      dsimp only
      split
      · exact agree_fail s hr _
      · exact agree_close t hr' .nil
    | cons hn hns => exact agree_close t hr' (.cons hn hns)

theorem agree_queries (hP : Registry.Corresponds R P) :
    ∀ (fuel : Nat) (s : State) {r : Registry}, P s.registry r →
      Agree P (Node.AlikeAmong R) (queries fuel s) (queries fuel { s with registry := r })
  | 0, s, _, hr => .ok .nil hr
  | fuel + 1, s, r, hr => by
    rw [queries, queries]
    dsimp only
    split
    · refine (agree_query hP fuel s hr).bind fun n n' t r' hn hr' => ?_
      refine (agree_queries hP fuel t hr').bind fun ns ns' u r'' hns hr'' => ?_
      exact .ok (.cons hn hns) hr''
    · exact .ok .nil hr

theorem agree_term (hP : Registry.Corresponds R P) :
    ∀ (fuel : Nat) (s : State) {r : Registry}, P s.registry r →
      Agree P (Node.Alike R) (term fuel s) (term fuel { s with registry := r })
  | 0, s, _, hr => agree_fail s hr _
  | fuel + 1, s, r, hr => by
    rw [term, term]
    dsimp only
    split
    · exact .error hr
    · next t k hread =>
      split
      · split
        · exact .error hr
        · exact .ok (.limit _ _) hr
        · exact .ok (.random _ _) hr
        · exact .ok (.edge _ _) hr
        · next offset text _ =>
          refine (agree_target hP fuel { s with cursor := ⟨text, offset⟩ } hr).bind
            fun n n' u r' hn hr' => ?_
          exact .ok (.edgeTo _ _ hn) hr'
      · -- both times the name is interned before the value is looked at
        obtain ⟨hattribute, hlater⟩ := hP (String.ofList t.name) hr
        have hon := t.condition_on s.registry r
        generalize hx : (t.condition s.registry).1 = x at hon
        have hread : t.condition s.registry = (x, (s.registry.intern (String.ofList t.name)).2) :=
          Prod.ext hx rfl
        have hread' : t.condition r = (x.map (Node.on _), (r.intern (String.ofList t.name)).2) :=
          Prod.ext hon rfl
        rw [hread, hread']
        cases x with
        | error e => exact .error hlater
        | ok n =>
          obtain ⟨-, -, hsome⟩ := Node.shaped_of_termMeans (Term.condition_eq_ok.mp hread).1
          exact .ok (.attribute hsome hattribute) hlater

theorem agree_target (hP : Registry.Corresponds R P) :
    ∀ (fuel : Nat) (s : State) {r : Registry}, P s.registry r →
      Agree P (Node.Alike R) (target fuel s) (target fuel { s with registry := r })
  | 0, s, _, hr => agree_fail s hr _
  | fuel + 1, s, r, hr => by
    rw [target, target]
    dsimp only
    split
    · exact agree_fail s hr _
    · refine (agree_query hP fuel s hr).bind fun n n' t r' hn hr' => ?_
      dsimp only
      split
      · exact .ok hn hr'
      · exact agree_fail t hr' _

end

/-! ## Whole texts -/

/-- Whether two readings of a text go the same way. -/
inductive Reading.Agree (P : Registry → Registry → Prop) {α β : Type} (Q : α → β → Prop) :
    Reading α → Reading β → Prop where
  | ok {a : α} {b : β} {r r' : Registry} : Q a b → P r r' → Agree P Q ⟨.ok a, r⟩ ⟨.ok b, r'⟩
  | error {e : Rejection} {r r' : Registry} : P r r' → Agree P Q ⟨.error e, r⟩ ⟨.error e, r'⟩

/-- The start of a text is read the same way with two registries. -/
theorem agree_readStart (hP : Registry.Corresponds R P) {r r' : Registry} (hr : P r r')
    (text : String) :
    Reading.Agree P (fun p q : Filter × List Char =>
        ∃ n n', p.1 = ofNode n ∧ q.1 = ofNode n' ∧ n.Alike R n' ∧ p.2 = q.2)
      (readStart r text) (readStart r' text) := by
  rw [readStart, readStart]
  split
  · exact .error hr
  · split
    · exact .error hr
    · split
      · exact .error hr
      · have hquery := agree_query hP (3 * text.toList.length) ⟨⟨text.toList, 0⟩, r, 0⟩ hr
        dsimp only at hquery
        generalize query (3 * text.toList.length) ⟨⟨text.toList, 0⟩, r, 0⟩ = x,
          query (3 * text.toList.length) ⟨⟨text.toList, 0⟩, r', 0⟩ = y at hquery
        cases hquery with
        | ok hn hr' => exact .ok ⟨_, _, rfl, rfl, hn, rfl⟩ hr'
        | error hr' => exact .error hr'

/-- A text is read the same way with two registries. -/
theorem agree_read (hP : Registry.Corresponds R P) {r r' : Registry} (hr : P r r') (text : String) :
    Reading.Agree P (fun f f' => ∃ n n', f = ofNode n ∧ f' = ofNode n' ∧ n.Alike R n')
      (read r text) (read r' text) := by
  have hstart := agree_readStart hP hr text
  rw [read, read]
  generalize readStart r text = x, readStart r' text = y at hstart
  cases hstart with
  | @ok p q _ _ h hr' =>
    obtain ⟨n, n', hf, hf', halike, hrest⟩ := h
    obtain ⟨f, rest⟩ := p
    obtain ⟨f', rest'⟩ := q
    obtain rfl : rest = rest' := hrest
    cases rest with
    | nil => exact .ok ⟨n, n', hf, hf', halike⟩ hr'
    | cons c rest => exact .error hr'
  | error hr' => exact .error hr'

/-- Whether a text is accepted does not depend on what is known of attributes, and neither does
whether the answer depends on chance or on order. -/
theorem exists_read {r r₁ : Registry} {text : String} {f : Filter} (h : read r text = ⟨.ok f, r₁⟩)
    (r' : Registry) :
    ∃ f' r₁', read r' text = ⟨.ok f', r₁'⟩ ∧ f'.root.hasLimit = f.root.hasLimit ∧
      f'.root.hasRandom = f.root.hasRandom := by
  have hagree : Reading.Agree (fun _ _ => True)
      (fun f f' => ∃ n n', f = ofNode n ∧ f' = ofNode n' ∧ n.Alike (fun _ _ => True) n')
      (read r text) (read r' text) :=
    agree_read (fun _ _ => ⟨trivial, trivial⟩) trivial text
  rw [h] at hagree
  generalize read r' text = x at hagree
  cases hagree with
  | ok hf _ =>
    obtain ⟨n, n', rfl, rfl, hn⟩ := hf
    exact ⟨_, _, rfl, hn.hasLimit_eq.symm, hn.hasRandom_eq.symm⟩

end Readers

end Directory.Filter
