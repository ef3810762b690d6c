import Directory.Proofs.Filter.Shape

/-!
# What every reading leaves behind

Evaluation and planning rely on facts about filters that they do not check. Reading a text
establishes them. What was known of attributes before a reading is still known after it, also if the
text is rejected.

- `Filter.Grows`: whether a step of a reading keeps what was known, fails or not.
- `Filter.grows_query`: reading a condition does; so do readings as a whole
  (`Filter.extends_readStart`).
- `Filter.Sound`: what holds of a filter that was read.
- `Filter.read_sound`: it holds of every such filter.
-/

namespace Directory.Filter

/-! ## Nothing is forgotten -/

section Grows

variable {α β : Type} {known : α → Registry} {known' : β → Registry}

/-- Whether all that was known in `r` is known after a step, whether it succeeds or not. -/
def Grows (known : α → Registry) (r : Registry) : Except Failure α → Prop
  | .ok a => (known a).Extends r
  | .error e => e.registry.Extends r

theorem Grows.trans {r r' : Registry} {x : Except Failure α} (h : Grows known r' x)
    (hr : r'.Extends r) : Grows known r x := by
  cases x with
  | ok a => exact Registry.Extends.trans h hr
  | error e => exact Registry.Extends.trans h hr

/-- Two steps keep what was known if each does. -/
theorem Grows.bind {r : Registry} {x : Except Failure α} {f : α → Except Failure β}
    (h : Grows known r x) (hf : ∀ a, (known a).Extends r → Grows known' r (f a)) :
    Grows known' r (x >>= f) := by
  cases x with
  | ok a => exact hf a h
  | error e => exact h

theorem grows_fail (s : State) (fault : Fault) : Grows known s.registry (s.fail fault) :=
  Registry.Extends.refl _

end Grows

theorem grows_close (s : State) : Grows State.registry s.registry s.close := by
  rw [State.close]
  split
  · exact Registry.Extends.refl _
  · exact grows_fail s _
  · exact grows_fail s _

/-- What comes with a condition is known after the parenthesis that follows, too. -/
theorem Grows.close {α β : Type} {r : Registry} {x : Except Failure (α × State)} {f : α → β}
    (h : Grows (·.2.registry) r x) :
    Grows (·.2.registry) r (x >>= fun p => p.2.close >>= fun s => .ok (f p.1, s)) :=
  h.bind fun p hp => ((grows_close p.2).trans hp).bind fun _ hs => hs

/-- What is known does not depend on how what was read is put together. -/
theorem Grows.map {α β : Type} {r : Registry} {x : Except Failure (α × State)} {f : α → β}
    (h : Grows (·.2.registry) r x) :
    Grows (·.2.registry) r (x >>= fun p => .ok (f p.1, p.2)) :=
  h.bind fun _ hp => hp

section Reading

variable [Regex.Properties]

mutual

/-- Reading a condition keeps what was known. -/
theorem grows_query : ∀ (fuel : Nat) (s : State),
    Grows (·.2.registry) s.registry (query fuel s)
  | 0, s => grows_fail s _
  | fuel + 1, s => by
    rw [query]
    split
    · next l _ =>
      dsimp only
      split
      · exact grows_fail (s.past _) _
      · exact (grows_query fuel (s.past _)).close (f := id)
      · exact (grows_group fuel ((s.past _).past _)).map (f := Node.all)
      · exact (grows_group fuel ((s.past _).past _)).map (f := Node.any)
      · exact (grows_query fuel ((s.past _).past _)).close (f := Node.not)
      · exact grows_term fuel (s.past l)
    · exact grows_fail s _

theorem grows_group : ∀ (fuel : Nat) (s : State), Grows (·.2.registry) s.registry (group fuel s)
  | 0, s => grows_fail s _
  | fuel + 1, s => by
    rw [group]
    refine (grows_queries fuel s).bind fun p hp => ?_
    dsimp only
    split
    · exact grows_fail s _
    · exact ((grows_close p.2).trans hp).bind fun _ ht => ht

theorem grows_queries : ∀ (fuel : Nat) (s : State),
    Grows (·.2.registry) s.registry (queries fuel s)
  | 0, s => Registry.Extends.refl _
  | fuel + 1, s => by
    rw [queries]
    split
    · refine (grows_query fuel s).bind fun p hp => ?_
      exact ((grows_queries fuel p.2).trans hp).map
    · exact Registry.Extends.refl _

theorem grows_term : ∀ (fuel : Nat) (s : State), Grows (·.2.registry) s.registry (term fuel s)
  | 0, s => grows_fail s _
  | fuel + 1, s => by
    rw [term]
    split
    · exact Registry.Extends.refl _
    · next t k hread =>
      dsimp only
      split
      · split
        · exact Registry.Extends.refl _
        · exact Registry.Extends.refl _
        · exact Registry.Extends.refl _
        · exact Registry.Extends.refl _
        · exact (grows_target fuel { s with cursor := _ }).bind fun _ hp => hp
      · -- the name is interned before the value is looked at
        have hintern : (t.condition s.registry).2.Extends s.registry :=
          Registry.extends_intern _ _
        split
        · next hn =>
          rw [hn] at hintern
          exact hintern
        · next hn =>
          rw [hn] at hintern
          exact hintern

theorem grows_target : ∀ (fuel : Nat) (s : State),
    Grows (·.2.registry) s.registry (target fuel s)
  | 0, s => grows_fail s _
  | fuel + 1, s => by
    rw [target]
    dsimp only
    split
    · exact grows_fail s _
    · refine (grows_query fuel s).bind fun p hp => ?_
      split
      · exact hp
      · exact (grows_fail p.2 _).trans hp

end

/-- What was known is known after a reading, whether the text is accepted or not. -/
theorem extends_readStart (r : Registry) (text : String) :
    (readStart r text).registry.Extends r := by
  rw [readStart]
  split
  · exact .refl r
  · split
    · exact .refl r
    · split
      · exact .refl r
      · have h := grows_query (3 * text.toList.length) ⟨⟨text.toList, 0⟩, r, 0⟩
        split
        · next hquery =>
          rw [hquery] at h
          exact h
        · next hquery =>
          rw [hquery] at h
          exact h

theorem registry_read (r : Registry) (text : String) :
    (read r text).registry = (readStart r text).registry := by
  rw [read]
  split <;> rfl

/-! ## Filters that were read -/

/-- What holds of a filter that was read, given what is known afterwards. -/
structure Sound (r : Registry) (f : Filter) : Prop where
  /-- Groups have members, no comparison of integers is for equality, and values are of the kind
  that their texts show and folded where letter case is ignored. -/
  shaped : ∀ n ∈ f.root.nodes, n.Shaped
  /-- Attributes are registered under a name, which does not begin with an underscore. -/
  named : ∀ n ∈ f.root.nodes, ∀ a ∈ n.attribute?, a.id < r.size ∧
    (r.nameOf a).toList ≠ [] ∧ (r.nameOf a).toList.head? ≠ some '_'
  /-- The slots of limits count up from zero in the order of the text, edge targets included. -/
  numbered : f.root.slots = List.range f.limits.length
  /-- The number of each limit is the initial value of its counter. -/
  counted : ∀ slot max, .limit slot max ∈ f.root.nodes → f.limits[slot]? = some max

theorem Derivation.Gives.sound {d : Derivation} {r r' : Registry} {f : Filter}
    (h : d.Gives r f r') : Sound r' f := by
  obtain ⟨n, slot, hyields, rfl⟩ := h
  have houtcome := hyields.outcome
  have hslots : n.slots = List.range n.slots.length :=
    houtcome.slots.trans List.range_eq_range'.symm
  obtain ⟨hlength, hcounted⟩ := Node.limits_ofNode hslots
  refine ⟨houtcome.shaped, fun m hm a ha => ?_, ?_, hcounted⟩
  · obtain ⟨hrecalls, hname⟩ := (houtcome.known m hm).recalls ha
    exact ⟨Registry.lt_size_of_find? hrecalls, hname⟩
  · rw [hlength]
    exact hslots

/-- **Soundness of reading.** Whatever text is read, the filter that comes of it is sound, and all
attributes that were registered before keep their names and flags, even if no filter comes of it. -/
theorem read_sound (r : Registry) (text : String) :
    (∀ f rest r', readStart r text = ⟨.ok (f, rest), r'⟩ → Sound r' f) ∧
      (∀ f r', read r text = ⟨.ok f, r'⟩ → Sound r' f) ∧
      (read r text).registry = (readStart r text).registry ∧
      (readStart r text).registry.Extends r ∧
      ∀ a, a.id < r.size → (readStart r text).registry.nameOf a = r.nameOf a ∧
        (readStart r text).registry.flagsOf a = r.flagsOf a := by
  have hstart : ∀ {f rest r'}, readStart r text = ⟨.ok (f, rest), r'⟩ → Sound r' f := by
    intro f rest r' h
    obtain ⟨-, -, -, d, -, hgives⟩ := readStart_eq_ok.mp h
    exact hgives.sound
  exact ⟨fun f rest r' => hstart, fun f r' h => hstart (read_eq_ok.mp h), registry_read r text,
    extends_readStart r text, fun a ha => (extends_readStart r text).kept ha⟩

end Reading

/-- A filter with a limit inside the condition of an edge, after one outside. -/
theorem read_sound_nested :
    ∃ f r, read .empty "(&(_limit=3)(_canpwn=*,(&(cn=a*)(_limit=2))))" = ⟨.ok f, r⟩ ∧ Sound r f ∧
      f.limits = [3, 2] := by
  have hread : ∃ f r, read .empty "(&(_limit=3)(_canpwn=*,(&(cn=a*)(_limit=2))))" = ⟨.ok f, r⟩ ∧
      f.limits = [3, 2] := by
    decide +kernel
  obtain ⟨f, r, hread, hlimits⟩ := hread
  exact ⟨f, r, hread, (read_sound .empty _).2.1 f r hread, hlimits⟩

end Directory.Filter
