import Directory.Proofs.Attribute
import Directory.Proofs.Filter.Acceptance
import Directory.Proofs.Filter.Tree

/-!
# The shape of what is derived

Conditions that a text gives have a certain shape, wherever they stand in it: groups have members,
texts are folded where letter case is ignored, patterns look like patterns and other values do not,
limits are numbered from left to right, and attributes are known by names of their own.

- `Filter.Node.Shaped`: the shape of the values of one condition.
- `Filter.Node.KnownIn`: its attribute is known by a name.
- `Filter.Outcome`: what holds of all conditions of a derivation, and of what is known after it.
- `Filter.Derivation.Yields.outcome`: every derivation has such an outcome.
-/

namespace Directory

theorem Glob.source_of_read? {s : String} {p : Glob} (h : Glob.read? s = .ok p) : p.source = s := by
  rw [read?] at h
  cases hparts : partsOf s.toList.length s.toList.length true s.toList with
  | error e =>
    rw [hparts] at h
    exact nomatch h
  | ok parts =>
    rw [hparts] at h
    exact congrArg Glob.source (Except.ok.inj h).symm

theorem Regex.source_of_read? [Regex.Properties] {ignoreCase : Bool} {s : String} {p : Regex}
    (h : Regex.read? ignoreCase s = some p) : p.source = s := by
  rw [read?] at h
  split at h
  · split at h
    · exact congrArg Regex.source (Option.some.inj h).symm
    · exact nomatch h
  · exact nomatch h

namespace Filter

open Text

/-! ## Runs of stars -/

theorem mem_squeezeStars {c : Char} (l : List Char) : c ∈ squeezeStars l ↔ c ∈ l := by
  fun_induction squeezeStars l with
  | case1 l ih => rw [ih]; simp
  | case2 d l _ ih => rw [List.mem_cons, List.mem_cons, ih]
  | case3 => rfl

theorem head?_squeezeStars (l : List Char) : (squeezeStars l).head? = l.head? := by
  fun_induction squeezeStars l with
  | case1 l ih => exact ih
  | case2 => rfl
  | case3 => rfl

theorem getLast?_squeezeStars (l : List Char) : (squeezeStars l).getLast? = l.getLast? := by
  fun_induction squeezeStars l with
  | case1 l ih => rw [ih, List.getLast?_cons_cons]
  | case2 d l _ ih => rw [List.getLast?_cons, List.getLast?_cons, ih]
  | case3 => rfl

theorem not_pair_infix_squeezeStars (l : List Char) : ¬ ['*', '*'] <:+: squeezeStars l := by
  fun_induction squeezeStars l with
  | case1 l ih => exact ih
  | case2 d l hnot ih =>
    rw [pair_infix_cons, head?_squeezeStars]
    rintro (⟨rfl, hhead⟩ | hinfix)
    · obtain ⟨m, rfl⟩ := List.head?_eq_some_iff.mp hhead
      exact hnot m rfl rfl
    · exact ih hinfix
  | case3 => simp

section GlobText

variable {m : Char} (hm : IsMark m) {caseSensitive : Bool} {value : List Char}

include hm

theorem mem_globText : m ∈ globText caseSensitive value ↔ m ∈ value := by
  cases caseSensitive with
  | true => exact mem_squeezeStars value
  | false => exact (mem_lowerAfter_iff hm).trans (mem_squeezeStars value)

theorem head?_globText :
    (globText caseSensitive value).head? = some m ↔ value.head? = some m := by
  rw [← head?_squeezeStars value]
  cases caseSensitive with
  | true => rfl
  | false => exact head?_lowerAfter hm

theorem getLast?_globText :
    (globText caseSensitive value).getLast? = some m ↔ value.getLast? = some m := by
  rw [← getLast?_squeezeStars value]
  cases caseSensitive with
  | true => rfl
  | false => exact getLast?_lowerAfter hm

end GlobText

theorem isMark_star : IsMark '*' := by decide
theorem isMark_question : IsMark '?' := by decide
theorem isMark_slash : IsMark '/' := by decide
theorem isMark_underscore : IsMark '_' := by decide

theorem not_pair_infix_globText (caseSensitive : Bool) (value : List Char) :
    ¬ ['*', '*'] <:+: globText caseSensitive value := by
  cases caseSensitive with
  | true => exact not_pair_infix_squeezeStars value
  | false =>
    intro h
    exact not_pair_infix_squeezeStars value ((pair_infix_lowerAfter isMark_star).mp h)

theorem slashed_iff {value : List Char} :
    Slashed value ↔ value.head? = some '/' ∧ value.getLast? = some '/' ∧ value ≠ ['/'] := by
  constructor
  · rintro ⟨source, rfl⟩
    exact ⟨rfl, List.getLast?_concat, by simp⟩
  · rintro ⟨hhead, hlast, hne⟩
    obtain ⟨front, rfl⟩ := List.getLast?_eq_some_iff.mp hlast
    cases front with
    | nil => exact absurd rfl hne
    | cons c source =>
      obtain rfl : c = '/' := Option.some.inj hhead
      exact ⟨source, rfl⟩

/-! ## Values -/

namespace Node

/-- Whether a text is all of a value, and no pattern. -/
def Literal (text : String) : Prop :=
  ¬ Slashed text.toList ∧ ¬ Wild text.toList

instance (text : String) : Decidable (Literal text) :=
  inferInstanceAs (Decidable (_ ∧ _))

theorem literal_lower {value : List Char} (hslashed : ¬ Slashed value) (hwild : ¬ Wild value) :
    Literal (String.ofList (lowerChars value)) := by
  rw [Literal, String.toList_ofList]
  -- slashes keep their places, and wildcards come from wildcards only
  constructor
  · intro h
    obtain ⟨hhead, hlast, hne⟩ := slashed_iff.mp h
    refine hslashed (slashed_iff.mpr ⟨(head?_lowerAfter isMark_slash).mp hhead,
      (getLast?_lowerAfter isMark_slash).mp hlast, ?_⟩)
    rintro rfl
    exact hne ((lowerAfter_eq_singleton_iff isMark_slash).mpr rfl)
  · rintro (h | h)
    · exact hwild (.inl ((mem_lowerAfter_iff isMark_question).mp h))
    · exact hwild (.inr ((mem_lowerAfter_iff isMark_star).mp h))

/-- Whether the attribute of a condition is known by a name that does not begin with an
underscore. -/
def KnownIn (r : Registry) (n : Node) : Prop :=
  ∀ a ∈ n.attribute?, ∃ name : String, r.find? name = some a ∧ name.toList ≠ [] ∧
    name.toList.head? ≠ some '_'

theorem KnownIn.extends {r r' : Registry} {n : Node} (h : n.KnownIn r) (hr : r'.Extends r) :
    n.KnownIn r' := by
  intro a ha
  obtain ⟨name, hfind, hname⟩ := h a ha
  exact ⟨name, hr.find? hfind, hname⟩

/-- An attribute that is known by some name is known by its own, which is a name of that kind. -/
theorem KnownIn.recalls {r : Registry} {n : Node} (h : n.KnownIn r) {a : Attribute}
    (ha : a ∈ n.attribute?) :
    r.Recalls a ∧ (r.nameOf a).toList ≠ [] ∧ (r.nameOf a).toList.head? ≠ some '_' := by
  obtain ⟨name, hfind, hne, hhead⟩ := h a ha
  obtain ⟨hrecalls, hlower⟩ := Registry.recalls_of_find? hfind
  -- both names fold to the same text, which shows whether they begin with an underscore
  have hchars : lowerChars (r.nameOf a).toList = lowerChars name.toList :=
    String.ofList_injective hlower
  refine ⟨hrecalls, fun hnil => hne ?_, fun hmark => hhead ?_⟩
  · refine lowerAfter_eq_nil_iff.mp (hchars.symm.trans ?_)
    rw [hnil]
    rfl
  · have hlowered : (lowerChars (r.nameOf a).toList).head? = some '_' :=
      (head?_lowerAfter isMark_underscore).mpr hmark
    rw [hchars] at hlowered
    exact (head?_lowerAfter isMark_underscore).mp hlowered

variable [Regex.Properties]

/-- Whether the values of a condition are such as a text gives: groups have members, patterns are
those that their texts spell, and a value is of the kind that its text shows. -/
def Shaped : Node → Prop
  | all cs => cs ≠ []
  | any cs => cs ≠ []
  | equals _ text => Literal text
  | equalsFolded _ text => Literal text ∧ lower text = text
  | glob _ p caseSensitive =>
    Wild p.source.toList ∧ ¬ ['*', '*'] <:+: p.source.toList ∧ ¬ Slashed p.source.toList ∧
      (caseSensitive = false → lower p.source = p.source) ∧ Glob.read? p.source = .ok p
  | regex _ p caseSensitive => Regex.read? (!caseSensitive) p.source = some p
  | compare _ c _ => c ≠ .equal
  | _ => True

instance (x : Except Glob.Error Glob) (p : Glob) : Decidable (x = .ok p) :=
  match x with
  | .ok q => decidable_of_iff (q = p) ⟨congrArg _, Except.ok.inj⟩
  | .error _ => .isFalse nofun

instance : DecidablePred Shaped
  | all cs | any cs => inferInstanceAs (Decidable (cs ≠ []))
  | equals _ text => inferInstanceAs (Decidable (Literal text))
  | equalsFolded _ text => inferInstanceAs (Decidable (Literal text ∧ lower text = text))
  | glob _ _ _ => inferInstanceAs (Decidable (_ ∧ _ ∧ _ ∧ (_ → _) ∧ _))
  | regex _ _ _ => inferInstanceAs (Decidable (_ = _))
  | compare _ c _ => inferInstanceAs (Decidable (c ≠ .equal))
  | not _ | present _ | allBits _ _ | anyBit _ _ | count _ _ _ | length _ _ _ | chain _ _
  | limit _ _ | random _ _ | edge _ _ | edgeTo _ _ _ => inferInstanceAs (Decidable True)

theorem shaped_glob {a : Attribute} {caseSensitive : Bool} {value : List Char} {p : Glob}
    (hslashed : ¬ Slashed value) (hwild : Wild value)
    (hread : Glob.read? (String.ofList (globText caseSensitive value)) = .ok p) :
    (glob a p caseSensitive).Shaped := by
  have hsource := Glob.source_of_read? hread
  have htext : p.source.toList = globText caseSensitive value := by
    rw [hsource, String.toList_ofList]
  rw [Shaped, htext]
  refine ⟨?_, not_pair_infix_globText _ _, ?_, ?_, hsource ▸ hread⟩
  · exact hwild.imp (mem_globText isMark_question).mpr (mem_globText isMark_star).mpr
  · intro h
    obtain ⟨hhead, hlast, -⟩ := slashed_iff.mp h
    refine hslashed (slashed_iff.mpr ⟨(head?_globText isMark_slash).mp hhead,
      (getLast?_globText isMark_slash).mp hlast, ?_⟩)
    rintro rfl
    exact absurd hwild (by decide)
  · rintro rfl
    rw [hsource, lower, String.toList_ofList, globText, if_neg (by simp), lowerChars_lowerChars]

/-- A value that is compared for equality gives a condition of the right shape. -/
theorem shaped_of_valueMeans {a : Attribute} {caseSensitive : Bool} {value : List Char} {n : Node}
    (h : ValueMeans a caseSensitive value n) :
    n.Shaped ∧ n.nodes = [n] ∧ n.attribute? = some a := by
  cases h with
  | present => exact ⟨trivial, rfl, rfl⟩
  | regex hread =>
    refine ⟨?_, rfl, rfl⟩
    rw [Shaped, Regex.source_of_read? hread]
    exact hread
  | glob _ hslashed hwild hread => exact ⟨shaped_glob hslashed hwild hread, rfl, rfl⟩
  | equals _ hslashed hwild =>
    refine ⟨?_, rfl, rfl⟩
    rw [Shaped, Literal, String.toList_ofList]
    exact ⟨hslashed, hwild⟩
  | equalsFolded _ hslashed hwild =>
    refine ⟨⟨literal_lower hslashed hwild, ?_⟩, rfl, rfl⟩
    rw [lower, String.toList_ofList, lowerChars_lowerChars]

theorem shaped_of_termMeans {a : Attribute} {modifier : Option String} {c : Comparator}
    {value : List Char} {n : Node} (h : TermMeans a modifier c value n) :
    n.Shaped ∧ n.nodes = [n] ∧ n.attribute? = some a := by
  cases h with
  | equal _ _ _ hvalue => exact shaped_of_valueMeans hvalue
  | compare _ _ hequal => exact ⟨hequal, rfl, rfl⟩
  | count | length | allBits | anyBit | chain => exact ⟨trivial, rfl, rfl⟩

end Node

/-! ## Outcomes -/

variable [Regex.Properties]

/-- What holds of all conditions that a text gives, in order, and of what is known after them. -/
structure Outcome (k : Knowledge) (ns : List Node) (k' : Knowledge) : Prop where
  /-- Names were added only. -/
  grows : k'.registry.Extends k.registry
  /-- Attributes are known. -/
  known : ∀ n ∈ ns, n.KnownIn k'.registry
  /-- Values have their shape. -/
  shaped : ∀ n ∈ ns, n.Shaped
  /-- Limits are numbered from the next slot on. -/
  slots : ns.filterMap Node.slot? = List.range' k.nextSlot (ns.filterMap Node.slot?).length
  /-- The next slot is that after the last limit. -/
  nextSlot : k'.nextSlot = k.nextSlot + (ns.filterMap Node.slot?).length

namespace Outcome

variable {k k' k'' : Knowledge} {ns ns' : List Node}

theorem nil : Outcome k [] k where
  grows := .refl _
  known := nofun
  shaped := nofun
  slots := rfl
  nextSlot := rfl

theorem append (h : Outcome k ns k') (h' : Outcome k' ns' k'') : Outcome k (ns ++ ns') k'' where
  grows := h'.grows.trans h.grows
  known n hn := (List.mem_append.mp hn).elim
    (fun hn => (h.known n hn).extends h'.grows) (h'.known n)
  shaped n hn := (List.mem_append.mp hn).elim (h.shaped n) (h'.shaped n)
  slots := by
    rw [List.filterMap_append, List.length_append, ← List.range'_append_1, ← h.slots, ← h.nextSlot,
      ← h'.slots]
  nextSlot := by
    rw [List.filterMap_append, List.length_append, ← Nat.add_assoc, ← h.nextSlot, ← h'.nextSlot]

/-- A condition without attribute or slot before others. -/
theorem cons {n : Node} (hn : n.Shaped) (hattribute : n.attribute? = none)
    (hslot : n.slot? = none) (h : Outcome k ns k') : Outcome k (n :: ns) k' where
  grows := h.grows
  known m hm := by
    rcases List.mem_cons.mp hm with rfl | hm
    · intro a ha
      rw [hattribute] at ha
      exact nomatch ha
    · exact h.known m hm
  shaped m hm := (List.mem_cons.mp hm).elim (fun heq => heq ▸ hn) (h.shaped m)
  slots := by
    rw [List.filterMap_cons_none hslot]
    exact h.slots
  nextSlot := by
    rw [List.filterMap_cons_none hslot]
    exact h.nextSlot

theorem ordinary {name : List Char} (hne : name ≠ []) (hname : name.head? ≠ some '_')
    {modifier : Option String} {c : Comparator} {value : List Char} {n : Node}
    (h : TermMeans (k.attributeOf name) modifier c value n) : Outcome k n.nodes (k.seen name) := by
  obtain ⟨hshaped, hnodes, hattribute⟩ := Node.shaped_of_termMeans h
  have hslot : n.slot? = none := by
    cases n <;> first | rfl | exact nomatch hattribute
  rw [hnodes]
  refine ⟨Registry.extends_intern _ _, fun m hm a ha => ?_, fun m hm => ?_, ?_, ?_⟩
  · obtain rfl := List.mem_singleton.mp hm
    rw [hattribute] at ha
    obtain rfl := Option.some.inj ha
    refine ⟨String.ofList name, Registry.find?_intern _ _, ?_⟩
    rw [String.toList_ofList]
    exact ⟨hne, hname⟩
  · obtain rfl := List.mem_singleton.mp hm
    exact hshaped
  · rw [List.filterMap_cons_none hslot]
    rfl
  · rw [List.filterMap_cons_none hslot]
    rfl

theorem limit (max : Int64) : Outcome k [.limit k.nextSlot max] k.limited where
  grows := .refl _
  known m hm a ha := by
    obtain rfl := List.mem_singleton.mp hm
    exact nomatch ha
  shaped m hm := List.mem_singleton.mp hm ▸ trivial
  slots := rfl
  nextSlot := rfl

end Outcome

namespace Derivation

mutual

/-- The conditions of a derivation have their shape. -/
theorem Yields.outcome : ∀ {d : Derivation} {k k' : Knowledge} {n : Node}, d.Yields k n k' →
    Outcome k n.nodes k'
  | .wrapped _, _, _, _, .wrapped h => h.outcome
  | .all _ _, _, _, _, .all h => h.outcome.cons h.ne_nil rfl rfl
  | .any _ _, _, _, _, .any h => h.outcome.cons h.ne_nil rfl rfl
  | .not _, _, _, _, .not h => h.outcome.cons trivial rfl rfl
  | .term _, _, _, _, .ordinary hp hname hn => .ordinary hp.name_ne_nil hname hn
  | .term _, _, _, _, .limit _ _ _ _ => .limit _
  | .term _, _, _, _, .random _ _ _ => Outcome.nil.cons trivial rfl rfl
  | .term _, _, _, _, .edge _ _ _ _ _ => Outcome.nil.cons trivial rfl rfl
  | .edgeTo _ _ _ _, _, _, _, .edgeTo _ _ _ _ _ h => h.outcome.cons trivial rfl rfl

theorem YieldsAmong.outcome : ∀ {ds : List Derivation} {k k' : Knowledge} {ns : List Node},
    YieldsAmong ds k ns k' → Outcome k (Node.nodesAmong ns) k'
  | [], _, _, _, .nil => .nil
  | _ :: _, _, _, _, .cons h hs => h.outcome.append hs.outcome

end

end Derivation

end Filter

end Directory
