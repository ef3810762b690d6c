import Directory.Filter.Evaluation
import Directory.Proofs.Filter.Shape
import Directory.Proofs.Store.Alike
import Directory.Proofs.Value

/-!
# Attributes under other numbers

A text that is read twice may get different attributes, since each registry numbers new names as
they come. The two conditions are alike: they differ in attributes only, and corresponding
attributes have the same values. Then they have the same answers.

- `Filter.Node.Alike`: conditions that differ in attributes only, which correspond by a relation.
- `Filter.Node.Alike.eval_eq`: on stores that are alike, conditions that are alike have the same answers.
- `Filter.Derivation.Yields.transfer`: a text is read with every registry, to conditions that are
  alike if the registries give corresponding attributes to each name.
-/

namespace Directory

namespace Filter

/-! ## Conditions -/

namespace Node

/-- The same condition on another attribute. -/
def on (b : Attribute) : Node → Node
  | present _ => present b
  | equals _ text => equals b text
  | equalsFolded _ text => equalsFolded b text
  | glob _ pattern caseSensitive => glob b pattern caseSensitive
  | regex _ pattern caseSensitive => regex b pattern caseSensitive
  | compare _ c n => compare b c n
  | allBits _ mask => allBits b mask
  | anyBit _ mask => anyBit b mask
  | count _ c n => count b c n
  | length _ c n => length b c n
  | chain _ dn => chain b dn
  | n => n

mutual

/-- Whether two conditions differ in attributes only, and these correspond. -/
inductive Alike (R : Attribute → Attribute → Prop) : Node → Node → Prop where
  | attribute {n : Node} {a b : Attribute} :
      n.attribute? = some a → R a b → Alike R n (n.on b)
  | all {cs ds : List Node} : AlikeAmong R cs ds → Alike R (.all cs) (.all ds)
  | any {cs ds : List Node} : AlikeAmong R cs ds → Alike R (.any cs) (.any ds)
  | not {c d : Node} : Alike R c d → Alike R (.not c) (.not d)
  | limit (slot : Nat) (max : Int64) : Alike R (.limit slot max) (.limit slot max)
  | random (c : Comparator) (n : Int64) : Alike R (.random c n) (.random c n)
  | edge (e : Direction) (m : Option AttackMethod) : Alike R (.edge e m) (.edge e m)
  | edgeTo (e : Direction) (m : Option AttackMethod) {t u : Node} :
      Alike R t u → Alike R (.edgeTo e m t) (.edgeTo e m u)

/-- Whether several conditions differ in attributes only. -/
inductive AlikeAmong (R : Attribute → Attribute → Prop) : List Node → List Node → Prop where
  | nil : AlikeAmong R [] []
  | cons {c d : Node} {cs ds : List Node} :
      Alike R c d → AlikeAmong R cs ds → AlikeAmong R (c :: cs) (d :: ds)

end

mutual

theorem Alike.refl : ∀ n : Node, n.Alike Eq n
  | .all cs => .all (AlikeAmong.refl cs)
  | .any cs => .any (AlikeAmong.refl cs)
  | .not c => .not (Alike.refl c)
  | .limit slot max => .limit slot max
  | .random c n => .random c n
  | .edge e m => .edge e m
  | .edgeTo e m t => .edgeTo e m (Alike.refl t)
  | .present a => .attribute (n := .present a) rfl rfl
  | .equals a text => .attribute (n := .equals a text) rfl rfl
  | .equalsFolded a text => .attribute (n := .equalsFolded a text) rfl rfl
  | .glob a pattern c => .attribute (n := .glob a pattern c) rfl rfl
  | .regex a pattern c => .attribute (n := .regex a pattern c) rfl rfl
  | .compare a c n => .attribute (n := .compare a c n) rfl rfl
  | .allBits a mask => .attribute (n := .allBits a mask) rfl rfl
  | .anyBit a mask => .attribute (n := .anyBit a mask) rfl rfl
  | .count a c n => .attribute (n := .count a c n) rfl rfl
  | .length a c n => .attribute (n := .length a c n) rfl rfl
  | .chain a dn => .attribute (n := .chain a dn) rfl rfl

/-- Every condition is like itself. -/
theorem AlikeAmong.refl : ∀ cs : List Node, AlikeAmong Eq cs cs
  | [] => .nil
  | c :: cs => .cons (Alike.refl c) (AlikeAmong.refl cs)

end

section Eval

variable {R : Attribute → Attribute → Prop} {s s' : Store}

/-- A condition on an attribute of an entry may be asked in a store that numbers it differently. -/
theorem eval_on {ren : Nat → Nat} (hs : s.Renumbered R ren s') {n : Node} {a b : Attribute}
    (hn : n.attribute? = some a) (hab : R a b) (id : Nat) {e e' : Entry} (he : e.Alike R e')
    (m : Memory) : n.eval s id e m = (n.on b).eval s' (ren id) e' m := by
  have htexts : e.renderedOf a = e'.renderedOf b := he.texts hab
  cases n with
  | chain c dn =>
    obtain rfl : c = a := Option.some.inj hn
    rw [on, eval, eval, hs.chainLeads hab dn id he]
  | present c | equals c | equalsFolded c | glob c | regex c | compare c | allBits c | anyBit c
  | count c | length c =>
    obtain rfl : c = a := Option.some.inj hn
    simp only [on, eval, Entry.has_eq, Entry.intOf?_eq, Entry.length_valuesOf, htexts]
  | all | any | not | limit | random | edge | edgeTo => exact absurd hn (by simp [attribute?])

mutual

/-- On stores that are alike, conditions that are alike have the same answers. -/
theorem Alike.eval_eq (hs : s.Alike R s') : ∀ {n n' : Node}, n.Alike R n' →
    ∀ (id : Nat) {e e' : Entry}, e.Alike R e' → ∀ m : Memory,
      n.eval s id e m = n'.eval s' id e' m
  | _, _, .attribute hn hab, id, _, _, he, m => eval_on hs.renumbered hn hab id he m
  | _, _, .all h, id, _, _, he, m => by
    rw [eval, eval]
    exact h.evalAll_eq hs id he m
  | _, _, .any h, id, _, _, he, m => by
    rw [eval, eval]
    exact h.evalAny_eq hs id he m
  | _, _, .not h, id, _, _, he, m => by rw [eval, eval, h.eval_eq hs id he m]
  | _, _, .limit _ _, _, _, _, _, _ => rfl
  | _, _, .random _ _, _, _, _, _, _ => rfl
  | _, _, .edge d method, id, _, _, _, m => by
    rw [eval, eval, edgesBy, edgesBy, hs.edges]
  | _, _, .edgeTo d method (t := t) (u := u) h, id, _, _, _, m => by
    rw [eval, eval, edgesBy, edgesBy, hs.edges]
    refine anyInOrder_congr (fun edge m => ?_) _ _
    have hfar := hs.entries (edge.far d)
    generalize s.entry? (edge.far d) = x, s'.entry? (edge.far d) = x' at hfar
    cases hfar with
    | none => rfl
    | some hf => exact h.eval_eq hs (edge.far d) hf m

theorem AlikeAmong.evalAll_eq (hs : s.Alike R s') : ∀ {cs ds : List Node}, AlikeAmong R cs ds →
    ∀ (id : Nat) {e e' : Entry}, e.Alike R e' → ∀ m : Memory,
      evalAll s cs id e m = evalAll s' ds id e' m
  | _, _, .nil, _, _, _, _, _ => rfl
  | _, _, .cons h hcs, id, _, _, he, m => by
    rw [evalAll, evalAll, h.eval_eq hs id he m]
    simp only [hcs.evalAll_eq hs id he]

theorem AlikeAmong.evalAny_eq (hs : s.Alike R s') : ∀ {cs ds : List Node}, AlikeAmong R cs ds →
    ∀ (id : Nat) {e e' : Entry}, e.Alike R e' → ∀ m : Memory,
      evalAny s cs id e m = evalAny s' ds id e' m
  | _, _, .nil, _, _, _, _, _ => rfl
  | _, _, .cons h hcs, id, _, _, he, m => by
    rw [evalAny, evalAny, h.eval_eq hs id he m]
    simp only [hcs.evalAny_eq hs id he]

end

/-- What is asked of a store does not depend on its registry. -/
theorem eval_registry (s : Store) (r : Registry) (n : Node) (id : Nat) (e : Entry) (m : Memory) :
    n.eval { s with registry := r } id e m = n.eval s id e m := by
  have hself : ∀ e : Entry, e.Alike Eq e := fun e => ⟨rfl, fun hab => by rw [hab]⟩
  have hs : Store.Alike Eq { s with registry := r } s := by
    refine ⟨rfl, fun id => ?_, fun _ => rfl⟩
    show Option.Rel (Entry.Alike Eq) (s.entry? id) (s.entry? id)
    cases s.entry? id with
    | none => exact .none
    | some e => exact .some (hself e)
  exact (Alike.refl n).eval_eq hs id (hself e) m

end Eval

section Effects

variable {R : Attribute → Attribute → Prop}

mutual

theorem Alike.hasLimit_eq : ∀ {n n' : Node}, n.Alike R n' → n.hasLimit = n'.hasLimit
  | n, _, .attribute hn _ => by
    cases n with
    | all | any | not | limit | random | edge | edgeTo => exact nomatch hn
    | _ => rfl
  | _, _, .all h => h.hasLimitAmong_eq
  | _, _, .any h => h.hasLimitAmong_eq
  | _, _, .not h => h.hasLimit_eq
  | _, _, .limit _ _ => rfl
  | _, _, .random _ _ => rfl
  | _, _, .edge _ _ => rfl
  | _, _, .edgeTo _ _ h => h.hasLimit_eq

theorem AlikeAmong.hasLimitAmong_eq : ∀ {cs ds : List Node}, AlikeAmong R cs ds →
    hasLimitAmong cs = hasLimitAmong ds
  | _, _, .nil => rfl
  | _, _, .cons h hcs => by
    rw [hasLimitAmong, hasLimitAmong, h.hasLimit_eq, hcs.hasLimitAmong_eq]

end

mutual

theorem Alike.hasRandom_eq : ∀ {n n' : Node}, n.Alike R n' → n.hasRandom = n'.hasRandom
  | n, _, .attribute hn _ => by
    cases n with
    | all | any | not | limit | random | edge | edgeTo => exact nomatch hn
    | _ => rfl
  | _, _, .all h => h.hasRandomAmong_eq
  | _, _, .any h => h.hasRandomAmong_eq
  | _, _, .not h => h.hasRandom_eq
  | _, _, .limit _ _ => rfl
  | _, _, .random _ _ => rfl
  | _, _, .edge _ _ => rfl
  | _, _, .edgeTo _ _ h => h.hasRandom_eq

theorem AlikeAmong.hasRandomAmong_eq : ∀ {cs ds : List Node}, AlikeAmong R cs ds →
    hasRandomAmong cs = hasRandomAmong ds
  | _, _, .nil => rfl
  | _, _, .cons h hcs => by
    rw [hasRandomAmong, hasRandomAmong, h.hasRandom_eq, hcs.hasRandomAmong_eq]

end

mutual

theorem Alike.counters_eq : ∀ {n n' : Node}, n.Alike R n' → ∀ l, n.counters l = n'.counters l
  | n, _, .attribute hn _, _ => by
    cases n with
    | all | any | not | limit | random | edge | edgeTo => exact nomatch hn
    | _ => rfl
  | _, _, .all h, l => h.countersAmong_eq l
  | _, _, .any h, l => h.countersAmong_eq l
  | _, _, .not h, l => h.counters_eq l
  | _, _, .limit _ _, _ => rfl
  | _, _, .random _ _, _ => rfl
  | _, _, .edge _ _, _ => rfl
  | _, _, .edgeTo _ _ h, l => h.counters_eq l

theorem AlikeAmong.countersAmong_eq : ∀ {cs ds : List Node}, AlikeAmong R cs ds →
    ∀ l, countersAmong cs l = countersAmong ds l
  | _, _, .nil, _ => rfl
  | _, _, .cons h hcs, l => by
    rw [countersAmong, countersAmong, h.counters_eq, hcs.countersAmong_eq]

end

end Effects

end Node

/-! ## Reading with another registry -/

variable [Regex.Properties]

theorem ValueMeans.on {a : Attribute} {caseSensitive : Bool} {value : List Char} {n : Node}
    (h : ValueMeans a caseSensitive value n) (b : Attribute) :
    ValueMeans b caseSensitive value (n.on b) := by
  cases h with
  | present => exact .present
  | regex hread => exact .regex hread
  | glob hstar hslashed hwild hread => exact .glob hstar hslashed hwild hread
  | equals hcase hslashed hwild => exact .equals hcase hslashed hwild
  | equalsFolded hcase hslashed hwild => exact .equalsFolded hcase hslashed hwild

theorem TermMeans.on {a : Attribute} {modifier : Option String} {c : Comparator}
    {value : List Char} {n : Node} (h : TermMeans a modifier c value n) (b : Attribute) :
    TermMeans b modifier c value (n.on b) := by
  cases h with
  | equal caseSensitive hmodifier hequal hvalue =>
    exact .equal caseSensitive hmodifier hequal (hvalue.on b)
  | compare caseSensitive hmodifier hequal hvalue =>
    exact .compare caseSensitive hmodifier hequal hvalue
  | count hmodifier hvalue => exact .count hmodifier hvalue
  | length hmodifier hvalue => exact .length hmodifier hvalue
  | allBits hmodifier hequal hvalue => exact .allBits hmodifier hequal hvalue
  | anyBit hmodifier hequal hvalue => exact .anyBit hmodifier hequal hvalue
  | chain hmodifier hequal => exact .chain hmodifier hequal

namespace Derivation

variable {R : Attribute → Attribute → Prop} {P : Registry → Registry → Prop}

mutual

/-- What is derived with one registry is derived with another one that gives corresponding
attributes to each name, and the conditions are alike. -/
theorem Yields.transfer (hP : Registry.Corresponds R P) :
    ∀ {d : Derivation} {k k' : Knowledge} {n : Node}, d.Yields k n k' →
      ∀ {r : Registry}, P k.registry r →
        ∃ n' r', d.Yields ⟨r, k.nextSlot⟩ n' ⟨r', k'.nextSlot⟩ ∧ n.Alike R n' ∧
          P k'.registry r'
  | .wrapped _, _, _, _, .wrapped h, _, hr => by
    obtain ⟨n', r', hyields, halike, hr'⟩ := h.transfer hP hr
    exact ⟨n', r', .wrapped hyields, halike, hr'⟩
  | .all _ _, _, _, _, .all h, _, hr => by
    obtain ⟨ns', r', hyields, halike, hr'⟩ := h.transfer hP hr
    exact ⟨.all ns', r', .all hyields, .all halike, hr'⟩
  | .any _ _, _, _, _, .any h, _, hr => by
    obtain ⟨ns', r', hyields, halike, hr'⟩ := h.transfer hP hr
    exact ⟨.any ns', r', .any hyields, .any halike, hr'⟩
  | .not _, _, _, _, .not h, _, hr => by
    obtain ⟨n', r', hyields, halike, hr'⟩ := h.transfer hP hr
    exact ⟨.not n', r', .not hyields, .not halike, hr'⟩
  | .term _, _, _, _, .ordinary hp hname hn, _, hr => by
    obtain ⟨-, -, hsome⟩ := Node.shaped_of_termMeans hn
    exact ⟨_, _, .ordinary hp hname (hn.on _), .attribute hsome (hP _ hr).1, (hP _ hr).2⟩
  | .term _, _, _, _, .limit hp hm hequal hvalue, _, hr =>
    ⟨_, _, .limit hp hm hequal hvalue, .limit _ _, hr⟩
  | .term _, _, _, _, .random hp hm hvalue, _, hr =>
    ⟨_, _, .random hp hm hvalue, .random _ _, hr⟩
  | .term _, _, _, _, .edge hp hm hequal hcomma hword, _, hr =>
    ⟨_, _, .edge hp hm hequal hcomma hword, .edge _ _, hr⟩
  | .edgeTo _ _ _ _, _, _, _, .edgeTo hp hequal hcomma hword hleast h, _, hr => by
    obtain ⟨n', r', hyields, halike, hr'⟩ := h.transfer hP hr
    exact ⟨_, r', .edgeTo hp hequal hcomma hword hleast hyields, .edgeTo _ _ halike, hr'⟩

theorem YieldsAmong.transfer (hP : Registry.Corresponds R P) :
    ∀ {ds : List Derivation} {k k' : Knowledge} {ns : List Node}, YieldsAmong ds k ns k' →
      ∀ {r : Registry}, P k.registry r →
        ∃ ns' r', YieldsAmong ds ⟨r, k.nextSlot⟩ ns' ⟨r', k'.nextSlot⟩ ∧
          Node.AlikeAmong R ns ns' ∧ P k'.registry r'
  | [], _, _, _, .nil, _, hr => ⟨[], _, .nil, .nil, hr⟩
  | _ :: _, _, _, _, .cons h hs, _, hr => by
    obtain ⟨n', r', hyields, halike, hr'⟩ := h.transfer hP hr
    obtain ⟨ns', r'', hyieldsAmong, halikeAmong, hr''⟩ := hs.transfer hP hr'
    exact ⟨n' :: ns', r'', .cons hyields hyieldsAmong, .cons halike halikeAmong, hr''⟩

end

end Derivation

end Filter

end Directory
