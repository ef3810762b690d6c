import Directory.Proofs.Decimal
import Directory.Proofs.Filter.Shape

/-!
# Canonical texts are read back

The canonical text of a condition has a derivation that yields the condition again, provided the
condition is one that a text can have. Edge targets stand in the text as they are, so the text of
every condition has its parentheses in pairs.

- `Filter.Node.Fit`: what is asked of each condition by itself, for its text to be read back.
- `Filter.Node.exists_yields`: the derivation of a canonical text.
- `Filter.Node.WellFormed`: what is asked of a condition as a whole.
- `Filter.read_render`: reading undoes rendering.
-/

namespace Directory.Filter

open Text (lower lowerChars)

/-! ## Marked texts -/

theorem escaped_cons (c : Char) (l : List Char) :
    escaped (c :: l) = (if isSyntax c then ['\\', c] else [c]) ++ escaped l :=
  List.flatMap_cons

theorem Resolves.append {stops raw l raw' l' : List Char} (h : Resolves stops raw l)
    (h' : Resolves stops raw' l') : Resolves stops (raw ++ raw') (l ++ l') := by
  induction h with
  | nil => exact h'
  | escape _ ih => exact ih.escape
  | plain hc hstop _ ih => exact ih.plain hc hstop

theorem resolves_self {stops l : List Char} (h : l.all fun c => c ≠ '\\' ∧ c ∉ stops) :
    Resolves stops l l := by
  induction l with
  | nil => exact .nil
  | cons c l ih =>
    rw [List.all_cons, Bool.and_eq_true, decide_eq_true_eq] at h
    obtain ⟨⟨hc, hstop⟩, hl⟩ := h
    exact (ih hl).plain hc hstop

theorem resolves_escaped {stops : List Char} (h : stops.all isSyntax) :
    ∀ l, Resolves stops (escaped l) l
  | [] => .nil
  | c :: l => by
    rw [escaped_cons]
    split
    · exact (resolves_escaped h l).escape
    · rename_i hc
      refine (resolves_escaped h l).plain ?_ fun hstop => hc (List.all_eq_true.mp h c hstop)
      rintro rfl
      exact hc (by decide)

theorem Paired.append {l m : List Char} (h : Paired l) (h' : Paired m) : Paired (l ++ m) := by
  induction h with
  | nil => exact h'
  | escape _ ih => exact ih.escape
  | plain hc _ ih => exact ih.plain hc
  | @nested l₁ l₂ hl _ _ ih =>
    rw [List.append_assoc, List.cons_append]
    exact hl.nested ih

theorem Paired.between {l : List Char} (h : Paired l) : Paired ('(' :: l ++ [')']) :=
  h.nested .nil

theorem paired_self {l : List Char} (h : l.all (· ∉ ['\\', '(', ')'])) : Paired l := by
  induction l with
  | nil => exact .nil
  | cons c l ih =>
    rw [List.all_cons, Bool.and_eq_true, decide_eq_true_eq] at h
    obtain ⟨hc, hl⟩ := h
    exact (ih hl).plain hc

theorem paired_escaped : ∀ l, Paired (escaped l)
  | [] => .nil
  | c :: l => by
    rw [escaped_cons]
    split
    · exact (paired_escaped l).escape
    · rename_i hc
      refine (paired_escaped l).plain fun hmem => hc ?_
      simp only [List.mem_cons, List.not_mem_nil, or_false] at hmem
      rcases hmem with rfl | rfl | rfl <;> decide

theorem plain_digits {c : Char} {n : Int64} (h : c ∈ Decimal.digits n) :
    c ∉ ['\\', '(', ')', '='] := by
  intro hmem
  simp only [List.mem_cons, List.not_mem_nil, or_false] at hmem
  rcases Decimal.mem_digits h with rfl | hdigit
  · exact absurd hmem (by decide)
  · rcases hmem with rfl | rfl | rfl | rfl <;> exact absurd hdigit (by decide)

theorem resolves_digits (n : Int64) : Resolves [')'] (Decimal.digits n) (Decimal.digits n) := by
  refine resolves_self (List.all_eq_true.mpr fun c hc => decide_eq_true ?_)
  have hplain := plain_digits hc
  simp only [List.mem_cons, List.not_mem_nil, or_false, not_or] at hplain ⊢
  exact ⟨hplain.1, hplain.2.2.1⟩

theorem paired_digits (n : Int64) : Paired (Decimal.digits n) := by
  refine paired_self (List.all_eq_true.mpr fun c hc => decide_eq_true fun hmem => ?_)
  apply plain_digits hc
  simp only [List.mem_cons, List.not_mem_nil, or_false] at hmem ⊢
  exact hmem.imp_right fun h => h.imp_right .inl

theorem head?_digits (n : Int64) : (Decimal.digits n).head? ≠ some '=' := by
  intro h
  obtain ⟨l, hl⟩ := List.head?_eq_some_iff.mp h
  exact plain_digits (hl ▸ List.mem_cons_self) (by decide)

/-! ## Parentheses in canonical texts -/

namespace Node

theorem paired_termText {left middle right : List Char} (hl : Paired left) (hm : Paired middle)
    (hr : Paired right) : Paired (termText left middle right) :=
  ((hl.append hm).append hr).between

theorem paired_symbol (c : Comparator) : Paired c.symbol.toList := by
  cases c <;> exact paired_self (by decide)

theorem paired_caseModifier (caseSensitive : Bool) :
    Paired (caseModifier caseSensitive ++ ['=']) := by
  cases caseSensitive <;> exact paired_self (by decide)

theorem paired_directionWord (e : Direction) : Paired (directionWord e).toList := by
  cases e <;> exact paired_self (by decide)

theorem paired_methodWord (m : Option AttackMethod) : Paired (methodWord m) := by
  rcases m with _ | m
  · exact paired_self (by decide)
  · cases m <;> exact paired_self (by decide)

mutual

/-- The parentheses in the text of a condition pair up. -/
theorem paired_text (r : Registry) : ∀ n : Node, Paired (n.text r)
  | all cs => ((paired_textAmong r cs).plain (by decide)).between
  | any cs => ((paired_textAmong r cs).plain (by decide)).between
  | not c => ((paired_text r c).plain (by decide)).between
  | present _ =>
    paired_termText (paired_escaped _) (paired_self (by decide)) (paired_self (by decide))
  | equals _ _ => paired_termText (paired_escaped _) (paired_caseModifier true) (paired_escaped _)
  | equalsFolded _ _ =>
    paired_termText (paired_escaped _) (paired_self (by decide)) (paired_escaped _)
  | glob _ _ cs => paired_termText (paired_escaped _) (paired_caseModifier cs) (paired_escaped _)
  | regex _ _ cs =>
    paired_termText (paired_escaped _) (paired_caseModifier cs)
      (((paired_escaped _).append (paired_self (by decide))).plain (by decide))
  | compare _ c n => paired_termText (paired_escaped _) (paired_symbol c) (paired_digits n)
  | allBits _ m => paired_termText (paired_escaped _) (paired_self (by decide)) (paired_digits m)
  | anyBit _ m => paired_termText (paired_escaped _) (paired_self (by decide)) (paired_digits m)
  | count _ c n | length _ c n =>
    paired_termText (paired_escaped _) ((paired_self (by decide)).append (paired_symbol c))
      (paired_digits n)
  | chain _ _ => paired_termText (paired_escaped _) (paired_self (by decide)) (paired_escaped _)
  | limit _ max =>
    paired_termText (paired_self (by decide)) (paired_self (by decide)) (paired_digits max)
  | random c n => paired_termText (paired_self (by decide)) (paired_symbol c) (paired_digits n)
  | edge e m =>
    paired_termText (paired_directionWord e) (paired_self (by decide)) (paired_methodWord m)
  | edgeTo e m t =>
    paired_termText (paired_directionWord e) (paired_self (by decide))
      ((paired_methodWord m).append ((paired_text r t).plain (by decide)))

theorem paired_textAmong (r : Registry) : ∀ cs : List Node, Paired (textAmong r cs)
  | [] => .nil
  | c :: cs => (paired_text r c).append (paired_textAmong r cs)

end

end Node

/-! ## Terms of canonical texts -/

/-- The sign for a comparison. -/
def Sign.ofComparator : Comparator → Sign
  | .equal => .equal
  | .less => .less
  | .lessOrEqual => .lessOrEqual
  | .greater => .greater
  | .greaterOrEqual => .greaterOrEqual

theorem Sign.text_ofComparator (c : Comparator) : (ofComparator c).text = c.symbol.toList := by
  cases c <;> rfl

@[simp] theorem Sign.comparator_ofComparator (c : Comparator) :
    (ofComparator c).comparator = c := by
  cases c <;> rfl

theorem termText_eq (name : List Char) (modifier : Option (List Char)) (sign : Sign)
    (value : List Char) :
    termText name (modifierText modifier ++ sign.text) value =
      (Derivation.term ⟨name, modifier, sign, value⟩).text := by
  simp [termText, Derivation.text, Spelling.text]

/-- Whether a name is not empty and does not begin like something else than the name of an
attribute. -/
def PlainName (name : List Char) : Prop :=
  ∃ c, name.head? = some c ∧ c ∉ ['_', '&', '|', '!']

instance (name : List Char) : Decidable (PlainName name) :=
  match name with
  | [] => .isFalse fun ⟨_, h, _⟩ => nomatch h
  | c :: _ =>
    decidable_of_iff (c ∉ ['_', '&', '|', '!'])
      ⟨fun h => ⟨c, rfl, h⟩, fun ⟨_, hc, h⟩ => Option.some.inj hc ▸ h⟩

theorem PlainName.head?_escaped {name : List Char} (h : PlainName name) :
    ∃ c, (escaped name).head? = some c ∧ c ∉ ['(', '&', '|', '!'] := by
  obtain ⟨c, hc, hplain⟩ := h
  obtain ⟨l, rfl⟩ := List.head?_eq_some_iff.mp hc
  rw [escaped_cons]
  split
  · exact ⟨'\\', rfl, by decide⟩
  · rename_i hsyntax
    refine ⟨c, rfl, ?_⟩
    simp only [List.mem_cons, List.not_mem_nil, or_false, not_or] at hplain ⊢
    refine ⟨?_, hplain.2⟩
    rintro rfl
    exact hsyntax (by decide)

theorem PlainName.head?_ne {name : List Char} (h : PlainName name) : name.head? ≠ some '_' := by
  obtain ⟨c, hc, hplain⟩ := h
  rw [hc]
  intro hmark
  rw [Option.some.inj hmark] at hplain
  exact hplain (by decide)

theorem denotes_plainName {name raw value : List Char} (hname : PlainName name)
    {modifier : Option String} (hmodifier : ':' ∉ (modifier.getD "").toList) {sign : Sign}
    (hsign : sign.isOpen = true → raw.head? ≠ some '=') (hvalue : Resolves [')'] raw value) :
    Spelling.Denotes ⟨escaped name, modifier.map String.toList, sign, raw⟩ name value where
  named := resolves_escaped (by decide) name
  start := hname.head?_escaped
  modifier m hm := by
    obtain ⟨m', rfl, rfl⟩ := Option.map_eq_some_iff.mp hm
    exact hmodifier
  sign := hsign
  value := by
    rw [if_neg (Bool.eq_false_iff.mp (Term.holdsCondition_of_head hname.head?_ne))]
    exact hvalue

/-- A term on an attribute is derived under the canonical name, if that leads back. -/
theorem exists_term [Regex.Properties] {k : Knowledge} {a : Attribute} (ha : k.registry.Recalls a)
    (hname : PlainName (k.registry.nameOf a).toList) (modifier : Option String)
    (hmodifier : ':' ∉ (modifier.getD "").toList) (sign : Sign) {raw value : List Char}
    (hsign : sign.isOpen = true → raw.head? ≠ some '=') (hvalue : Resolves [')'] raw value)
    {n : Node} (hn : TermMeans a modifier sign.comparator value n)
    (htext : n.text k.registry = termText (nameText k.registry a)
      (modifierText (modifier.map String.toList) ++ sign.text) raw) :
    ∃ d : Derivation, d.text = n.text k.registry ∧ d.Yields k n k := by
  have hp := denotes_plainName hname hmodifier hsign hvalue
  have hwritten : (modifier.map String.toList).map String.ofList = modifier := by
    cases modifier with
    | none => rfl
    | some m => exact congrArg some String.ofList_toList
  have hyields := Derivation.Yields.ordinary (k := k) (n := n) hp hname.head?_ne
  rw [Knowledge.attributeOf, Knowledge.seen, String.ofList_toList, ha.intern] at hyields
  rw [htext, termText_eq]
  refine ⟨_, rfl, hyields ?_⟩
  rw [hwritten]
  exact hn

/-! ## What can be read back -/

namespace Node

/-- Whether a condition is a pattern of one star, which is written like a condition of another
kind. -/
def IsStar : Node → Prop
  | glob _ p _ => p.source.toList = ['*']
  | _ => False

instance : DecidablePred IsStar
  | glob _ p _ => inferInstanceAs (Decidable (p.source.toList = ['*']))
  | all _ | any _ | not _ | present _ | equals _ _ | equalsFolded _ _ | regex _ _ _
  | compare _ _ _ | allBits _ _ | anyBit _ _ | count _ _ _ | length _ _ _ | chain _ _ | limit _ _
  | random _ _ | edge _ _ | edgeTo _ _ _ => inferInstanceAs (Decidable False)

theorem squeezeStars_eq_self : ∀ {l : List Char}, ¬ ['*', '*'] <:+: l → squeezeStars l = l
  | [], _ => rfl
  | [c], _ => by
    rw [squeezeStars]
    · rfl
    · intro l _ h
      exact nomatch h
  | c :: d :: l, h => by
    have htail : ¬ ['*', '*'] <:+: d :: l := fun hinfix => h (List.infix_cons hinfix)
    rw [squeezeStars, squeezeStars_eq_self htail]
    rintro m rfl hm
    obtain ⟨rfl, -⟩ := List.cons.inj hm
    exact h ⟨[], l, rfl⟩

theorem globText_eq_self {l : List Char} {caseSensitive : Bool} (hstars : ¬ ['*', '*'] <:+: l)
    (hfold : caseSensitive = false → lowerChars l = l) : globText caseSensitive l = l := by
  rw [globText, squeezeStars_eq_self hstars]
  cases caseSensitive with
  | true => rfl
  | false => exact hfold rfl

theorem lowerChars_toList {s : String} (h : lower s = s) : lowerChars s.toList = s.toList := by
  have hs := congrArg String.toList h
  rwa [lower, String.toList_ofList] at hs

/-- A special term with its name, which is written as it stands. -/
theorem denotes_special {name raw value : List Char}
    (hname : name.all fun c => c ≠ '\\' ∧ c ∉ nameStops) (hhead : name.head? = some '_')
    {sign : Sign} (hsign : sign.isOpen = true → raw.head? ≠ some '=')
    (hvalue : if Term.holdsCondition name then Paired raw ∧ raw = value
      else Resolves [')'] raw value) :
    Spelling.Denotes ⟨name, none, sign, raw⟩ name value where
  named := resolves_self hname
  start := ⟨'_', hhead, by decide⟩
  modifier := nofun
  sign := hsign
  value := hvalue

theorem denotes_directionWord {e : Direction} {raw : List Char} (h : Paired raw) :
    Spelling.Denotes ⟨(directionWord e).toList, none, .equal, raw⟩ (directionWord e).toList
      raw := by
  cases e with
  | canPwn => exact denotes_special (by decide) rfl nofun ⟨h, rfl⟩
  | pwnableBy => exact denotes_special (by decide) rfl nofun ⟨h, rfl⟩

theorem wordMeans_methodWord (m : Option AttackMethod) : WordMeans (methodWord m) m := by
  rcases m with _ | m
  · exact .star
  · exact .method (by cases m <;> decide)

theorem comma_not_mem_methodWord (m : Option AttackMethod) : ',' ∉ methodWord m := by
  rcases m with _ | m
  · decide
  · cases m <;> decide

theorem text_ends (r : Registry) (n : Node) :
    (n.text r).head? = some '(' ∧ (n.text r).getLast? = some ')' := by
  cases n <;> exact ⟨rfl, List.getLast?_concat⟩

variable [Regex.Properties]

/-- What is asked of each condition by itself, for its text to be read back. -/
structure Fit (r : Registry) (n : Node) : Prop where
  /-- The name of the attribute leads back to it. -/
  recalls : ∀ a ∈ n.attribute?, r.Recalls a
  /-- The name does not begin like something else than a name. -/
  plainName : ∀ a ∈ n.attribute?, PlainName (r.nameOf a).toList
  /-- Values are such as a text gives. -/
  shaped : n.Shaped
  /-- The condition is written like no other kind. -/
  notStar : ¬ n.IsStar
  /-- The text of the condition at the end of an edge is long enough. -/
  long : ∀ t ∈ n.target?, leastBytes ≤ byteLength (t.text r)

theorem valueMeans_literal {a : Attribute} {text : String} (h : Literal text) :
    ValueMeans a true text.toList (.equals a text) := by
  have hvalue := ValueMeans.equals (a := a) rfl h.1 h.2
  rwa [String.ofList_toList] at hvalue

theorem valueMeans_folded {a : Attribute} {text : String} (h : Literal text)
    (hfold : lower text = text) : ValueMeans a false text.toList (.equalsFolded a text) := by
  have hvalue := ValueMeans.equalsFolded (a := a) rfl h.1 h.2
  rwa [lowerChars_toList hfold, String.ofList_toList] at hvalue

theorem valueMeans_glob {a : Attribute} {p : Glob} {caseSensitive : Bool}
    (h : (glob a p caseSensitive).Shaped) (hstar : ¬ (glob a p caseSensitive).IsStar) :
    ValueMeans a caseSensitive p.source.toList (.glob a p caseSensitive) := by
  obtain ⟨hwild, hstars, hslashed, hfold, hread⟩ := h
  refine .glob hstar hslashed hwild ?_
  rw [globText_eq_self hstars fun hcase => lowerChars_toList (hfold hcase), String.ofList_toList]
  exact hread

/-- A condition on an attribute is derived from its canonical text. -/
theorem exists_term_of_attribute {k : Knowledge} {n : Node} (h : n.Fit k.registry) {a : Attribute}
    (ha : n.attribute? = some a) :
    ∃ d : Derivation, d.text = n.text k.registry ∧ d.Yields k n k := by
  have hrecalls := h.recalls a ha
  have hname := h.plainName a ha
  have hshaped := h.shaped
  have hterm := exists_term hrecalls hname
  cases n with
  | present b =>
    obtain rfl := Option.some.inj ha
    exact hterm none (by decide) .equal nofun (resolves_self (by decide))
      (.equal false rfl rfl .present) rfl
  | equals b text =>
    obtain rfl := Option.some.inj ha
    exact hterm (some "caseExactMatch") (by decide) .equal nofun (resolves_escaped (by decide) _)
      (.equal true rfl rfl (valueMeans_literal hshaped)) rfl
  | equalsFolded b text =>
    obtain rfl := Option.some.inj ha
    exact hterm none (by decide) .equal nofun (resolves_escaped (by decide) _)
      (.equal false rfl rfl (valueMeans_folded hshaped.1 hshaped.2)) rfl
  | glob b p caseSensitive =>
    obtain rfl := Option.some.inj ha
    refine hterm (caseWord caseSensitive) (by cases caseSensitive <;> decide) .equal nofun
      (resolves_escaped (by decide) _)
      (.equal caseSensitive rfl rfl (valueMeans_glob hshaped h.notStar)) ?_
    cases caseSensitive <;> rfl
  | regex b p caseSensitive =>
    obtain rfl := Option.some.inj ha
    have hvalue : ValueMeans b caseSensitive ('/' :: p.source.toList ++ ['/'])
        (.regex b p caseSensitive) := .regex (by rw [String.ofList_toList]; exact hshaped)
    have hraw : Resolves [')'] ('/' :: escaped p.source.toList ++ ['/'])
        ('/' :: p.source.toList ++ ['/']) :=
      ((resolves_escaped (by decide) _).append (resolves_self (by decide))).plain (by decide)
        (by decide)
    refine hterm (caseWord caseSensitive) (by cases caseSensitive <;> decide) .equal nofun hraw
      (.equal caseSensitive rfl rfl hvalue) ?_
    cases caseSensitive <;> rfl
  | compare b c n =>
    obtain rfl := Option.some.inj ha
    refine hterm none (by decide) (.ofComparator c) (fun _ => head?_digits n) (resolves_digits n)
      ?_ ?_
    · rw [Sign.comparator_ofComparator]
      exact .compare false rfl hshaped (Decimal.read?_digits n)
    · rw [Sign.text_ofComparator]
      rfl
  | allBits b mask =>
    obtain rfl := Option.some.inj ha
    exact hterm (some "and") (by decide) .equal nofun (resolves_digits mask)
      (.allBits (by decide) rfl (Decimal.read?_digits mask)) rfl
  | anyBit b mask =>
    obtain rfl := Option.some.inj ha
    exact hterm (some "or") (by decide) .equal nofun (resolves_digits mask)
      (.anyBit (by decide) rfl (Decimal.read?_digits mask)) rfl
  | count b c n =>
    obtain rfl := Option.some.inj ha
    refine hterm (some "count") (by decide) (.ofComparator c) (fun _ => head?_digits n)
      (resolves_digits n) ?_ ?_
    · rw [Sign.comparator_ofComparator]
      exact .count rfl (Decimal.read?_digits n)
    · rw [Sign.text_ofComparator]
      rfl
  | length b c n =>
    obtain rfl := Option.some.inj ha
    refine hterm (some "length") (by decide) (.ofComparator c) (fun _ => head?_digits n)
      (resolves_digits n) ?_ ?_
    · rw [Sign.comparator_ofComparator]
      exact .length (by decide) (Decimal.read?_digits n)
    · rw [Sign.text_ofComparator]
      rfl
  | chain b dn =>
    obtain rfl := Option.some.inj ha
    refine hterm (some "dnchain") (by decide) .equal nofun (resolves_escaped (by decide) _) ?_ rfl
    have hmeans : TermMeans b (some "dnchain") .equal dn.toList
        (.chain b (String.ofList dn.toList)) := .chain (by decide) rfl
    rwa [String.ofList_toList] at hmeans
  | _ => exact nomatch ha

mutual

/-- A canonical text is derived, and yields the condition that it is the text of. The limits are to
be numbered on from the next slot. -/
theorem exists_yields : ∀ {n : Node} {k : Knowledge}, (∀ c ∈ n.nodes, c.Fit k.registry) →
    n.slots = List.range' k.nextSlot n.slots.length →
    ∃ d : Derivation, d.text = n.text k.registry ∧
      d.Yields k n ⟨k.registry, k.nextSlot + n.slots.length⟩
  | all cs, k, h, hslots => by
    have hcs : ∀ c ∈ nodesAmong cs, c.Fit k.registry := fun c hc => h c (List.mem_cons_of_mem _ hc)
    obtain ⟨ds, hds, hyields⟩ := exists_yieldsAmong hcs hslots
    obtain ⟨d, ds, rfl⟩ := hyields.exists_cons (h _ List.mem_cons_self).shaped
    refine ⟨.all d ds, ?_, .all hyields⟩
    rw [Derivation.textAmong] at hds
    rw [Derivation.text, hds]
    rfl
  | any cs, k, h, hslots => by
    have hcs : ∀ c ∈ nodesAmong cs, c.Fit k.registry := fun c hc => h c (List.mem_cons_of_mem _ hc)
    obtain ⟨ds, hds, hyields⟩ := exists_yieldsAmong hcs hslots
    obtain ⟨d, ds, rfl⟩ := hyields.exists_cons (h _ List.mem_cons_self).shaped
    refine ⟨.any d ds, ?_, .any hyields⟩
    rw [Derivation.textAmong] at hds
    rw [Derivation.text, hds]
    rfl
  | not c, k, h, hslots => by
    have hc : ∀ d ∈ c.nodes, d.Fit k.registry := fun d hd => h d (List.mem_cons_of_mem _ hd)
    obtain ⟨d, hd, hyields⟩ := exists_yields hc hslots
    exact ⟨.not d, by rw [Derivation.text, hd]; rfl, .not hyields⟩
  | limit slot max, k, h, hslots => by
    obtain ⟨rfl, -⟩ := List.cons.inj hslots
    have hp : Spelling.Denotes ⟨"_limit".toList, none, .equal, Decimal.digits max⟩
        "_limit".toList (Decimal.digits max) :=
      denotes_special (by decide) rfl nofun (resolves_digits max)
    refine ⟨_, ?_, .limit hp rfl rfl (Decimal.read?_digits max)⟩
    exact (termText_eq _ none .equal _).symm
  | random c n, k, h, hslots => by
    have hp : Spelling.Denotes ⟨"_random100".toList, none, .ofComparator c, Decimal.digits n⟩
        "_random100".toList (Decimal.digits n) :=
      denotes_special (by decide) rfl (fun _ => head?_digits n) (resolves_digits n)
    have hyields := Derivation.Yields.random (k := k) hp rfl (Decimal.read?_digits n)
    rw [Sign.comparator_ofComparator] at hyields
    refine ⟨_, ?_, hyields⟩
    rw [← termText_eq, Sign.text_ofComparator]
    rfl
  | edge e m, k, h, hslots => by
    have hp : Spelling.Denotes ⟨(directionWord e).toList, none, .equal, methodWord m⟩
        (directionWord e).toList (methodWord m) :=
      denotes_directionWord (paired_methodWord m)
    refine ⟨_, ?_, .edge hp rfl rfl (comma_not_mem_methodWord m) (wordMeans_methodWord m)⟩
    exact (termText_eq _ none .equal _).symm
  | edgeTo e m t, k, h, hslots => by
    have ht : ∀ c ∈ t.nodes, c.Fit k.registry := fun c hc => h c (List.mem_cons_of_mem _ hc)
    obtain ⟨d, hd, hyields⟩ := exists_yields ht hslots
    have hleast : leastBytes ≤ byteLength d.text := hd ▸ (h _ List.mem_cons_self).long t rfl
    -- the value ends with its last parenthesis only if those in the condition pair up
    have hpaired : Paired (methodWord m ++ ',' :: d.text) :=
      (paired_methodWord m).append ((hd ▸ paired_text k.registry t).plain (by decide))
    refine ⟨.edgeTo (directionWord e).toList .equal (methodWord m) d, ?_,
      .edgeTo (denotes_directionWord hpaired) rfl (comma_not_mem_methodWord m)
        (wordMeans_methodWord m) hleast hyields⟩
    rw [Derivation.text, hd]
    exact (termText_eq _ none .equal _).symm
  | present .., k, h, hslots | equals .., k, h, hslots | equalsFolded .., k, h, hslots
  | glob .., k, h, hslots | regex .., k, h, hslots | compare .., k, h, hslots
  | allBits .., k, h, hslots | anyBit .., k, h, hslots | count .., k, h, hslots
  | length .., k, h, hslots | chain .., k, h, hslots =>
    exists_term_of_attribute (h _ List.mem_cons_self) rfl

theorem exists_yieldsAmong : ∀ {cs : List Node} {k : Knowledge},
    (∀ c ∈ nodesAmong cs, c.Fit k.registry) →
    slotsAmong cs = List.range' k.nextSlot (slotsAmong cs).length →
    ∃ ds : List Derivation, Derivation.textAmong ds = textAmong k.registry cs ∧
      Derivation.YieldsAmong ds k cs ⟨k.registry, k.nextSlot + (slotsAmong cs).length⟩
  | [], k, _, _ => ⟨[], rfl, .nil⟩
  | c :: cs, k, h, hslots => by
    have hc : ∀ d ∈ c.nodes, d.Fit k.registry := fun d hd => h d (List.mem_append_left _ hd)
    have hcs : ∀ d ∈ nodesAmong cs, d.Fit k.registry := fun d hd => h d (List.mem_append_right _ hd)
    -- the limits of the first member come before those of the others
    rw [slotsAmong_cons, List.length_append, ← List.range'_append_1] at hslots
    obtain ⟨hfirst, hrest⟩ := List.append_inj hslots (by rw [List.length_range'])
    obtain ⟨d, hd, hyields⟩ := exists_yields hc hfirst
    obtain ⟨ds, hds, hyieldsAmong⟩ :=
      exists_yieldsAmong (k := ⟨k.registry, k.nextSlot + c.slots.length⟩) hcs hrest
    refine ⟨d :: ds, by rw [Derivation.textAmong, hd, hds]; rfl, ?_⟩
    rw [slotsAmong_cons, List.length_append, ← Nat.add_assoc]
    exact .cons hyields hyieldsAmong

end

/-- Whether a condition is one that its canonical text can be read back to. -/
structure WellFormed (r : Registry) (n : Node) : Prop where
  /-- Attributes are registered under names that do not begin like something else. -/
  registered : ∀ c ∈ n.nodes, ∀ a ∈ c.attribute?,
    a.id < r.size ∧ PlainName (r.nameOf a).toList
  /-- Values are such as a text gives. -/
  shaped : ∀ c ∈ n.nodes, c.Shaped
  /-- No pattern is a star alone. -/
  noStar : ∀ c ∈ n.nodes, ¬ c.IsStar
  /-- Limits are numbered from zero, depth first and from left to right. -/
  numbered : n.slots = List.range n.slots.length
  /-- The text is long enough for a filter. -/
  long : leastBytes ≤ byteLength (n.text r)
  /-- So are the texts of the conditions at the ends of edges. -/
  targetsLong : ∀ c ∈ n.nodes, ∀ t ∈ c.target?, leastBytes ≤ byteLength (t.text r)

end Node

section Reading

variable [Regex.Properties]

/-- A text is read as a whole if it is long enough and a derivation has it as its text. -/
theorem read_of_yields {r r' : Registry} {d : Derivation} {n : Node} {slot : Nat}
    (hlong : leastBytes ≤ byteLength d.text) (hlast : d.text.getLast? = some ')')
    (h : d.Yields ⟨r, 0⟩ n ⟨r', slot⟩) :
    read r (String.ofList d.text) = ⟨.ok (ofNode n), r'⟩ := by
  obtain ⟨l, hl⟩ := d.exists_text
  refine read_eq_ok.mpr (readStart_eq_ok.mpr ?_)
  rw [String.toList_ofList]
  exact ⟨hlong, by rw [hl]; rfl, hlast, d, (List.append_nil _).symm, n, slot, h, rfl⟩

theorem read_render_of_fit {r : Registry} {n : Node} (hfit : ∀ c ∈ n.nodes, c.Fit r)
    (hslots : n.slots = List.range n.slots.length) (hlong : leastBytes ≤ byteLength (n.text r)) :
    read r (render r (ofNode n)) = ⟨.ok (ofNode n), r⟩ := by
  rw [List.range_eq_range'] at hslots
  obtain ⟨d, hd, hyields⟩ := Node.exists_yields (k := ⟨r, 0⟩) hfit hslots
  have hread := read_of_yields (by rw [hd]; exact hlong) (by rw [hd]; exact (n.text_ends r).2)
    hyields
  rwa [hd] at hread

theorem Node.WellFormed.fit {r : Registry} (hr : r.Reachable) {n : Node} (hn : n.WellFormed r) :
    ∀ c ∈ n.nodes, c.Fit r := fun c hc => {
  recalls := fun a ha => hr.recalls (hn.registered c hc a ha).1
  plainName := fun a ha => (hn.registered c hc a ha).2
  shaped := hn.shaped c hc
  notStar := hn.noStar c hc
  long := hn.targetsLong c hc }

/-- **Reading undoes rendering.** The canonical text of a condition is read back as the condition,
and nothing new becomes known. -/
theorem read_render {r : Registry} (hr : r.Reachable) {n : Node} (hn : n.WellFormed r) :
    read r (render r (ofNode n)) = ⟨.ok (ofNode n), r⟩ :=
  read_render_of_fit (hn.fit hr) hn.numbered hn.long

end Reading

/-- A limit at the end of an edge is numbered after one before it. -/
theorem read_render_nested :
    let r : Registry := (Registry.empty.register "cn" {}).2
    let n : Node := .all [.not (.equals ⟨0⟩ "(Eve)"), .limit 0 3,
      .edgeTo .canPwn (some .owns) (.any [.compare ⟨0⟩ .less (-5), .limit 1 2])]
    r.Reachable ∧ n.WellFormed r ∧ read r (render r (ofNode n)) = ⟨.ok (ofNode n), r⟩ := by
  intro r n
  have hr : r.Reachable := .register _ _ .empty
  have hn : n.WellFormed r := by
    refine ⟨?_, ?_, ?_, ?_, ?_, ?_⟩ <;> decide +kernel
  exact ⟨hr, hn, read_render hr hn⟩

end Directory.Filter
