import Directory.Filter.Evaluation
import Directory.Proofs.Filter.Canonical
import Directory.Proofs.Glob
import Directory.Proofs.Store.Contents

/-!
# Patterns with and without letter case

A pattern that ignores letter case is folded by itself, and so is each value. Folding looks at the
characters around a capital sigma and turns a dotted capital I into two characters, so a folded
pattern need not describe a folded value although the pattern describes the value. Both are told
apart here: what has to hold of a pattern and of the values for no match to be lost, and two matches
that are lost.

- `Filter.SigmasSettled`: each sigma of a pattern folds alike whatever its wildcards stand for.
- `Filter.describes_lowerAfter`: folding such a pattern and a text keeps the one laid along the
  other.
- `Filter.Spelling.AsksFor`: a term that asks for a value, which may be a pattern.
- `Filter.ask_of_caseExact`: without the modifier for letter case the term loses no match.
- `Filter.ask_loses`: a match that it loses at a sigma, and one at a dotted capital I.
-/

namespace Directory.Filter

open Text
open Glob (Describes)

/-! ## Sigmas next to wildcards -/

/-- Whether the first character that is not passed over is a wildcard. -/
def meetsWildcard (l : List Char) : Bool :=
  match l.dropWhile isCaseIgnorable with
  | [] => false
  | c :: _ => c == '?' || c == '*'

/-- Whether a capital sigma between `before`, nearest first, and `after` folds alike whatever the
wildcards around it stand for. -/
def Settled (before after : List Char) : Prop :=
  (meetsWildcard before → meetsCased after) ∧
    (meetsWildcard after → ¬ meetsCased before ∧ ¬ meetsWildcard before)

instance (before after : List Char) : Decidable (Settled before after) :=
  inferInstanceAs (Decidable (_ ∧ _))

/-- Whether all capital sigmas of a pattern that follows `before`, nearest first, are settled. -/
def SigmasSettled (before : List Char) : List Char → Prop
  | [] => True
  | c :: rest => (c = 'Σ' → Settled before rest) ∧ SigmasSettled (c :: before) rest

instance decidableSigmasSettled : ∀ before l : List Char, Decidable (SigmasSettled before l)
  | _, [] => inferInstanceAs (Decidable True)
  | before, c :: rest =>
    have := decidableSigmasSettled (c :: before) rest
    inferInstanceAs (Decidable ((c = 'Σ' → Settled before rest) ∧ SigmasSettled (c :: before) rest))

theorem meetsWildcard_cons (c : Char) (l : List Char) :
    meetsWildcard (c :: l) =
      if isCaseIgnorable c then meetsWildcard l else c == '?' || c == '*' := by
  rw [meetsWildcard, List.dropWhile_cons]
  cases isCaseIgnorable c <;> rfl

theorem meetsCased_cons (c : Char) (l : List Char) :
    meetsCased (c :: l) = if isCaseIgnorable c then meetsCased l else isCased c := by
  rw [meetsCased, List.dropWhile_cons]
  cases isCaseIgnorable c <;> rfl

/-- Wildcards are not passed over. -/
theorem meetsWildcard_wildcard {c : Char} (h : c = '?' ∨ c = '*') (l : List Char) :
    meetsWildcard (c :: l) = true := by
  rcases h with rfl | rfl
  · rw [meetsWildcard_cons, show isCaseIgnorable '?' = false by decide +kernel]
    rfl
  · rw [meetsWildcard_cons, show isCaseIgnorable '*' = false by decide +kernel]
    rfl

section Describes

variable {pattern text before before' : List Char}

/-- Where a pattern meets no wildcard, the text meets what the pattern meets. -/
theorem meetsCased_of_describes (h : Describes pattern text)
    (hwild : meetsWildcard pattern = false) : meetsCased pattern = meetsCased text := by
  induction h with
  | nil => rfl
  | char c _ ih =>
    rw [meetsWildcard_cons] at hwild
    rw [meetsCased_cons, meetsCased_cons]
    split at hwild
    · rename_i hc
      rw [if_pos hc, if_pos hc, ih hwild]
    · rename_i hc
      rw [if_neg hc, if_neg hc]
  | anyChar => exact nomatch (meetsWildcard_wildcard (.inl rfl) _).symm.trans hwild
  | anyRun => exact nomatch (meetsWildcard_wildcard (.inr rfl) _).symm.trans hwild

/-- A settled sigma folds alike in a pattern and in a text that it describes. -/
theorem lowerSigma_of_describes (hbefore : Describes before before') (h : Describes pattern text)
    (hsettled : Settled before pattern) :
    lowerSigma before pattern = lowerSigma before' text := by
  obtain ⟨hleft, hright⟩ := hsettled
  rw [lowerSigma, lowerSigma]
  cases hwild : meetsWildcard pattern with
  | true =>
    -- no letter comes before the sigma, in the text neither
    obtain ⟨hcased, hplain⟩ := hright hwild
    rw [← meetsCased_of_describes hbefore (Bool.eq_false_iff.mpr hplain),
      Bool.eq_false_iff.mpr hcased]
    rfl
  | false =>
    rw [← meetsCased_of_describes h hwild]
    cases hplain : meetsWildcard before with
    -- a letter follows the sigma
    | true => rw [hleft hplain, Bool.not_true, Bool.and_false, Bool.and_false]
    | false => rw [meetsCased_of_describes hbefore hplain]

/-! ## Folded patterns -/

theorem lowerChar_eq_singleton {c : Char} (h : c ≠ 'İ') : ∃ d, lowerChar c = [d] :=
  ⟨_, if_neg h⟩

/-- What follows a run is folded after it. -/
theorem exists_lowerAfter_append (run rest : List Char) (before : List Char) :
    ∃ folded, lowerAfter before (run ++ rest) =
      folded ++ lowerAfter (run.reverse ++ before) rest := by
  induction run generalizing before with
  | nil => exact ⟨[], rfl⟩
  | cons c run ih =>
    obtain ⟨folded, h⟩ := ih (c :: before)
    rw [List.cons_append, lowerAfter, h, List.reverse_cons, List.append_assoc, ← List.append_assoc]
    exact ⟨_, rfl⟩

/-- A pattern whose sigmas are settled describes a text after folding if it did before, provided
that no question mark can stand for a dotted capital I. -/
theorem describes_lowerAfter (h : Describes pattern text) :
    ∀ {before before' : List Char}, Describes before before' → SigmasSettled before pattern →
      ('?' ∈ pattern → 'İ' ∉ text) →
      Describes (lowerAfter before pattern) (lowerAfter before' text) := by
  induction h with
  | nil => exact fun _ _ _ => .nil
  | @char c pattern text h ih =>
    intro before before' hbefore hsettled hdotted
    have hrest := ih (hbefore.char c) hsettled.2 fun hmem hdot =>
      hdotted (List.mem_cons_of_mem c hmem) (List.mem_cons_of_mem c hdot)
    rw [lowerAfter, lowerAfter]
    split
    · rename_i hc
      rw [lowerSigma_of_describes hbefore h (hsettled.1 hc)]
      exact hrest.append _
    · exact hrest.append _
  | @anyChar c pattern text h ih =>
    intro before before' hbefore hsettled hdotted
    have hc := hdotted List.mem_cons_self
    rw [List.mem_cons, not_or] at hc
    have hrest := ih (hbefore.anyChar c) hsettled.2 fun _ => hc.2
    have hquestion : lowerAfter before ('?' :: pattern) =
        '?' :: lowerAfter ('?' :: before) pattern := by
      rw [lowerAfter, if_neg (by decide), isMark_question.1]
      rfl
    rw [hquestion, lowerAfter]
    split
    · exact hrest.anyChar _
    · obtain ⟨d, hd⟩ := lowerChar_eq_singleton (Ne.symm hc.1)
      rw [hd]
      exact hrest.anyChar d
  | @anyRun run pattern text h ih =>
    intro before before' hbefore hsettled hdotted
    have hrest := ih (hbefore.anyRun run.reverse) hsettled.2 fun hmem hdot =>
      hdotted (List.mem_cons_of_mem _ hmem) (List.mem_append_right run hdot)
    have hstar : lowerAfter before ('*' :: pattern) =
        '*' :: lowerAfter ('*' :: before) pattern := by
      rw [lowerAfter, if_neg (by decide), isMark_star.1]
      rfl
    obtain ⟨folded, hfolded⟩ := exists_lowerAfter_append run text before'
    rw [hstar, hfolded]
    exact hrest.anyRun folded

end Describes

/-! ## Terms -/

theorem isMark_bracket : IsMark '[' := by decide

namespace Spelling

/-- A term that asks an attribute for a value, which may be a pattern but has no classes and is not
written like a regular expression. -/
structure AsksFor (p : Spelling) (name value : List Char) : Prop where
  /-- The term is written like this. -/
  denotes : p.Denotes name value
  /-- The name is that of an attribute. -/
  ordinary : name.head? ≠ some '_'
  /-- There is no modifier. -/
  plain : p.modifier = none
  /-- The term asks for equality. -/
  equal : p.sign.comparator = .equal
  /-- The value has no classes. -/
  noClass : '[' ∉ value
  /-- The value is no regular expression. -/
  noRegex : ¬ Slashed value

/-- The term with the modifier for letter case. -/
def caseExact (p : Spelling) : Spelling :=
  { p with modifier := some "caseExactMatch".toList }

/-- The text of a term in its parentheses. -/
def source (p : Spelling) : String :=
  String.ofList (Derivation.term p).text

end Spelling

/-- Whether folding keeps what a value, if it is a pattern, describes among some texts. -/
def FoldsAmong (value : List Char) (texts : List String) : Prop :=
  Wild value → SigmasSettled [] (squeezeStars value) ∧
    ('?' ∈ value → ∀ t ∈ texts, 'İ' ∉ t.toList)

instance (value : List Char) (texts : List String) : Decidable (FoldsAmong value texts) :=
  inferInstanceAs (Decidable (_ → _ ∧ (_ → _)))

section Value

variable {a : Attribute} {value : List Char}

/-- The texts that a value without classes asks for, as a pattern. -/
theorem accepts_iff_describes {caseSensitive : Bool} {g : Glob}
    (hg : Glob.read? (String.ofList (globText caseSensitive value)) = .ok g)
    (hclass : '[' ∉ value) (text : List Char) :
    g.accepts text = true ↔ Describes (globText caseSensitive value) text := by
  have h := Glob.accepts_iff hg (by
    rw [String.toList_ofList]
    exact (mem_globText isMark_bracket).not.mpr hclass) (by
    rw [String.toList_ofList]
    exact not_pair_infix_globText caseSensitive value) text
  rwa [String.toList_ofList] at h

variable [Regex.Properties]

/-- A value without classes that is no regular expression has a meaning. -/
theorem exists_valueMeans (hclass : '[' ∉ value) (hslashed : ¬ Slashed value)
    (caseSensitive : Bool) : ∃ n, ValueMeans a caseSensitive value n := by
  by_cases hstar : value = ['*']
  · subst hstar
    exact ⟨_, .present⟩
  · by_cases hwild : Wild value
    · have hread : ∃ g, Glob.read? (String.ofList (globText caseSensitive value)) = .ok g := by
        rw [Glob.read?, String.toList_ofList,
          Glob.partsOf_plain ((mem_globText isMark_bracket).not.mpr hclass)
            (not_pair_infix_globText caseSensitive value) true (Nat.le_refl _)]
        exact ⟨_, rfl⟩
      obtain ⟨g, hg⟩ := hread
      exact ⟨_, .glob hstar hslashed hwild hg⟩
    · cases caseSensitive with
      | true => exact ⟨_, .equals rfl hslashed hwild⟩
      | false => exact ⟨_, .equalsFolded rfl hslashed hwild⟩

/-- What a value asks for in its letter case, it asks for in any. -/
theorem eval_of_valueMeans {n n' : Node} (h : ValueMeans a true value n)
    (h' : ValueMeans a false value n') (hclass : '[' ∉ value) (hslashed : ¬ Slashed value)
    {s : Store} {id : Nat} {e : Entry} {m m' : Memory} (hfolds : FoldsAmong value (e.renderedOf a))
    (hholds : (n.eval s id e m).1 = true) : (n'.eval s id e m').1 = true := by
  cases h with
  | regex => exact absurd ⟨_, rfl⟩ hslashed
  | present =>
    cases h' with
    | present => exact hholds
    | glob hstar => exact absurd rfl hstar
    | equals hcase => cases hcase
    | equalsFolded _ _ hwild => exact absurd (.inr List.mem_cons_self) hwild
  | @glob _ g hstar _ hwild hg =>
    cases h' with
    | present => exact absurd rfl hstar
    | regex => exact absurd ⟨_, rfl⟩ hslashed
    | equals hcase => cases hcase
    | equalsFolded _ _ hplain => exact absurd hwild hplain
    | @glob _ g' _ _ _ hg' =>
      obtain ⟨hsettled, hdotted⟩ := hfolds hwild
      rw [Node.eval] at hholds ⊢
      obtain ⟨t, ht, haccepts⟩ := List.any_eq_true.mp hholds
      have hdescribes := (accepts_iff_describes hg hclass _).mp haccepts
      refine List.any_eq_true.mpr ⟨t, ht, (accepts_iff_describes hg' hclass _).mpr ?_⟩
      have hfolded := describes_lowerAfter hdescribes .nil hsettled fun hmem =>
        hdotted ((mem_squeezeStars value).mp hmem) t ht
      rw [candidate, if_neg (by decide), lower, String.toList_ofList]
      exact hfolded
  | equals _ _ hplain =>
    cases h' with
    | present => exact absurd (.inr List.mem_cons_self) hplain
    | regex => exact absurd ⟨_, rfl⟩ hslashed
    | glob _ _ hwild => exact absurd hwild hplain
    | equals hcase => cases hcase
    | equalsFolded =>
      rw [Node.eval] at hholds
      rw [Node.eval]
      obtain ⟨t, ht, hequal⟩ := List.any_eq_true.mp hholds
      obtain rfl := beq_iff_eq.mp hequal
      refine List.any_eq_true.mpr ⟨_, ht, beq_iff_eq.mpr ?_⟩
      rw [lower, String.toList_ofList]
  | equalsFolded hcase => cases hcase

end Value

namespace Spelling

variable {p : Spelling} {name value : List Char}

theorem Denotes.caseExact (h : p.Denotes name value) : p.caseExact.Denotes name value :=
  { h with
    modifier := fun m hm => by
      obtain rfl := Option.some.inj hm
      decide }

theorem leastBytes_le_caseExact (p : Spelling) :
    leastBytes ≤ byteLength (Derivation.term p.caseExact).text := by
  have hword : byteLength (modifierText p.caseExact.modifier) = 16 := rfl
  rw [Derivation.text, Derivation.byteLength_between, Spelling.text, byteLength_append,
    byteLength_append, hword, leastBytes]
  omega

variable [Regex.Properties]

/-- A term that asks for a value is read as what the value means, with or without the modifier, once
it is long enough. -/
theorem AsksFor.read_source (h : p.AsksFor name value) {q : Spelling}
    (hq : q.Denotes name value) (hsign : q.sign = p.sign) {caseSensitive : Bool}
    (hmodifier : q.modifier.map String.ofList = caseWord caseSensitive)
    (hlong : leastBytes ≤ byteLength (Derivation.term q).text) (r : Registry) {n : Node}
    (hn : ValueMeans (r.intern (String.ofList name)).1 caseSensitive value n) :
    read r q.source = ⟨.ok (ofNode n), (r.intern (String.ofList name)).2⟩ := by
  have hyields : (Derivation.term q).Yields ⟨r, 0⟩ n ⟨(r.intern (String.ofList name)).2, 0⟩ :=
    .ordinary hq h.ordinary (.equal caseSensitive hmodifier (hsign ▸ h.equal) hn)
  exact read_of_yields hlong List.getLast?_concat hyields

/-- With the modifier, the term is read as what the value means in its letter case. -/
theorem AsksFor.read_caseExact (h : p.AsksFor name value) (r : Registry) :
    ∃ n, ValueMeans (r.intern (String.ofList name)).1 true value n ∧
      read r p.caseExact.source = ⟨.ok (ofNode n), (r.intern (String.ofList name)).2⟩ := by
  obtain ⟨n, hn⟩ := exists_valueMeans h.noClass h.noRegex true
  exact ⟨n, hn, h.read_source h.denotes.caseExact rfl rfl p.leastBytes_le_caseExact r hn⟩

/-- Without it, a term that is long enough is read as what the value means in any. -/
theorem AsksFor.read_plain (h : p.AsksFor name value)
    (hlong : leastBytes ≤ byteLength p.source.toList) (r : Registry) :
    ∃ n, ValueMeans (r.intern (String.ofList name)).1 false value n ∧
      read r p.source = ⟨.ok (ofNode n), (r.intern (String.ofList name)).2⟩ := by
  obtain ⟨n, hn⟩ := exists_valueMeans h.noClass h.noRegex false
  rw [source, String.toList_ofList] at hlong
  exact ⟨n, hn, h.read_source h.denotes rfl (by rw [h.plain]; rfl) hlong r hn⟩

end Spelling

/-- The term that asks for a value, written without backslashes. -/
def Spelling.asIs (name value : String) : Spelling :=
  ⟨name.toList, none, .equal, value.toList⟩

theorem Spelling.asksFor_asIs {name value : String}
    (hname : (name.toList.all fun c => c ≠ '\\' ∧ c ∉ nameStops) = true)
    (hstart : ∃ c, name.toList.head? = some c ∧ c ∉ ['_', '(', '&', '|', '!'])
    (hvalue : (value.toList.all fun c => c ≠ '\\' ∧ c ∉ [')']) = true)
    (hclass : '[' ∉ value.toList) (hslashed : ¬ Slashed value.toList) :
    (asIs name value).AsksFor name.toList value.toList := by
  obtain ⟨c, hc, hmark⟩ := hstart
  rw [List.mem_cons, not_or] at hmark
  have hordinary : name.toList.head? ≠ some '_' := by
    rw [hc]
    exact fun h => hmark.1 (Option.some.inj h)
  refine ⟨⟨resolves_self hname, ⟨c, hc, hmark.2⟩, nofun, nofun, ?_⟩, hordinary, rfl, rfl, hclass,
    hslashed⟩
  rw [if_neg (Bool.eq_false_iff.mp (Term.holdsCondition_of_head hordinary))]
  exact resolves_self hvalue

/-- **Letter case.** A term with the modifier for letter case is always read, and without it as soon
as it is long enough. Without it the term matches each entry that it matches with it, unless its
value is a pattern that folding may keep from describing what it described. -/
theorem ask_of_caseExact [Regex.Properties] {p : Spelling} {name value : List Char}
    (h : p.AsksFor name value) :
    (∀ r, ∃ f q, read r p.caseExact.source = ⟨.ok f, q⟩) ∧
    (∀ r, (∃ g q, read r p.source = ⟨.ok g, q⟩) ↔ leastBytes ≤ byteLength p.source.toList) ∧
    ∀ r r' f g q q', read r p.caseExact.source = ⟨.ok f, q⟩ → read r' p.source = ⟨.ok g, q'⟩ →
      let a := (r.intern (String.ofList name)).1
      (r'.intern (String.ofList name)).1 = a →
      ∀ (s : Store) id e m m', FoldsAmong value (e.renderedOf a) →
        (f.ask s id e m).1 = true → (g.ask s id e m').1 = true := by
  have hlong : ∀ {r g q}, read r p.source = ⟨.ok g, q⟩ → leastBytes ≤ byteLength p.source.toList :=
    fun hread => (readStart_eq_ok.mp (read_eq_ok.mp hread)).1
  refine ⟨fun r => ?_, fun r => ⟨fun ⟨_, _, hread⟩ => hlong hread, fun hbytes => ?_⟩, ?_⟩
  · obtain ⟨n, -, hread⟩ := h.read_caseExact r
    exact ⟨_, _, hread⟩
  · obtain ⟨n, -, hread⟩ := h.read_plain hbytes r
    exact ⟨_, _, hread⟩
  · intro r r' f g q q' hf hg a ha s id e m m' hfolds hasked
    obtain ⟨n, hn, hread⟩ := h.read_caseExact r
    obtain ⟨n', hn', hread'⟩ := h.read_plain (hlong hg) r'
    rw [ha] at hn'
    -- both filters ask what the value means
    obtain rfl := Except.ok.inj (Reading.mk.inj (hf.symm.trans hread)).1
    obtain rfl := Except.ok.inj (Reading.mk.inj (hg.symm.trans hread')).1
    exact eval_of_valueMeans hn hn' h.noClass h.noRegex hfolds hasked

/-- Entries with capital letters that fold by what is around them, or into two characters. -/
def capitals : Store.Builder :=
  [Store.Builder.Step.call (.add ⟨"CN=1", some ⟨1⟩, none, [("cn", .text "ΟΣΑΣ")]⟩ ⟨0⟩),
    .call (.add ⟨"CN=2", some ⟨2⟩, none, [("cn", .text "ΑΣ")]⟩ ⟨0⟩),
    .call (.add ⟨"CN=3", some ⟨3⟩, none, [("cn", .text "İ")]⟩ ⟨0⟩)].foldl
      Store.Builder.advance { registry := .empty }

/-- A letter after the sigma settles how it folds. -/
theorem ask_of_caseExact_settled :
    (Spelling.asIs "cn" "*ΣΑ?").AsksFor "cn".toList "*ΣΑ?".toList ∧
    ∃ s, capitals.build = .ok s ∧ ∃ e ∈ s.entry? 0,
      FoldsAmong "*ΣΑ?".toList (e.renderedOf (s.registry.intern "cn").1) ∧
      ∃ f q, read s.registry "(cn:caseExactMatch:=*ΣΑ?)" = ⟨.ok f, q⟩ ∧
        (f.ask s 0 e (start f (Draws.ofList []))).1 = true ∧
        ∃ g q', read q "(cn=*ΣΑ?)" = ⟨.ok g, q'⟩ ∧
          (g.ask s 0 e (start g (Draws.ofList []))).1 = true := by
  have h : (Spelling.asIs "cn" "*ΣΑ?").AsksFor "cn".toList "*ΣΑ?".toList :=
    Spelling.asksFor_asIs (by decide) ⟨'c', rfl, by decide⟩ (by decide) (by decide) (by decide)
  obtain ⟨s, hbuild, e, he, hfolds, f, q, hf, hasked, hsame, g, q', hg, -⟩ :
      ∃ s, capitals.build = .ok s ∧ ∃ e ∈ s.entry? 0,
        FoldsAmong "*ΣΑ?".toList (e.renderedOf (s.registry.intern "cn").1) ∧
        ∃ f q, read s.registry "(cn:caseExactMatch:=*ΣΑ?)" = ⟨.ok f, q⟩ ∧
          (f.ask s 0 e (start f (Draws.ofList []))).1 = true ∧
          (q.intern "cn").1 = (s.registry.intern "cn").1 ∧
          ∃ g q', read q "(cn=*ΣΑ?)" = ⟨.ok g, q'⟩ ∧ g.limits = [] :=
    ⟨_, rfl, by decide +kernel⟩
  exact ⟨h, s, hbuild, e, he, hfolds, f, q, hf, hasked, g, q', hg,
    (ask_of_caseExact h).2.2 _ _ f g q q' hf hg hsame _ 0 e _ _ hfolds hasked⟩

/-- At the end of a value a sigma folds in another way than after a star, and a dotted capital I
becomes two characters, of which a question mark describes one. -/
theorem ask_loses :
    ∃ s, capitals.build = .ok s ∧ ∀ c ∈ [(1, "*Σ"), (2, "?")],
      '[' ∉ c.2.toList ∧ ¬ Slashed c.2.toList ∧ ∃ e ∈ s.entry? c.1,
        ¬ FoldsAmong c.2.toList (e.renderedOf (s.registry.intern "cn").1) ∧
        ∃ f q, read s.registry ("(cn:caseExactMatch:=" ++ c.2 ++ ")") = ⟨.ok f, q⟩ ∧
          (f.ask s c.1 e (start f (Draws.ofList []))).1 = true ∧
          ∃ g q', read q ("(cn=" ++ c.2 ++ ")") = ⟨.ok g, q'⟩ ∧
            (g.ask s c.1 e (start g (Draws.ofList []))).1 = false := by
  have hbuild : capitals.build = .ok _ := rfl
  refine ⟨_, hbuild, ?_⟩
  decide +kernel

end Directory.Filter
