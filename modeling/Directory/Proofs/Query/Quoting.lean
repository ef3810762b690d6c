import Directory.Proofs.Filter.Canonical
import Directory.Proofs.Query.Algebra

/-!
# Quoted names and values

A backslash before every character takes the syntax of filters out of a name or a value. What a
value means is decided after backslashes are resolved, though, so a quoted star is still a star.

- `Filter.backslashed`: a text with a backslash before each character.
- `Filter.exactly`: the text that asks for a value in its letter case, with name and value quoted.
- `Filter.read_exactly`: such a text is read as what its value means without backslashes.
- `Query.exactly_asks_literal`: it asks for the value itself exactly if the value is no pattern.
-/

namespace Directory

namespace Filter

/-! ## Quoted texts -/

/-- The characters with a backslash before each. -/
def backslashed (l : List Char) : List Char :=
  l.flatMap fun c => ['\\', c]

theorem resolves_backslashed (stops : List Char) :
    ∀ l, Resolves stops (backslashed l) l
  | [] => .nil
  | _ :: l => (resolves_backslashed stops l).escape

/-- The term that asks for a value in its letter case, with name and value quoted. -/
def exactSpelling (name value : String) : Spelling where
  name := backslashed name.toList
  modifier := some "caseExactMatch".toList
  sign := .equal
  value := backslashed value.toList

/-- The text that asks for a value in its letter case, with name and value quoted. -/
def exactly (name value : String) : String :=
  String.ofList ('(' :: backslashed name.toList ++ ":caseExactMatch:=".toList ++
    backslashed value.toList ++ [')'])

theorem toList_exactly (name value : String) :
    (exactly name value).toList = (Derivation.term (exactSpelling name value)).text := by
  simp [exactly, Derivation.text, Spelling.text, exactSpelling, modifierText, Sign.text]

/-- A text that is derived as a term with a modifier is derived in no other way. -/
theorem Derivation.Yields.eq_term_of_text [Regex.Properties] {p : Spelling} {name value : List Char}
    (hp : p.Denotes name value) (hmodifier : p.modifier ≠ none) {d : Derivation}
    {k k' : Knowledge} {n : Node} (h : d.Yields k n k') (htext : d.text = (term p).text) :
    d = .term p := by
  obtain ⟨c, l, hl, hc⟩ := hp.not_marked
  have hstart : d.text ++ [] = '(' :: c :: (l ++ [')']) := by
    rw [htext, text, hl, List.append_nil]
    rfl
  have hmark : d.mark? = none := (h.mark?_of_text hstart).trans (if_neg hc)
  cases h with
  | ordinary hq | limit hq | random hq | edge hq =>
    have hsame := congrArg (· ++ []) htext
    rw [text_term, text_term] at hsame
    rw [(hq.unique hp (List.cons.inj hsame).2).1]
  | edgeTo hq =>
    have hsame := congrArg (· ++ []) htext
    rw [text_edgeTo, text_term] at hsame
    rw [← (hq.unique hp (List.cons.inj hsame).2).1] at hmodifier
    exact absurd rfl hmodifier
  | _ => exact nomatch hmark

/-- With the modifier for letter case, a term of equality asks what the value means. -/
theorem valueMeans_of_exact [Regex.Properties] {a : Attribute} {value : List Char} {n : Node}
    (h : TermMeans a (some "caseExactMatch") .equal value n) : ValueMeans a true value n := by
  cases h with
  | equal caseSensitive hmodifier _ hvalue =>
    cases caseSensitive with
    | true => exact hvalue
    | false => exact nomatch hmodifier
  | compare _ _ hequal => exact absurd rfl hequal
  | count hmodifier => exact absurd hmodifier (by decide)
  | length hmodifier | allBits hmodifier | anyBit hmodifier | chain hmodifier =>
    exact absurd hmodifier (by decide)

theorem leastBytes_le_exactly (name value : String) :
    leastBytes ≤ byteLength (Derivation.term (exactSpelling name value)).text := by
  have hword : byteLength ":caseExactMatch:=".toList = 17 := rfl
  rw [← toList_exactly, exactly, String.toList_ofList, byteLength_append, byteLength_append,
    byteLength_append, hword, leastBytes]
  omega

theorem equals_of_valueMeans [Regex.Properties] {a b : Attribute} {value : List Char}
    {text : String} (h : ValueMeans a true value (.equals b text)) :
    b = a ∧ text = String.ofList value ∧ ¬ Slashed value ∧ ¬ Wild value := by
  cases h with
  | equals _ hslashed hwild => exact ⟨rfl, rfl, hslashed, hwild⟩

section Reading

variable {name : String} (hne : name ≠ "") (hmark : name.toList.head? ≠ some '_')

include hne hmark

theorem denotes_exactSpelling (value : String) :
    (exactSpelling name value).Denotes name.toList value.toList where
  named := resolves_backslashed _ _
  start := by
    obtain ⟨c, l, hname⟩ := List.exists_cons_of_ne_nil (mt String.toList_eq_nil_iff.mp hne)
    exact ⟨'\\', by rw [exactSpelling, hname]; rfl, by decide⟩
  modifier m hm := by
    obtain rfl := Option.some.inj hm
    decide
  sign := nofun
  value := by
    rw [if_neg (Bool.eq_false_iff.mp (Term.holdsCondition_of_head hmark))]
    exact resolves_backslashed _ _

variable [Regex.Properties]

/-- The text is derived as the term, and asks what the value means without backslashes. -/
theorem yields_exactly {d : Derivation} {value : String}
    (htext : d.text = (exactly name value).toList) {k k' : Knowledge} {n : Node} :
    d.Yields k n k' ↔
      d = .term (exactSpelling name value) ∧ k' = k.seen name.toList ∧
        ValueMeans (k.attributeOf name.toList) true value.toList n := by
  have hp := denotes_exactSpelling hne hmark value
  rw [toList_exactly] at htext
  constructor
  · intro h
    obtain rfl := h.eq_term_of_text hp nofun htext
    cases h with
    | ordinary hq hordinary hn =>
      obtain ⟨-, -, rfl, rfl⟩ := hq.unique hp (l := []) (m := []) rfl
      exact ⟨rfl, rfl, valueMeans_of_exact hn⟩
    | limit _ hmodifier | random _ hmodifier | edge _ hmodifier => exact nomatch hmodifier
  · rintro ⟨rfl, rfl, hn⟩
    exact .ordinary hp hmark (.equal true rfl rfl hn)

/-- A quoted text is read as what its value means without the backslashes. -/
theorem read_exactly {r r' : Registry} {value : String} {f : Filter} :
    read r (exactly name value) = ⟨.ok f, r'⟩ ↔
      r' = (r.intern name).2 ∧ ∃ n, ValueMeans (r.intern name).1 true value.toList n ∧
        f = ofNode n := by
  constructor
  · intro h
    obtain ⟨-, -, -, d, htext, n, slot, hn, rfl⟩ := readStart_eq_ok.mp (read_eq_ok.mp h)
    rw [List.append_nil] at htext
    obtain ⟨-, hknown, hvalue⟩ := (yields_exactly hne hmark htext.symm).mp hn
    rw [Knowledge.attributeOf, String.ofList_toList] at hvalue
    rw [Knowledge.seen, String.ofList_toList] at hknown
    exact ⟨congrArg Knowledge.registry hknown, n, hvalue, rfl⟩
  · rintro ⟨rfl, n, hvalue, rfl⟩
    have hyields : (Derivation.term (exactSpelling name value)).Yields ⟨r, 0⟩ n
        ⟨(r.intern name).2, 0⟩ := by
      refine (yields_exactly hne hmark (toList_exactly name value).symm).mpr ⟨rfl, ?_, ?_⟩
      · rw [Knowledge.seen, String.ofList_toList]
      · rw [Knowledge.attributeOf, String.ofList_toList]
        exact hvalue
    have hread := read_of_yields (leastBytes_le_exactly name value) List.getLast?_concat hyields
    rwa [← toList_exactly, String.ofList_toList] at hread

end Reading

end Filter

namespace Query

open Directory.Filter Directory.Filter.Node

/-- The entries that have a value with the given text. -/
theorem matched_equals {s : Store} (hs : s.Indexed) (a : Attribute) (text : String) (d : Draws) :
    (execute s (ofNode (.equals a text)) d).1.matched =
      (s.numbered.filter fun p => text ∈ p.2.renderedOf a).map (·.1) := by
  have hfold : FoldedLiterals (.equals a text) := fun _ _ hmem => by simp [nodes] at hmem
  rw [matched_execute hs hfold rfl rfl]
  have hholds : ∀ p : Nat × Entry,
      (Node.equals a text).holds s p.1 p.2 = decide (text ∈ p.2.renderedOf a) := by
    intro p
    rw [holds, eval, Bool.eq_iff_iff, decide_eq_true_iff]
    simp
  simp only [hholds]

/-- **Quoting.** The quoted text is read as what its value means without the backslashes. So it asks
for the value itself exactly if the value is neither written like a regular expression nor has a
wildcard. Then it finds the entries that have the value, and no others. -/
theorem exactly_asks_literal [Regex.Properties] {name : String} (hne : name ≠ "")
    (hmark : name.toList.head? ≠ some '_') (r : Registry) (value : String) :
    let a := (r.intern name).1
    let r' := (r.intern name).2
    (∀ f r'', read r (exactly name value) = ⟨.ok f, r''⟩ ↔
      r'' = r' ∧ ∃ n, ValueMeans a true value.toList n ∧ f = ofNode n) ∧
    (read r (exactly name value) = ⟨.ok (ofNode (.equals a value)), r'⟩ ↔ Literal value) ∧
    (∀ f r'' b text, read r (exactly name value) = ⟨.ok f, r''⟩ → f.root = .equals b text →
      b = a ∧ text = value ∧ Literal value) ∧
    ∀ (b : Store.Builder) (s : Store) (d : Draws), b.build = .ok s →
      (execute { s with registry := r' } (ofNode (.equals a value)) d).1.matched =
        (s.numbered.filter fun p => value ∈ p.2.renderedOf a).map (·.1) := by
  intro a r'
  have hliteral : ∀ {b : Attribute} {text : String},
      ValueMeans a true value.toList (.equals b text) → b = a ∧ text = value ∧ Literal value := by
    intro b text h
    obtain ⟨hb, htext, hvalue⟩ := equals_of_valueMeans h
    exact ⟨hb, htext.trans String.ofList_toList, hvalue⟩
  refine ⟨fun f r'' => read_exactly hne hmark, ⟨fun h => ?_, fun h => ?_⟩,
    fun f r'' b text h hroot => ?_, fun b s d hb => ?_⟩
  · obtain ⟨-, n, hvalue, hn⟩ := (read_exactly hne hmark).mp h
    obtain rfl : Node.equals a value = n := congrArg Filter.root hn
    exact (hliteral hvalue).2.2
  · exact (read_exactly hne hmark).mpr ⟨rfl, _, valueMeans_literal h, rfl⟩
  · obtain ⟨-, n, hvalue, rfl⟩ := (read_exactly hne hmark).mp h
    obtain rfl : n = Node.equals b text := hroot
    exact hliteral hvalue
  · have hs : Store.Indexed { s with registry := r' } := fun hx =>
      Store.Builder.indexed_of_build hb hx
    exact matched_equals hs a value d

/-- Parentheses, signs and backslashes in a value are asked for as they are. -/
theorem exactly_asks_literal_marks :
    "c:n" ≠ "" ∧ "c:n".toList.head? ≠ some '_' ∧ Literal ")(|=\\" ∧
      read .empty (exactly "c:n" ")(|=\\") =
        ⟨.ok (ofNode (.equals ⟨0⟩ ")(|=\\")), (Registry.empty.intern "c:n").2⟩ := by
  have hne : "c:n" ≠ "" := by decide
  have hmark : "c:n".toList.head? ≠ some '_' := by decide
  have hliteral : Literal ")(|=\\" := by decide +kernel
  exact ⟨hne, hmark, hliteral, (exactly_asks_literal hne hmark .empty ")(|=\\").2.1.mpr hliteral⟩

/-- A quoted star asks for any value, a quoted pattern for those like it, and a quoted text between
slashes is refused if it is no regular expression. -/
theorem exactly_asks_pattern :
    (exactly "cn" "*" = "(\\c\\n:caseExactMatch:=\\*)" ∧
      ∃ f r, read .empty (exactly "cn" "*") = ⟨.ok f, r⟩ ∧ f = ofNode (.present ⟨0⟩)) ∧
    (∃ f r, read .empty (exactly "cn" "a*b") = ⟨.ok f, r⟩ ∧ f.root.kind = "glob") ∧
    (∀ f r, read .empty (exactly "cn" "/(/") = ⟨.ok f, r⟩ → False) ∧
    ¬ ∀ name value : String, name ≠ "" → name.toList.head? ≠ some '_' →
      ∃ f r, read .empty (exactly name value) = ⟨.ok f, r⟩ ∧
        f.root = .equals (Registry.empty.intern name).1 value := by
  have hstar : read .empty (exactly "cn" "*") =
      ⟨.ok (ofNode (.present ⟨0⟩)), (Registry.empty.intern "cn").2⟩ :=
    (read_exactly (by decide) (by decide)).mpr ⟨rfl, _, .present, rfl⟩
  refine ⟨⟨by decide, _, _, hstar, rfl⟩, by decide +kernel, by decide +kernel, fun h => ?_⟩
  obtain ⟨f, r, hread, hroot⟩ := h "cn" "*" (by decide) (by decide)
  rw [hstar] at hread
  obtain rfl := Except.ok.inj (Reading.mk.inj hread).1
  exact nomatch hroot

end Query

end Directory
