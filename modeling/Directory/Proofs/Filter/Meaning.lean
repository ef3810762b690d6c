import Directory.Proofs.Filter.Terms

/-!
# The meaning of terms

What a term means is decided as the grammar says: a term is given a condition exactly if one of
the rules of `Filter.TermMeans` applies to its parts, and terms whose names begin with an
underscore are taken apart likewise.

- `Filter.Term.condition_eq_ok`: conditions on attributes.
- `Filter.Term.special_eq_limit`, `Filter.Term.special_eq_random`, `Filter.Term.special_eq_edge`:
  terms with an underscore.
-/

namespace Directory.Filter.Term

open Text (lowerChars)

variable {t : Term} {α : Type}

theorem integer_bind_eq_ok {purpose : String} {f : Int64 → α} {x : α} :
    (t.integer purpose >>= fun n => .ok (f n)) = .ok x ↔
      ∃ n, Decimal.read? t.value = some n ∧ x = f n := by
  rw [integer]
  cases Decimal.read? t.value with
  | none => exact ⟨fun h => (nomatch h), fun ⟨_, h, _⟩ => (nomatch h)⟩
  | some n =>
    constructor
    · intro h
      exact ⟨n, rfl, (Except.ok.inj h).symm⟩
    · rintro ⟨_, hn, rfl⟩
      rw [Option.some.inj hn]
      rfl

theorem requireEqual_bind_eq_ok {y : Except Rejection α} {x : α} :
    (t.requireEqual >>= fun _ => y) = .ok x ↔ t.comparator = .equal ∧ y = .ok x := by
  rw [requireEqual]
  split
  · rename_i hequal
    exact ⟨fun h => ⟨hequal, h⟩, fun h => h.2⟩
  · rename_i hequal
    exact ⟨fun h => (nomatch h), fun h => absurd h.1 hequal⟩

/-! ## Values -/

theorem isRegex_iff {value : List Char} : isRegex value = true ↔ Slashed value := by
  constructor
  · intro h
    simp only [isRegex, Bool.and_eq_true, decide_eq_true_eq, beq_iff_eq] at h
    obtain ⟨⟨hlength, hhead⟩, hlast⟩ := h
    obtain ⟨front, rfl⟩ := List.getLast?_eq_some_iff.mp hlast
    cases front with
    | nil => exact absurd hlength (by simp)
    | cons c source =>
      obtain rfl : c = '/' := Option.some.inj hhead
      exact ⟨source, rfl⟩
  · rintro ⟨source, rfl⟩
    have hlast : ('/' :: source ++ ['/']).getLast? = some '/' := List.getLast?_concat
    rw [isRegex, hlast]
    simp

instance (value : List Char) : Decidable (Slashed value) :=
  decidable_of_iff _ isRegex_iff

instance (value : List Char) : Decidable (Wild value) :=
  inferInstanceAs (Decidable (_ ∨ _))

theorem source_slashed (source : List Char) :
    (('/' :: source ++ ['/']).drop 1).dropLast = source := by
  simp

theorem caseWord_injective : ∀ {b c : Bool}, caseWord b = caseWord c → b = c
  | false, false, _ => rfl
  | true, true, _ => rfl
  | false, true, h => nomatch h
  | true, false, h => nomatch h

section Conditions

variable [Regex.Properties]

theorem match?_eq_ok {t : Term} {a : Attribute} {caseSensitive : Bool} {n : Node} :
    t.match? a caseSensitive = .ok n ↔ ValueMeans a caseSensitive t.value n := by
  constructor
  · intro h
    rw [match?] at h
    split at h
    · rename_i hstar
      obtain rfl := Except.ok.inj h
      rw [hstar]
      exact .present
    · rename_i hstar
      split at h
      · rename_i hregex
        obtain ⟨source, hsource⟩ := isRegex_iff.mp hregex
        rw [hsource, source_slashed] at h
        split at h
        · rename_i pattern hpattern
          obtain rfl := Except.ok.inj h
          rw [hsource]
          exact .regex hpattern
        · exact nomatch h
      · rename_i hregex
        have hslashed : ¬ Slashed t.value := fun h => hregex (isRegex_iff.mpr h)
        split at h
        · rename_i hwild
          dsimp only at h
          split at h
          · rename_i pattern hpattern
            obtain rfl := Except.ok.inj h
            exact .glob hstar hslashed hwild hpattern
          · exact nomatch h
        · rename_i hplain
          split at h
          · rename_i hcase
            obtain rfl := Except.ok.inj h
            exact .equals hcase hslashed hplain
          · rename_i hcase
            obtain rfl := Except.ok.inj h
            exact .equalsFolded (Bool.eq_false_iff.mpr hcase) hslashed hplain
  · intro h
    rw [match?]
    generalize hvalue : t.value = value at h
    cases h with
    | present => rw [if_pos rfl]
    | @regex source pattern hpattern =>
      have hregex : isRegex ('/' :: source ++ ['/']) = true := isRegex_iff.mpr ⟨source, rfl⟩
      rw [if_neg (by simp), if_pos hregex, source_slashed, hpattern]
    | @glob _ pattern hstar hslashed hwild hpattern =>
      rw [Wild] at hwild
      rw [if_neg hstar, if_neg fun h => hslashed (isRegex_iff.mp h), if_pos hwild]
      rw [globText] at hpattern
      simp only [hpattern]
    | equals hcase hslashed hplain =>
      rw [Wild] at hplain
      rw [if_neg, if_neg fun h => hslashed (isRegex_iff.mp h), if_neg hplain, if_pos hcase]
      rintro rfl
      exact hplain (.inr List.mem_cons_self)
    | equalsFolded hcase hslashed hplain =>
      rw [Wild] at hplain
      rw [if_neg, if_neg fun h => hslashed (isRegex_iff.mp h), if_neg hplain,
        if_neg (Bool.eq_false_iff.mp hcase)]
      rintro rfl
      exact hplain (.inr List.mem_cons_self)

/-! ## Attributes -/

theorem comparison_eq_ok {a : Attribute} {caseSensitive : Bool} {n : Node} :
    t.comparison a caseSensitive = .ok n ↔
      TermMeans a (caseWord caseSensitive) t.comparator t.value n := by
  rw [comparison]
  constructor
  · intro h
    split at h
    · rename_i hequal
      exact .equal caseSensitive rfl hequal (match?_eq_ok.mp h)
    · rename_i hequal
      obtain ⟨m, hm, rfl⟩ := integer_bind_eq_ok.mp h
      exact .compare caseSensitive rfl hequal hm
  · intro h
    cases h with
    | equal b hb hequal hn =>
      obtain rfl := caseWord_injective hb
      rw [if_pos hequal]
      exact match?_eq_ok.mpr hn
    | compare b hb hequal hn =>
      rw [if_neg hequal]
      exact integer_bind_eq_ok.mpr ⟨_, hn, rfl⟩
    | count hm | length hm | allBits hm | anyBit hm | chain hm =>
      cases caseSensitive <;> exact absurd hm (by decide)

section Modified

variable {a : Attribute} {offset : Nat} {modifier : String}

/-- Both modifiers for lengths mean the same. -/
theorem modified_length (h : some modifier ∈ [some "len", some "length"]) :
    t.modified a offset modifier =
      t.integer "length modifier" >>= fun n => .ok (.length a t.comparator n) := by
  simp only [List.mem_cons, Option.some.injEq, List.not_mem_nil, or_false] at h
  rcases h with rfl | rfl
  · rw [modified]
    rfl
  · rw [modified]
    rfl

/-- Both modifiers for all bits of a mask mean the same. -/
theorem modified_allBits (h : some modifier ∈ [some "1.2.840.113556.1.4.803", some "and"]) :
    t.modified a offset modifier =
      t.requireEqual >>= fun _ => t.integer "bitwise and" >>= fun m => .ok (.allBits a m) := by
  simp only [List.mem_cons, Option.some.injEq, List.not_mem_nil, or_false] at h
  rcases h with rfl | rfl
  · rw [modified]
    rfl
  · rw [modified]
    rfl

/-- Both modifiers for any bit of a mask mean the same. -/
theorem modified_anyBit (h : some modifier ∈ [some "1.2.840.113556.1.4.804", some "or"]) :
    t.modified a offset modifier =
      t.requireEqual >>= fun _ => t.integer "bitwise or" >>= fun m => .ok (.anyBit a m) := by
  simp only [List.mem_cons, Option.some.injEq, List.not_mem_nil, or_false] at h
  rcases h with rfl | rfl
  · rw [modified]
    rfl
  · rw [modified]
    rfl

/-- Both modifiers for chains of names mean the same. -/
theorem modified_chain (h : some modifier ∈ [some "1.2.840.113556.1.4.1941", some "dnchain"]) :
    t.modified a offset modifier =
      t.requireEqual >>= fun _ => .ok (.chain a (String.ofList t.value)) := by
  simp only [List.mem_cons, Option.some.injEq, List.not_mem_nil, or_false] at h
  rcases h with rfl | rfl
  · rw [modified]
    rfl
  · rw [modified]
    rfl

/-- What a modifier asks is what the grammar says. -/
theorem termMeans_of_modified {n : Node} (h : t.modified a offset modifier = .ok n) :
    TermMeans a (some modifier) t.comparator t.value n := by
  unfold modified at h
  -- one case for each spelling of a modifier
  split at h
  · exact comparison_eq_ok.mp h
  · obtain ⟨m, hm, rfl⟩ := integer_bind_eq_ok.mp h
    exact .count rfl hm
  · obtain ⟨m, hm, rfl⟩ := integer_bind_eq_ok.mp h
    exact .length (by simp) hm
  · obtain ⟨m, hm, rfl⟩ := integer_bind_eq_ok.mp h
    exact .length (by simp) hm
  · obtain ⟨hequal, h⟩ := requireEqual_bind_eq_ok.mp h
    obtain ⟨m, hm, rfl⟩ := integer_bind_eq_ok.mp h
    exact .allBits (by simp) hequal hm
  · obtain ⟨hequal, h⟩ := requireEqual_bind_eq_ok.mp h
    obtain ⟨m, hm, rfl⟩ := integer_bind_eq_ok.mp h
    exact .allBits (by simp) hequal hm
  · obtain ⟨hequal, h⟩ := requireEqual_bind_eq_ok.mp h
    obtain ⟨m, hm, rfl⟩ := integer_bind_eq_ok.mp h
    exact .anyBit (by simp) hequal hm
  · obtain ⟨hequal, h⟩ := requireEqual_bind_eq_ok.mp h
    obtain ⟨m, hm, rfl⟩ := integer_bind_eq_ok.mp h
    exact .anyBit (by simp) hequal hm
  · obtain ⟨hequal, h⟩ := requireEqual_bind_eq_ok.mp h
    obtain rfl := Except.ok.inj h
    exact .chain (by simp) hequal
  · obtain ⟨hequal, h⟩ := requireEqual_bind_eq_ok.mp h
    obtain rfl := Except.ok.inj h
    exact .chain (by simp) hequal
  · exact nomatch h

/-- What the grammar says with a modifier is asked. -/
theorem modified_of_termMeans {n : Node}
    (h : TermMeans a (some modifier) t.comparator t.value n) :
    t.modified a offset modifier = .ok n := by
  cases h with
  | equal b hb hequal hn =>
    -- there is a modifier, so letter case counts
    cases b with
    | false => exact nomatch hb
    | true =>
      obtain rfl := Option.some.inj hb
      rw [modified]
      exact comparison_eq_ok.mpr (.equal true rfl hequal hn)
  | compare b hb hequal hn =>
    cases b with
    | false => exact nomatch hb
    | true =>
      obtain rfl := Option.some.inj hb
      rw [modified]
      exact comparison_eq_ok.mpr (.compare true rfl hequal hn)
  | count hm hn =>
    obtain rfl := Option.some.inj hm
    rw [modified]
    exact integer_bind_eq_ok.mpr ⟨_, hn, rfl⟩
  | length hm hn =>
    rw [modified_length hm]
    exact integer_bind_eq_ok.mpr ⟨_, hn, rfl⟩
  | allBits hm hequal hn =>
    rw [modified_allBits hm]
    exact requireEqual_bind_eq_ok.mpr ⟨hequal, integer_bind_eq_ok.mpr ⟨_, hn, rfl⟩⟩
  | anyBit hm hequal hn =>
    rw [modified_anyBit hm]
    exact requireEqual_bind_eq_ok.mpr ⟨hequal, integer_bind_eq_ok.mpr ⟨_, hn, rfl⟩⟩
  | chain hm hequal =>
    rw [modified_chain hm]
    exact requireEqual_bind_eq_ok.mpr ⟨hequal, rfl⟩

end Modified

/-- A term means a condition on an attribute exactly if a rule of the grammar says so. -/
theorem condition_eq_ok {r r' : Registry} {n : Node} :
    t.condition r = (.ok n, r') ↔
      TermMeans (r.intern (String.ofList t.name)).1
          ((t.modifier.map (·.2)).map String.ofList) t.comparator t.value n ∧
        r' = (r.intern (String.ofList t.name)).2 := by
  rw [condition, Prod.mk.injEq, eq_comm (a := r')]
  refine and_congr_left fun _ => ?_
  cases t.modifier with
  | none => exact comparison_eq_ok
  | some m => exact ⟨termMeans_of_modified, modified_of_termMeans⟩

end Conditions

/-! ## Terms with an underscore -/

theorem word_eq_ok {word : List Char} {y : Option AttackMethod → Except Rejection α} {x : α}
    {r : Rejection} :
    (if word = [] ∨ word = ['*'] then y none
      else match AttackMethod.ofName? word with
        | some m => y (some m)
        | none => .error r) = .ok x ↔
      ∃ m, WordMeans word m ∧ y m = .ok x := by
  constructor
  · intro h
    split at h
    · rename_i hany
      rcases hany with rfl | rfl
      · exact ⟨none, .empty, h⟩
      · exact ⟨none, .star, h⟩
    · split at h
      · rename_i m hm
        exact ⟨some m, .method hm, h⟩
      · exact nomatch h
  · rintro ⟨m, hm, h⟩
    cases hm with
    | empty => exact h
    | star => exact h
    | @method _ m hm =>
      -- no method has one of the words for any method as its name
      have hany : ¬ (word = [] ∨ word = ['*']) := by
        rintro (rfl | rfl)
        · exact nomatch (show AttackMethod.ofName? [] = none by decide).symm.trans hm
        · exact nomatch (show AttackMethod.ofName? ['*'] = none by decide).symm.trans hm
      rw [if_neg hany, hm]
      exact h

/-- An edge term has a word for its method, and perhaps a text after a comma. -/
theorem edge_eq_ok {e : Direction} {x : Special} :
    t.edge e = .ok x ↔
      t.comparator = .equal ∧ ∃ word m, ',' ∉ word ∧ WordMeans word m ∧
        ((t.value = word ∧ x = .edge e m none) ∨
          ∃ text, t.value = word ++ ',' :: text ∧
            x = .edge e m (some (t.valueOffset + byteLength word + 1, text))) := by
  rw [edge, requireEqual_bind_eq_ok]
  refine and_congr_right fun _ => ?_
  have happend := List.takeWhile_append_dropWhile (p := (· ≠ ',')) (l := t.value)
  have hcomma := not_mem_takeWhile_ne ',' t.value
  generalize t.value.takeWhile (· ≠ ',') = word at happend hcomma ⊢
  -- with or without a comma, the value falls into word and condition in one way
  cases hdrop : t.value.dropWhile (· ≠ ',') with
  | nil =>
    rw [hdrop, List.append_nil] at happend
    refine Iff.trans (word_eq_ok (y := fun m => .ok (Special.edge e m none))) ?_
    constructor
    · rintro ⟨m, hm, h⟩
      exact ⟨word, m, hcomma, hm, .inl ⟨happend.symm, (Except.ok.inj h).symm⟩⟩
    · rintro ⟨word', m, hcomma', hm, ⟨hvalue, rfl⟩ | ⟨text, hvalue, rfl⟩⟩
      · exact ⟨m, happend.trans hvalue ▸ hm, rfl⟩
      · rw [hvalue, (takeWhile_ne_append hcomma' text).2] at hdrop
        exact nomatch hdrop
  | cons c text =>
    obtain ⟨rfl, -⟩ := eq_of_dropWhile_ne hdrop
    rw [hdrop] at happend
    refine Iff.trans (word_eq_ok (y := fun m =>
      .ok (Special.edge e m (some (t.valueOffset + byteLength word + 1, text))))) ?_
    constructor
    · rintro ⟨m, hm, h⟩
      exact ⟨word, m, hcomma, hm, .inr ⟨text, happend.symm, (Except.ok.inj h).symm⟩⟩
    · rintro ⟨word', m, hcomma', hm, ⟨hvalue, rfl⟩ | ⟨text', hvalue, rfl⟩⟩
      · rw [hvalue, (takeWhile_ne_self hcomma').2] at hdrop
        exact nomatch hdrop
      · obtain ⟨rfl, rfl⟩ := append_cons_inj hcomma hcomma' (happend.trans hvalue)
        exact ⟨m, hm, rfl⟩

theorem special_eq_ok {x : Special} :
    t.special = .ok x ↔
      t.modifier = none ∧
        ((t.name = "_limit".toList ∧ t.comparator = .equal ∧
            ∃ max, Decimal.read? t.value = some max ∧ x = .limit max) ∨
          (t.name = "_random100".toList ∧
            ∃ n, Decimal.read? t.value = some n ∧ x = .random t.comparator n) ∨
          ∃ e, t.name = (directionWord e).toList ∧ t.edge e = .ok x) := by
  constructor
  · intro h
    unfold special at h
    dsimp only at h
    split at h
    · exact nomatch h
    · rename_i hmodifier
      have hnone : t.modifier = none := by
        cases hm : t.modifier with
        | none => rfl
        | some m => exact (hmodifier m.1 m.2 hm).elim
      refine ⟨hnone, ?_⟩
      split at h
      · rename_i hname
        obtain ⟨hequal, h⟩ := requireEqual_bind_eq_ok.mp h
        exact .inl ⟨String.ofList_injective hname, hequal, integer_bind_eq_ok.mp h⟩
      · rename_i hname
        exact .inr (.inl ⟨String.ofList_injective hname, integer_bind_eq_ok.mp h⟩)
      · rename_i hname
        exact .inr (.inr ⟨.canPwn, String.ofList_injective hname, h⟩)
      · rename_i hname
        exact .inr (.inr ⟨.pwnableBy, String.ofList_injective hname, h⟩)
      · exact nomatch h
  · rintro ⟨hmodifier, h⟩
    unfold special
    rw [hmodifier]
    dsimp only
    rcases h with ⟨hname, hequal, h⟩ | ⟨hname, h⟩ | ⟨e, hname, h⟩
    · rw [hname]
      exact requireEqual_bind_eq_ok.mpr ⟨hequal, integer_bind_eq_ok.mpr h⟩
    · rw [hname]
      exact integer_bind_eq_ok.mpr h
    · rw [hname]
      cases e with
      | canPwn => exact h
      | pwnableBy => exact h

theorem special_eq_limit {max : Int64} :
    t.special = .ok (.limit max) ↔
      t.modifier = none ∧ t.name = "_limit".toList ∧ t.comparator = .equal ∧
        Decimal.read? t.value = some max := by
  rw [special_eq_ok]
  refine and_congr_right fun _ => ?_
  constructor
  · rintro (⟨hname, hequal, max, hvalue, hx⟩ | ⟨-, n, -, hx⟩ | ⟨e, -, hedge⟩)
    · obtain rfl := Special.limit.inj hx
      exact ⟨hname, hequal, hvalue⟩
    · exact nomatch hx
    · obtain ⟨-, word, m, -, -, ⟨-, hx⟩ | ⟨text, -, hx⟩⟩ := edge_eq_ok.mp hedge
      · exact nomatch hx
      · exact nomatch hx
  · rintro ⟨hname, hequal, hvalue⟩
    exact .inl ⟨hname, hequal, max, hvalue, rfl⟩

theorem special_eq_random {c : Comparator} {n : Int64} :
    t.special = .ok (.random c n) ↔
      t.modifier = none ∧ t.name = "_random100".toList ∧ t.comparator = c ∧
        Decimal.read? t.value = some n := by
  rw [special_eq_ok]
  refine and_congr_right fun _ => ?_
  constructor
  · rintro (⟨-, -, max, -, hx⟩ | ⟨hname, n, hvalue, hx⟩ | ⟨e, -, hedge⟩)
    · exact nomatch hx
    · obtain ⟨rfl, rfl⟩ := Special.random.inj hx
      exact ⟨hname, rfl, hvalue⟩
    · obtain ⟨-, word, m, -, -, ⟨-, hx⟩ | ⟨text, -, hx⟩⟩ := edge_eq_ok.mp hedge
      · exact nomatch hx
      · exact nomatch hx
  · rintro ⟨hname, rfl, hvalue⟩
    exact .inr (.inl ⟨hname, n, hvalue, rfl⟩)

theorem special_eq_edge {e : Direction} {m : Option AttackMethod}
    {target : Option (Nat × List Char)} :
    t.special = .ok (.edge e m target) ↔
      t.modifier = none ∧ t.name = (directionWord e).toList ∧ t.comparator = .equal ∧
        ∃ word, ',' ∉ word ∧ WordMeans word m ∧
          ((t.value = word ∧ target = none) ∨
            ∃ text, t.value = word ++ ',' :: text ∧
              target = some (t.valueOffset + byteLength word + 1, text)) := by
  rw [special_eq_ok]
  refine and_congr_right fun _ => ?_
  constructor
  · rintro (⟨-, -, max, -, hx⟩ | ⟨-, n, -, hx⟩ | ⟨e', hname, hedge⟩)
    · exact nomatch hx
    · exact nomatch hx
    · obtain ⟨hequal, word, m', hcomma, hword, h⟩ := edge_eq_ok.mp hedge
      rcases h with ⟨hvalue, hx⟩ | ⟨text, hvalue, hx⟩
      · obtain ⟨rfl, rfl, rfl⟩ := Special.edge.inj hx
        exact ⟨hname, hequal, word, hcomma, hword, .inl ⟨hvalue, rfl⟩⟩
      · obtain ⟨rfl, rfl, rfl⟩ := Special.edge.inj hx
        exact ⟨hname, hequal, word, hcomma, hword, .inr ⟨text, hvalue, rfl⟩⟩
  · rintro ⟨hname, hequal, word, hcomma, hword, h⟩
    refine .inr (.inr ⟨e, hname, edge_eq_ok.mpr ⟨hequal, word, m, hcomma, hword, ?_⟩⟩)
    rcases h with ⟨hvalue, rfl⟩ | ⟨text, hvalue, rfl⟩
    · exact .inl ⟨hvalue, rfl⟩
    · exact .inr ⟨text, hvalue, rfl⟩

end Directory.Filter.Term
