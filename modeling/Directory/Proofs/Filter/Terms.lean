import Directory.Proofs.Filter.Grammar

/-!
# Reading the parts of terms

Each part of a term is read as the grammar says, in both directions: what the grammar allows is
read, and what is read is allowed. The readers are functions, so a text has one way of being a
term.

- `Filter.DepthAfter`: how many parentheses are open before and after a text.
- `Filter.Spelling.Fits`: the parts of a term that was read are those of a spelling.
- `Filter.Term.read_of_denotes`, `Filter.Term.fits_of_read`: the two directions for whole terms.
- `Filter.Spelling.Denotes.unique`: the spelling of a term is unique.
-/

namespace Directory

theorem bind_eq_ok {ε α β : Type} {x : Except ε α} {f : α → Except ε β} {b : β} :
    (x >>= f) = .ok b ↔ ∃ a, x = .ok a ∧ f a = .ok b := by
  cases x with
  | error e => exact ⟨fun h => (nomatch h), fun ⟨_, h, _⟩ => (nomatch h)⟩
  | ok a => exact ⟨fun h => ⟨a, rfl, h⟩, fun ⟨_, h, hb⟩ => Except.ok.inj h ▸ hb⟩

namespace Filter

theorem byteLength_cons (c : Char) (l : List Char) :
    byteLength (c :: l) = c.utf8Size + byteLength l := rfl

@[simp] theorem byteLength_append (l m : List Char) :
    byteLength (l ++ m) = byteLength l + byteLength m := by
  induction l with
  | nil => exact (Nat.zero_add _).symm
  | cons c l ih => rw [List.cons_append, byteLength_cons, byteLength_cons, ih, Nat.add_assoc]

/-! ## Cutting at a character -/

theorem decide_ne_of_not_mem {c : Char} {l : List Char} (h : c ∉ l) :
    ∀ d ∈ l, decide (d ≠ c) = true := by
  intro d hd
  refine decide_eq_true ?_
  rintro rfl
  exact h hd

theorem takeWhile_ne_append {c : Char} {l : List Char} (h : c ∉ l) (rest : List Char) :
    (l ++ c :: rest).takeWhile (· ≠ c) = l ∧ (l ++ c :: rest).dropWhile (· ≠ c) = c :: rest := by
  have hall := decide_ne_of_not_mem h
  rw [List.takeWhile_append_of_pos hall, List.takeWhile_cons_of_neg (by simp), List.append_nil,
    List.dropWhile_append_of_pos hall, List.dropWhile_cons_of_neg (by simp)]
  exact ⟨rfl, rfl⟩

theorem takeWhile_ne_self {c : Char} {l : List Char} (h : c ∉ l) :
    l.takeWhile (· ≠ c) = l ∧ l.dropWhile (· ≠ c) = [] := by
  have hall := decide_ne_of_not_mem h
  rw [← l.append_nil, List.takeWhile_append_of_pos hall, List.dropWhile_append_of_pos hall]
  exact ⟨rfl, rfl⟩

/-- A text is cut in one way at the first occurrence of a character. -/
theorem append_cons_inj {c : Char} {l l' rest rest' : List Char} (hl : c ∉ l) (hl' : c ∉ l')
    (h : l ++ c :: rest = l' ++ c :: rest') : l = l' ∧ rest = rest' := by
  obtain ⟨htake, hdrop⟩ := takeWhile_ne_append hl rest
  obtain ⟨htake', hdrop'⟩ := takeWhile_ne_append hl' rest'
  rw [h] at htake hdrop
  exact ⟨htake.symm.trans htake', (List.cons.inj (hdrop.symm.trans hdrop')).2⟩

theorem not_mem_takeWhile_ne (c : Char) (l : List Char) : c ∉ l.takeWhile (· ≠ c) := by
  intro hmem
  simpa using List.all_eq_true.mp List.all_takeWhile _ hmem

theorem eq_of_dropWhile_ne {c d : Char} {l rest : List Char}
    (h : l.dropWhile (· ≠ c) = d :: rest) : d = c ∧ l = l.takeWhile (· ≠ c) ++ c :: rest := by
  obtain rfl : d = c := by
    have hd := List.head?_dropWhile_not (· ≠ c) l
    rw [h] at hd
    simpa using hd
  refine ⟨rfl, ?_⟩
  rw [← h]
  exact List.takeWhile_append_dropWhile.symm

/-! ## Names -/

/-- A character is no backslash when neither rule for backslashes applies to it. -/
theorem ne_backslash {c : Char} {l : List Char} (hlast : c = '\\' → l = [] → False)
    (hpair : ∀ d m, c = '\\' → l = d :: m → False) : c ≠ '\\' := by
  intro hc
  cases l with
  | nil => exact hlast hc rfl
  | cons d m => exact hpair d m hc rfl

theorem nameOf_cons {c : Char} (h : c ≠ '\\') (offset : Nat) (l : List Char) :
    nameOf offset (c :: l) =
      if c = ')' then .error ⟨.closeInName, offset⟩
      else if c ∈ [':', '~', '=', '<', '>'] then .ok ([], ⟨c :: l, offset⟩)
      else nameOf (offset + c.utf8Size) l >>= fun (name, k) => .ok (c :: name, k) := by
  rw [nameOf]
  · rfl
  · exact fun hc => absurd hc h
  · exact fun _ _ hc => absurd hc h

theorem nameOf_of_resolves {raw name : List Char} (h : Resolves nameStops raw name) {c : Char}
    (hc : c ∈ [':', '~', '=', '<', '>']) (offset : Nat) (l : List Char) :
    nameOf offset (raw ++ c :: l) = .ok (name, ⟨c :: l, offset + byteLength raw⟩) := by
  induction h generalizing offset with
  | nil =>
    have hbackslash : c ≠ '\\' := by
      rintro rfl
      exact absurd hc (by decide)
    have hclose : c ≠ ')' := by
      rintro rfl
      exact absurd hc (by decide)
    rw [List.nil_append, nameOf_cons hbackslash, if_neg hclose, if_pos hc]
    rfl
  | @escape d raw name _ ih =>
    rw [List.cons_append, List.cons_append, nameOf, ih, byteLength_cons, byteLength_cons,
      Nat.add_assoc, Nat.add_assoc]
    rfl
  | @plain d raw name hd hstop _ ih =>
    simp only [nameStops, List.mem_cons, not_or] at hstop
    rw [List.cons_append, nameOf_cons hd, if_neg hstop.2.1, if_neg, ih, byteLength_cons,
      Nat.add_assoc]
    · rfl
    · simp [hstop]

theorem resolves_of_nameOf {offset : Nat} {l name : List Char} {k : Cursor}
    (h : nameOf offset l = .ok (name, k)) :
    ∃ raw, Resolves nameStops raw name ∧ l = raw ++ k.rest ∧
      ∃ c, k.rest.head? = some c ∧ c ∈ [':', '~', '=', '<', '>'] := by
  fun_induction nameOf offset l generalizing name k with
  | case1 => exact nomatch h
  | case2 => exact nomatch h
  -- a backslash takes the next character as it is
  | case3 offset c l ih =>
    obtain ⟨⟨name', k'⟩, hl, heq⟩ := bind_eq_ok.mp h
    obtain ⟨rfl, rfl⟩ := Prod.mk.inj (Except.ok.inj heq)
    obtain ⟨raw, hraw, rfl, hend⟩ := ih hl
    exact ⟨'\\' :: c :: raw, hraw.escape, rfl, hend⟩
  | case4 => exact nomatch h
  | case5 offset c l _ _ _ hend =>
    obtain ⟨rfl, rfl⟩ := Prod.mk.inj (Except.ok.inj h)
    exact ⟨[], .nil, rfl, c, rfl, hend⟩
  -- what is left is a character without a meaning
  | case6 offset c l hlast hpair hclose hother ih =>
    have hbackslash : c ≠ '\\' := ne_backslash hlast hpair
    have hstop : c ∉ nameStops := by
      simp only [List.mem_cons, not_or] at hother
      simp [nameStops, hclose, hother]
    obtain ⟨⟨name', k'⟩, hl, heq⟩ := bind_eq_ok.mp h
    obtain ⟨rfl, rfl⟩ := Prod.mk.inj (Except.ok.inj heq)
    obtain ⟨raw, hraw, rfl, hend⟩ := ih hl
    exact ⟨c :: raw, hraw.plain hbackslash hstop, rfl, hend⟩

theorem Resolves.nil_iff {stops raw l : List Char} (h : Resolves stops raw l) :
    raw = [] ↔ l = [] := by
  cases h <;> simp

/-! ## Modifiers and signs -/

theorem modifierOf_modifierText {modifier : Option (List Char)}
    (hm : ∀ m, modifier = some m → ':' ∉ m) {l : List Char} (hl : l.head? ≠ some ':')
    (offset : Nat) :
    modifierOf ⟨modifierText modifier ++ l, offset⟩ =
      .ok (modifier.map (offset, ·), ⟨l, offset + byteLength (modifierText modifier)⟩) := by
  cases modifier with
  | none =>
    cases l with
    | nil => rfl
    | cons c l =>
      have hc : c ≠ ':' := fun hc => hl (congrArg some hc)
      simp only [modifierText, List.nil_append, modifierOf, List.cons.injEq, hc, false_and,
        imp_false, not_false_eq_true, implies_true, Option.map_none]
      rfl
  | some m =>
    have htext : modifierText (some m) ++ l = ':' :: (m ++ ':' :: l) := by
      simp [modifierText]
    have hlength : byteLength (modifierText (some m)) = byteLength m + 2 := by
      rw [modifierText, byteLength_append, byteLength_cons, Nat.add_comm _ (byteLength m)]
      rfl
    obtain ⟨htake, hdrop⟩ := takeWhile_ne_append (hm m rfl) l
    rw [htext, modifierOf, hlength]
    simp only [htake, hdrop]
    rfl

theorem modifierText_of_modifierOf {k k' : Cursor} {modifier : Option (Nat × List Char)}
    (h : modifierOf k = .ok (modifier, k')) :
    k.rest = modifierText (modifier.map (·.2)) ++ k'.rest ∧
      ∀ m, modifier.map (·.2) = some m → ':' ∉ m := by
  rw [modifierOf] at h
  split at h
  · rename_i l hk
    dsimp only at h
    split at h
    · exact nomatch h
    · rename_i c rest hdrop
      obtain ⟨rfl, rfl⟩ := Prod.mk.inj (Except.ok.inj h)
      obtain ⟨-, hl⟩ := eq_of_dropWhile_ne hdrop
      refine ⟨?_, ?_⟩
      · rw [hk]
        exact congrArg (':' :: ·) (hl.trans (List.append_cons _ _ _))
      · rintro m hm
        obtain rfl := Option.some.inj hm
        exact not_mem_takeWhile_ne ':' l
  · obtain ⟨rfl, rfl⟩ := Prod.mk.inj (Except.ok.inj h)
    exact ⟨rfl, fun m hm => nomatch hm⟩

theorem Sign.text_injective : ∀ {s t : Sign}, s.text = t.text → s = t := by
  intro s t h
  cases s <;> cases t <;> first | rfl | exact absurd h (by decide)

theorem comparatorOf_less {l : List Char} (h : l.head? ≠ some '=') (offset : Nat) :
    comparatorOf ⟨'<' :: l, offset⟩ = .ok (.less, ⟨l, offset + 1⟩) := by
  cases l with
  | nil => rfl
  | cons c l =>
    have hc : c ≠ '=' := fun hc => h (congrArg some hc)
    simp [comparatorOf, hc]

theorem comparatorOf_greater {l : List Char} (h : l.head? ≠ some '=') (offset : Nat) :
    comparatorOf ⟨'>' :: l, offset⟩ = .ok (.greater, ⟨l, offset + 1⟩) := by
  cases l with
  | nil => rfl
  | cons c l =>
    have hc : c ≠ '=' := fun hc => h (congrArg some hc)
    simp [comparatorOf, hc]

theorem comparatorOf_text {s : Sign} {l : List Char} (h : s.isOpen = true → l.head? ≠ some '=')
    (offset : Nat) :
    comparatorOf ⟨s.text ++ l, offset⟩ = .ok (s.comparator, ⟨l, offset + byteLength s.text⟩) := by
  cases s with
  | less => exact comparatorOf_less (h rfl) offset
  | greater => exact comparatorOf_greater (h rfl) offset
  | _ => rfl

theorem text_of_comparatorOf {k k' : Cursor} {c : Comparator}
    (h : comparatorOf k = .ok (c, k')) :
    ∃ s : Sign, s.comparator = c ∧ k.rest = s.text ++ k'.rest ∧
      (s.isOpen = true → k'.rest.head? ≠ some '=') := by
  rw [comparatorOf] at h
  split at h
  · exact nomatch h
  · rename_i l hk
    obtain ⟨rfl, rfl⟩ := Prod.mk.inj (Except.ok.inj h)
    exact ⟨.equal, rfl, hk, nofun⟩
  · rename_i l hk
    obtain ⟨rfl, rfl⟩ := Prod.mk.inj (Except.ok.inj h)
    exact ⟨.tildeEqual, rfl, hk, nofun⟩
  · exact nomatch h
  · rename_i l hk
    obtain ⟨rfl, rfl⟩ := Prod.mk.inj (Except.ok.inj h)
    exact ⟨.lessOrEqual, rfl, hk, nofun⟩
  -- the longer signs are tried first
  · rename_i l hmunch hk
    obtain ⟨rfl, rfl⟩ := Prod.mk.inj (Except.ok.inj h)
    refine ⟨.less, rfl, hk, fun _ hhead => ?_⟩
    obtain ⟨m, rfl⟩ := List.head?_eq_some_iff.mp hhead
    exact hmunch m rfl
  · rename_i l hk
    obtain ⟨rfl, rfl⟩ := Prod.mk.inj (Except.ok.inj h)
    exact ⟨.greaterOrEqual, rfl, hk, nofun⟩
  · rename_i l hmunch hk
    obtain ⟨rfl, rfl⟩ := Prod.mk.inj (Except.ok.inj h)
    refine ⟨.greater, rfl, hk, fun _ hhead => ?_⟩
    obtain ⟨m, rfl⟩ := List.head?_eq_some_iff.mp hhead
    exact hmunch m rfl
  · exact nomatch h

/-! ## Values -/

theorem valueOf_cons {c : Char} (h : c ≠ '\\') (verbatim : Bool) (depth offset : Nat)
    (l : List Char) :
    valueOf verbatim depth offset (c :: l) =
      if c = ')' ∧ depth = 0 then .ok ([], ⟨l, offset + 1⟩)
      else valueOf verbatim
          (if c = ')' then depth - 1 else if c = '(' ∧ verbatim then depth + 1 else depth)
          (offset + c.utf8Size) l >>= fun (value, k) => .ok (c :: value, k) := by
  rw [valueOf]
  · rfl
  · exact fun hc => absurd hc h
  · exact fun _ _ hc => absurd hc h

theorem valueOf_of_resolves {raw value : List Char} (h : Resolves [')'] raw value)
    (offset : Nat) (l : List Char) :
    valueOf false 0 offset (raw ++ ')' :: l) =
      .ok (value, ⟨l, offset + byteLength raw + 1⟩) := by
  induction h generalizing offset with
  | nil => rfl
  | @escape d raw value _ ih =>
    rw [List.cons_append, List.cons_append, valueOf, ih, byteLength_cons, byteLength_cons,
      Nat.add_assoc, Nat.add_assoc, Nat.add_assoc]
    rfl
  | @plain d raw value hd hstop _ ih =>
    have hclose : d ≠ ')' := fun hd => hstop (List.mem_singleton.mpr hd)
    rw [List.cons_append, valueOf_cons hd, if_neg (fun h => hclose h.1), if_neg hclose,
      if_neg (by simp), ih, byteLength_cons, Nat.add_assoc offset]
    rfl

theorem resolves_of_valueOf {depth offset : Nat} {l value : List Char} {k : Cursor}
    (hdepth : depth = 0) (h : valueOf false depth offset l = .ok (value, k)) :
    ∃ raw, Resolves [')'] raw value ∧ l = raw ++ ')' :: k.rest := by
  fun_induction valueOf false depth offset l generalizing value k with
  | case1 => exact nomatch h
  | case2 => exact nomatch h
  | case3 depth offset c l ih =>
    obtain ⟨⟨value', k'⟩, hl, heq⟩ := bind_eq_ok.mp h
    obtain ⟨rfl, rfl⟩ := Prod.mk.inj (Except.ok.inj heq)
    obtain ⟨raw, hraw, rfl⟩ := ih hdepth hl
    exact ⟨'\\' :: c :: raw, hraw.escape, rfl⟩
  | case4 depth offset c l _ _ hend =>
    obtain ⟨rfl, rfl⟩ := Prod.mk.inj (Except.ok.inj h)
    exact ⟨[], .nil, by rw [hend.1]; rfl⟩
  | case5 depth offset c l hlast hpair hopen =>
    rename_i ih
    have hclose : c ≠ ')' := fun hc => hopen ⟨hc, hdepth⟩
    -- the depth stays zero where opening parentheses do not count
    have hnext : (if c = ')' then depth - 1
        else if c = '(' ∧ false = true then depth + 1 else depth) = 0 := by
      rw [if_neg hclose, if_neg (by simp), hdepth]
    obtain ⟨⟨value', k'⟩, hl, heq⟩ := bind_eq_ok.mp h
    obtain ⟨rfl, rfl⟩ := Prod.mk.inj (Except.ok.inj heq)
    obtain ⟨raw, hraw, rfl⟩ := ih hnext hl
    exact ⟨c :: raw, hraw.plain (ne_backslash hlast hpair) (by simpa using hclose), rfl⟩

/-- How many parentheses without a backslash before them are open before and after a text. None is
closed that is not open. -/
inductive DepthAfter : Nat → List Char → Nat → Prop where
  | nil {depth : Nat} : DepthAfter depth [] depth
  | escape {depth depth' : Nat} {c : Char} {l : List Char} :
      DepthAfter depth l depth' → DepthAfter depth ('\\' :: c :: l) depth'
  | plain {depth depth' : Nat} {c : Char} {l : List Char} :
      c ∉ ['\\', '(', ')'] → DepthAfter depth l depth' → DepthAfter depth (c :: l) depth'
  | opens {depth depth' : Nat} {l : List Char} :
      DepthAfter (depth + 1) l depth' → DepthAfter depth ('(' :: l) depth'
  | closes {depth depth' : Nat} {l : List Char} :
      DepthAfter depth l depth' → DepthAfter (depth + 1) (')' :: l) depth'

namespace DepthAfter

variable {depth depth' depth'' : Nat} {l m : List Char}

theorem append (h : DepthAfter depth l depth') (h' : DepthAfter depth' m depth'') :
    DepthAfter depth (l ++ m) depth'' := by
  induction h with
  | nil => exact h'
  | escape _ ih => exact (ih h').escape
  | plain hc _ ih => exact (ih h').plain hc
  | opens _ ih => exact (ih h').opens
  | closes _ ih => exact (ih h').closes

theorem of_paired (h : Paired l) (depth : Nat) : DepthAfter depth l depth := by
  induction h generalizing depth with
  | nil => exact .nil
  | escape _ ih => exact (ih depth).escape
  | plain hc _ ih => exact (ih depth).plain hc
  | nested _ _ ih ih' => exact .opens ((ih (depth + 1)).append (.closes (ih' depth)))

/-- The value of an edge term is read on at the depth that its text has reached. -/
theorem valueOf (h : DepthAfter depth l depth') (offset : Nat) (m : List Char) :
    valueOf true depth offset (l ++ m) =
      Filter.valueOf true depth' (offset + byteLength l) m >>= fun p => .ok (l ++ p.1, p.2) := by
  -- what was read before is put in front of what is read after
  have hfront : ∀ (x : Except Rejection (List Char × Cursor)) (front : List Char) {l : List Char},
      (x >>= fun p => .ok (l ++ p.1, p.2)) >>= (fun p => .ok (front ++ p.1, p.2)) =
        x >>= fun p => .ok (front ++ l ++ p.1, p.2) := by
    intro x front l
    cases x with
    | error e => rfl
    | ok p => exact congrArg (fun v => Except.ok (v, p.2)) (List.append_assoc ..).symm
  induction h generalizing offset with
  | nil =>
    show _ = Filter.valueOf true _ offset m >>= fun p => .ok p
    rw [List.nil_append]
    cases Filter.valueOf true _ offset m <;> rfl
  | @escape depth depth' c l _ ih =>
    rw [List.cons_append, List.cons_append, Filter.valueOf, ih, byteLength_cons, byteLength_cons,
      ← Nat.add_assoc, ← Nat.add_assoc]
    exact hfront _ ['\\', c]
  | @plain depth depth' c l hc _ ih =>
    simp only [List.mem_cons, List.not_mem_nil, or_false, not_or] at hc
    rw [List.cons_append, valueOf_cons hc.1, if_neg (fun h => hc.2.2 h.1), if_neg hc.2.2,
      if_neg (fun h => hc.2.1 h.1), ih, byteLength_cons, ← Nat.add_assoc]
    exact hfront _ [c]
  | opens _ ih =>
    rw [List.cons_append, valueOf_cons (by decide), if_neg (by simp), if_neg (by decide),
      if_pos (by simp), ih, byteLength_cons, ← Nat.add_assoc]
    exact hfront _ ['(']
  | @closes depth depth' l _ ih =>
    rw [List.cons_append, valueOf_cons (by decide), if_neg (by simp), if_pos rfl,
      Nat.add_sub_cancel, ih, byteLength_cons, ← Nat.add_assoc]
    exact hfront _ [')']

end DepthAfter

theorem valueOf_of_paired {raw : List Char} (h : Paired raw) (offset : Nat) (l : List Char) :
    valueOf true 0 offset (raw ++ ')' :: l) = .ok (raw, ⟨l, offset + byteLength raw + 1⟩) := by
  rw [(DepthAfter.of_paired h 0).valueOf, valueOf_cons (by decide), if_pos ⟨rfl, rfl⟩]
  exact congrArg (fun v => Except.ok (v, _)) raw.append_nil

/-- Whether parentheses pair up after some were opened. -/
def PairedAfter : Nat → List Char → Prop
  | 0, l => Paired l
  | depth + 1, l => ∃ m rest, l = m ++ ')' :: rest ∧ Paired m ∧ PairedAfter depth rest

theorem PairedAfter.escape {c : Char} :
    ∀ {depth : Nat} {l : List Char}, PairedAfter depth l → PairedAfter depth ('\\' :: c :: l)
  | 0, _, h => Paired.escape h
  | _ + 1, _, ⟨m, rest, hl, hm, hrest⟩ => ⟨'\\' :: c :: m, rest, by rw [hl]; rfl, hm.escape, hrest⟩

theorem PairedAfter.plain {c : Char} (hc : c ∉ ['\\', '(', ')']) :
    ∀ {depth : Nat} {l : List Char}, PairedAfter depth l → PairedAfter depth (c :: l)
  | 0, _, h => Paired.plain hc h
  | _ + 1, _, ⟨m, rest, hl, hm, hrest⟩ => ⟨c :: m, rest, by rw [hl]; rfl, hm.plain hc, hrest⟩

theorem PairedAfter.close {depth : Nat} {l : List Char} (h : PairedAfter depth l) :
    PairedAfter (depth + 1) (')' :: l) :=
  ⟨[], l, rfl, .nil, h⟩

theorem PairedAfter.open {depth : Nat} {l : List Char} :
    PairedAfter (depth + 1) l → PairedAfter depth ('(' :: l) := by
  rintro ⟨m, rest, rfl, hm, hrest⟩
  cases depth with
  | zero => exact hm.nested hrest
  | succ depth =>
    obtain ⟨m', rest', rfl, hm', hrest'⟩ := hrest
    exact ⟨'(' :: m ++ ')' :: m', rest', by simp, hm.nested hm', hrest'⟩

theorem paired_of_valueOf {depth offset : Nat} {l value : List Char} {k : Cursor}
    (h : valueOf true depth offset l = .ok (value, k)) :
    PairedAfter depth value ∧ l = value ++ ')' :: k.rest := by
  fun_induction valueOf true depth offset l generalizing value k with
  | case1 => exact nomatch h
  | case2 => exact nomatch h
  | case3 depth offset c l ih =>
    obtain ⟨⟨value', k'⟩, hl, heq⟩ := bind_eq_ok.mp h
    obtain ⟨rfl, rfl⟩ := Prod.mk.inj (Except.ok.inj heq)
    obtain ⟨hvalue, rfl⟩ := ih hl
    exact ⟨hvalue.escape, rfl⟩
  | case4 depth offset c l _ _ hend =>
    obtain ⟨rfl, rfl⟩ := Prod.mk.inj (Except.ok.inj h)
    obtain ⟨rfl, rfl⟩ := hend
    exact ⟨Paired.nil, rfl⟩
  | case5 depth offset c l hlast hpair hopen =>
    rename_i ih
    obtain ⟨⟨value', k'⟩, hl, heq⟩ := bind_eq_ok.mp h
    obtain ⟨rfl, rfl⟩ := Prod.mk.inj (Except.ok.inj heq)
    obtain ⟨hvalue, rfl⟩ := ih hl
    refine ⟨?_, rfl⟩
    -- parentheses change the depth, other characters do not
    by_cases hclose : c = ')'
    · subst hclose
      obtain ⟨depth, rfl⟩ : ∃ m, depth = m + 1 :=
        Nat.exists_eq_succ_of_ne_zero fun hdepth => hopen ⟨rfl, hdepth⟩
      exact PairedAfter.close hvalue
    · by_cases hopens : c = '('
      · subst hopens
        exact PairedAfter.open hvalue
      · replace hvalue : PairedAfter (if c = ')' then depth - 1
            else if c = '(' ∧ true = true then depth + 1 else depth) value' := hvalue
        rw [if_neg hclose, if_neg fun hc => hopens hc.1] at hvalue
        refine hvalue.plain ?_
        simp [ne_backslash hlast hpair, hopens, hclose]

theorem value_of_valueOf {verbatim : Bool} {offset : Nat} {l value : List Char} {k : Cursor}
    (h : valueOf verbatim 0 offset l = .ok (value, k)) :
    ∃ raw, (if verbatim then Paired raw ∧ raw = value else Resolves [')'] raw value) ∧
      l = raw ++ ')' :: k.rest := by
  cases verbatim with
  | true =>
    obtain ⟨hpaired, hl⟩ := paired_of_valueOf h
    exact ⟨value, ⟨hpaired, rfl⟩, hl⟩
  | false => exact resolves_of_valueOf rfl h

/-! ## Whole terms -/

/-- Whether the parts of a term are those of a spelling. -/
structure Spelling.Fits (p : Spelling) (t : Term) : Prop where
  /-- The term is written like this. -/
  denotes : p.Denotes t.name t.value
  /-- The modifiers are the same. -/
  modifier : t.modifier.map (·.2) = p.modifier
  /-- The comparison is that of the sign. -/
  comparator : t.comparator = p.sign.comparator

/-- Only special names have values that hold conditions. -/
theorem Term.holdsCondition_of_head {name : List Char} (h : name.head? ≠ some '_') :
    holdsCondition name = false := by
  rw [holdsCondition, Bool.or_eq_false_iff, beq_eq_false_iff_ne, beq_eq_false_iff_ne]
  constructor
  · rintro rfl
    exact h rfl
  · rintro rfl
    exact h rfl

namespace Spelling.Denotes

variable {p : Spelling} {name value : List Char}

theorem name_ne_nil (h : p.Denotes name value) : name ≠ [] := by
  obtain ⟨c, hc, -⟩ := h.start
  rintro rfl
  rw [h.named.nil_iff.mpr rfl] at hc
  exact nomatch hc

/-- After the name comes a colon or a comparison sign. -/
theorem head_modifier (p : Spelling) (l : List Char) :
    ∃ c m, modifierText p.modifier ++ (p.sign.text ++ l) = c :: m ∧
      c ∈ [':', '~', '=', '<', '>'] := by
  cases p.modifier with
  | some m => exact ⟨':', _, rfl, by decide⟩
  | none => cases p.sign <;> exact ⟨_, _, rfl, by decide⟩

theorem head_sign (s : Sign) (l : List Char) : (s.text ++ l).head? ≠ some ':' := by
  cases s <;> simp [Sign.text]

theorem nameOf (h : p.Denotes name value) (offset : Nat) (l : List Char) :
    nameOf offset (p.name ++ (modifierText p.modifier ++ (p.sign.text ++ l))) =
      .ok (name, ⟨modifierText p.modifier ++ (p.sign.text ++ l), offset + byteLength p.name⟩) := by
  obtain ⟨c, m, hrest, hc⟩ := head_modifier p l
  rw [hrest]
  exact nameOf_of_resolves h.named hc offset m

theorem modifierOf (h : p.Denotes name value) (offset : Nat) (l : List Char) :
    modifierOf ⟨modifierText p.modifier ++ (p.sign.text ++ l), offset⟩ =
      .ok (p.modifier.map (offset, ·),
        ⟨p.sign.text ++ l, offset + byteLength (modifierText p.modifier)⟩) :=
  modifierOf_modifierText h.modifier (head_sign p.sign l) offset

theorem comparatorOf (h : p.Denotes name value) (offset : Nat) (l : List Char) :
    comparatorOf ⟨p.sign.text ++ (p.value ++ ')' :: l), offset⟩ =
      .ok (p.sign.comparator, ⟨p.value ++ ')' :: l, offset + byteLength p.sign.text⟩) := by
  refine comparatorOf_text (fun hopen => ?_) offset
  have hhead := h.sign hopen
  cases hvalue : p.value with
  | nil => simp
  | cons c m => rwa [hvalue] at hhead

theorem valueOf (h : p.Denotes name value) (offset : Nat) (l : List Char) :
    valueOf (Term.holdsCondition name) 0 offset (p.value ++ ')' :: l) =
      .ok (value, ⟨l, offset + byteLength p.value + 1⟩) := by
  have hvalue := h.value
  cases hname : Term.holdsCondition name with
  | true =>
    rw [hname, if_pos rfl] at hvalue
    rw [← hvalue.2]
    exact valueOf_of_paired hvalue.1 offset l
  | false =>
    rw [hname, if_neg (by simp)] at hvalue
    exact valueOf_of_resolves hvalue offset l

end Spelling.Denotes

namespace Term

/-- What is written by the rule for terms is read. -/
theorem read_of_denotes {p : Spelling} {name value : List Char} (h : p.Denotes name value)
    (offset : Nat) (l : List Char) :
    ∃ t, read ⟨p.text ++ ')' :: l, offset⟩ = .ok (t, ⟨l, offset + byteLength p.text + 1⟩) ∧
      p.Fits t ∧ t.name = name ∧ t.value = value := by
  have hname : name.isEmpty = false := by
    cases name with
    | nil => exact absurd rfl h.name_ne_nil
    | cons c l => rfl
  have htext : p.text ++ ')' :: l =
      p.name ++ (modifierText p.modifier ++ (p.sign.text ++ (p.value ++ ')' :: l))) := by
    simp [Spelling.text]
  have hlength : offset + byteLength p.text + 1 =
      offset + byteLength p.name + byteLength (modifierText p.modifier) +
        byteLength p.sign.text + byteLength p.value + 1 := by
    simp only [Spelling.text, byteLength_append, Nat.add_assoc]
  refine ⟨⟨name, offset, p.modifier.map (offset + byteLength p.name, ·), p.sign.comparator, value,
    offset + byteLength p.name + byteLength (modifierText p.modifier) + byteLength p.sign.text⟩,
    ?_, ⟨h, ?_, rfl⟩, rfl, rfl⟩
  · rw [read, htext, hlength]
    refine bind_eq_ok.mpr ⟨_, h.nameOf offset _, ?_⟩
    refine bind_eq_ok.mpr ⟨_, h.modifierOf _ _, ?_⟩
    dsimp only
    rw [hname]
    refine bind_eq_ok.mpr ⟨_, h.comparatorOf _ l, ?_⟩
    exact bind_eq_ok.mpr ⟨_, h.valueOf _ l, rfl⟩
  · cases p.modifier <;> rfl

/-- What is read is written by the rule for terms. -/
theorem fits_of_read {k k' : Cursor} {t : Term} (h : read k = .ok (t, k'))
    (hstart : ∀ c, k.rest.head? = some c → c ∉ ['(', '&', '|', '!']) :
    ∃ p : Spelling, p.Fits t ∧ k.rest = p.text ++ ')' :: k'.rest := by
  obtain ⟨⟨name, k₁⟩, hname, h⟩ := bind_eq_ok.mp h
  obtain ⟨⟨modifier, k₂⟩, hmodifier, h⟩ := bind_eq_ok.mp h
  dsimp only at h
  split at h
  · exact nomatch h
  · rename_i hnonempty
    obtain ⟨⟨c, k₃⟩, hcomparator, h⟩ := bind_eq_ok.mp h
    obtain ⟨⟨value, k₄⟩, hvalue, h⟩ := bind_eq_ok.mp h
    obtain ⟨rfl, rfl⟩ := Prod.mk.inj (Except.ok.inj h)
    -- each part was written as the rule says, and what follows it is the rest
    obtain ⟨rawName, hresolves, hrest, -⟩ := resolves_of_nameOf hname
    obtain ⟨hrest₁, hcolon⟩ := modifierText_of_modifierOf hmodifier
    obtain ⟨s, hs, hrest₂, hmunch⟩ := text_of_comparatorOf hcomparator
    obtain ⟨rawValue, hmeans, hrest₃⟩ := value_of_valueOf hvalue
    refine ⟨⟨rawName, modifier.map (·.2), s, rawValue⟩, ⟨⟨hresolves, ?_, hcolon, ?_, hmeans⟩, rfl,
      hs.symm⟩, ?_⟩
    · cases rawName with
      | nil => exact absurd (congrArg List.isEmpty (hresolves.nil_iff.mp rfl)) hnonempty
      | cons c raw => exact ⟨c, rfl, hstart c (by rw [hrest]; rfl)⟩
    · intro hopen
      have hhead := hmunch hopen
      rw [hrest₃] at hhead
      cases rawValue with
      | nil => exact nofun
      | cons c raw => exact hhead
    · rw [hrest, hrest₁, hrest₂, hrest₃]
      simp [Spelling.text]

end Term

/-- A text is a term in one way. -/
theorem Spelling.Denotes.unique {p q : Spelling} {name name' value value' : List Char}
    (hp : p.Denotes name value) (hq : q.Denotes name' value') {l m : List Char}
    (h : p.text ++ ')' :: l = q.text ++ ')' :: m) :
    p = q ∧ l = m ∧ name = name' ∧ value = value' := by
  have htext : ∀ (p : Spelling) l, p.text ++ ')' :: l =
      p.name ++ (modifierText p.modifier ++ (p.sign.text ++ (p.value ++ ')' :: l))) := by
    simp [Spelling.text]
  rw [htext, htext] at h
  -- each reader gives one answer for what is left of the two texts
  have hname := hq.nameOf 0 (q.value ++ ')' :: m)
  rw [← h, hp.nameOf] at hname
  obtain ⟨rfl, hrest⟩ := Prod.mk.inj (Except.ok.inj hname)
  have h₁ := (Cursor.mk.inj hrest).1
  have hmodifier := hq.modifierOf 0 (q.value ++ ')' :: m)
  rw [← h₁, hp.modifierOf] at hmodifier
  obtain ⟨hmodifier, hrest⟩ := Prod.mk.inj (Except.ok.inj hmodifier)
  have h₂ := (Cursor.mk.inj hrest).1
  have hcomparator := hq.comparatorOf 0 m
  rw [← h₂, hp.comparatorOf] at hcomparator
  obtain ⟨-, hrest⟩ := Prod.mk.inj (Except.ok.inj hcomparator)
  have h₃ := (Cursor.mk.inj hrest).1
  have hvalue := hq.valueOf 0 m
  rw [← h₃, hp.valueOf] at hvalue
  obtain ⟨rfl, hrest⟩ := Prod.mk.inj (Except.ok.inj hvalue)
  obtain rfl := (Cursor.mk.inj hrest).1
  rw [h₁] at h
  rw [h₃] at h₂
  refine ⟨?_, rfl, rfl, rfl⟩
  obtain ⟨name₁, modifier₁, sign₁, value₁⟩ := p
  obtain ⟨name₂, modifier₂, sign₂, value₂⟩ := q
  obtain rfl : name₁ = name₂ := List.append_cancel_right h
  obtain rfl : modifier₁ = modifier₂ := by
    cases modifier₁ <;> cases modifier₂ <;> simp_all
  obtain rfl : sign₁ = sign₂ := Sign.text_injective (List.append_cancel_right h₂)
  obtain rfl : value₁ = value₂ := List.append_cancel_right h₃
  rfl

end Filter

end Directory
