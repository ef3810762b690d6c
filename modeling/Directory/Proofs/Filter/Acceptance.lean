import Directory.Proofs.Filter.Meaning
import Directory.Regex.Standard

/-!
# Readers accept the grammar

A text is read as a filter exactly if the grammar derives it, and then the reader's condition is
that of the derivation. A text begins with one derivation at most.

- `Filter.query_of_yields`: what is derived is read.
- `Filter.yields_of_query`: what is read is derived.
- `Filter.Derivation.Yields.unique`: no text begins with two derivations.
- `Filter.readStart_iff_derivation`: all of this for whole texts.
-/

namespace Directory.Filter

/-- What is known in a state. -/
def State.knowledge (s : State) : Knowledge :=
  ⟨s.registry, s.nextSlot⟩

/-- The state before a text, given what is known. -/
def Knowledge.state (k : Knowledge) (l : List Char) (offset : Nat) : State :=
  ⟨⟨l, offset⟩, k.registry, k.nextSlot⟩

/-! ## Texts of derivations -/

namespace Derivation

theorem exists_text (d : Derivation) : ∃ l, d.text = '(' :: l := by
  cases d <;> exact ⟨_, rfl⟩

theorem text_wrapped (d : Derivation) (rest : List Char) :
    (wrapped d).text ++ rest = '(' :: (d.text ++ ')' :: rest) := by
  simp [text]

theorem text_all (d : Derivation) (ds : List Derivation) (rest : List Char) :
    (all d ds).text ++ rest = '(' :: '&' :: (textAmong (d :: ds) ++ ')' :: rest) := by
  simp [text, textAmong]

theorem text_any (d : Derivation) (ds : List Derivation) (rest : List Char) :
    (any d ds).text ++ rest = '(' :: '|' :: (textAmong (d :: ds) ++ ')' :: rest) := by
  simp [text, textAmong]

theorem text_not (d : Derivation) (rest : List Char) :
    (not d).text ++ rest = '(' :: '!' :: (d.text ++ ')' :: rest) := by
  simp [text]

theorem text_term (p : Spelling) (rest : List Char) :
    (term p).text ++ rest = '(' :: (p.text ++ ')' :: rest) := by
  simp [text]

theorem text_edgeTo (name : List Char) (sign : Sign) (word : List Char) (d : Derivation)
    (rest : List Char) :
    (edgeTo name sign word d).text ++ rest =
      '(' :: (Spelling.text ⟨name, none, sign, word ++ ',' :: d.text⟩ ++ ')' :: rest) := by
  simp [text]

theorem byteLength_between (l : List Char) : byteLength ('(' :: l ++ [')']) = byteLength l + 2 := by
  rw [byteLength_append, byteLength_cons, Nat.add_comm, ← Nat.add_assoc]
  exact Nat.add_comm _ _

theorem byteLength_marked {c : Char} (hc : c ∈ ['&', '|', '!']) (l : List Char) :
    byteLength ('(' :: c :: l ++ [')']) = byteLength l + 3 := by
  have hsize : c.utf8Size = 1 := by
    simp only [List.mem_cons, List.not_mem_nil, or_false] at hc
    rcases hc with rfl | rfl | rfl <;> rfl
  rw [List.cons_append, ← List.cons_append, byteLength_between, byteLength_cons, hsize]
  omega

end Derivation

open Directory.Filter.Derivation

/-! ## Steps of the reader -/

theorem State.of_close {s s' : State} (h : s.close = .ok s') :
    s.cursor.rest = ')' :: s'.cursor.rest ∧ s'.knowledge = s.knowledge := by
  rw [close] at h
  split at h
  · rename_i rest hrest
    obtain rfl := Except.ok.inj h
    exact ⟨hrest, rfl⟩
  · exact nomatch h
  · exact nomatch h

namespace Knowledge

variable [Regex.Properties] (k : Knowledge) (l : List Char) (offset fuel : Nat)

theorem query_open :
    query (fuel + 1) (k.state ('(' :: '(' :: l) offset) =
      query fuel (k.state ('(' :: l) (offset + 1)) >>= fun (n, s) =>
        s.close >>= fun s => .ok (n, s) := by
  rw [query]
  rfl

theorem query_all :
    query (fuel + 1) (k.state ('(' :: '&' :: l) offset) =
      group fuel (k.state l (offset + 2)) >>= fun (ns, s) => .ok (.all ns, s) := by
  rw [query]
  rfl

theorem query_any :
    query (fuel + 1) (k.state ('(' :: '|' :: l) offset) =
      group fuel (k.state l (offset + 2)) >>= fun (ns, s) => .ok (.any ns, s) := by
  rw [query]
  rfl

theorem query_not :
    query (fuel + 1) (k.state ('(' :: '!' :: l) offset) =
      query fuel (k.state l (offset + 2)) >>= fun (n, s) =>
        s.close >>= fun s => .ok (.not n, s) := by
  rw [query]
  rfl

theorem query_term {c : Char} (hc : c ∉ ['(', '&', '|', '!']) :
    query (fuel + 1) (k.state ('(' :: c :: l) offset) =
      term fuel (k.state (c :: l) (offset + 1)) := by
  simp only [List.mem_cons, List.not_mem_nil, or_false, not_or] at hc
  simp [query, Knowledge.state, State.past, hc]

theorem queries_close :
    queries fuel (k.state (')' :: l) offset) = .ok ([], k.state (')' :: l) offset) := by
  cases fuel <;> rfl

theorem queries_open :
    queries (fuel + 1) (k.state ('(' :: l) offset) =
      query fuel (k.state ('(' :: l) offset) >>= fun (n, s) =>
        queries fuel s >>= fun (ns, s) => .ok (n :: ns, s) := by
  rw [queries]
  rfl

theorem group_of_queries {k k' : Knowledge} {l rest : List Char} {fuel offset offset' : Nat}
    {ns : List Node} (hne : ns ≠ [])
    (h : queries fuel (k.state l offset) = .ok (ns, k'.state (')' :: rest) offset')) :
    group (fuel + 1) (k.state l offset) = .ok (ns, k'.state rest (offset' + 1)) := by
  rw [group, h]
  cases ns with
  | nil => exact absurd rfl hne
  | cons n ns => rfl

theorem term_ordinary {t : Term} {c : Cursor} (hread : Term.read ⟨l, offset⟩ = .ok (t, c))
    (hordinary : t.isSpecial = false) {n : Node} {r : Registry}
    (hn : t.condition k.registry = (.ok n, r)) :
    term (fuel + 1) (k.state l offset) = .ok (n, ⟨c, r, k.nextSlot⟩) := by
  simp [term, Knowledge.state, hread, hordinary, hn]

theorem term_special {t : Term} {c : Cursor} (hread : Term.read ⟨l, offset⟩ = .ok (t, c))
    (hspecial : t.isSpecial = true) {x : Special} (hx : t.special = .ok x) :
    term (fuel + 1) (k.state l offset) =
      match x with
      | .limit max => .ok (.limit k.nextSlot max, ⟨c, k.registry, k.nextSlot + 1⟩)
      | .random s n => .ok (.random s n, ⟨c, k.registry, k.nextSlot⟩)
      | .edge e m none => .ok (.edge e m, ⟨c, k.registry, k.nextSlot⟩)
      | .edge e m (some (o, text)) =>
        target fuel (k.state text o) >>= fun (n, inner) =>
          .ok (.edgeTo e m n, { inner with cursor := c }) := by
  simp only [term, Knowledge.state, hread, hspecial, if_true, hx]
  rcases x with max | ⟨s, n⟩ | ⟨e, m, _ | ⟨o, text⟩⟩
  · rfl
  · rfl
  · rfl
  · rfl

end Knowledge

/-! ## What is derived is read -/

theorem Spelling.Denotes.not_marked {p : Spelling} {name value : List Char}
    (h : p.Denotes name value) : ∃ c l, p.text = c :: l ∧ c ∉ ['(', '&', '|', '!'] := by
  obtain ⟨c, hc, hstart⟩ := h.start
  obtain ⟨l, hl⟩ := List.head?_eq_some_iff.mp hc
  exact ⟨c, _, by rw [Spelling.text, hl, List.cons_append], hstart⟩

/-- The values of edge terms are kept as they are written. -/
theorem Spelling.Denotes.verbatim {p : Spelling} {e : Direction} {value : List Char}
    (h : p.Denotes (directionWord e).toList value) : Paired p.value ∧ p.value = value := by
  have hvalue := h.value
  rwa [if_pos (by cases e <;> rfl)] at hvalue

theorem Spelling.Fits.modifier_eq_none {p : Spelling} {t : Term} (h : p.Fits t)
    (hp : p.modifier = none) : t.modifier = none :=
  Option.map_eq_none_iff.mp (h.modifier.trans hp)

section Reading

variable [Regex.Properties]

theorem target_of_query {k k' : Knowledge} {l : List Char} {n : Node} {fuel offset offset' : Nat}
    (hleast : leastBytes ≤ byteLength l)
    (h : query fuel (k.state l offset) = .ok (n, k'.state [] offset')) :
    target (fuel + 1) (k.state l offset) = .ok (n, k'.state [] offset') := by
  rw [target]
  have hlong : ¬ byteLength (k.state l offset).cursor.rest < leastBytes := Nat.not_lt.mpr hleast
  simp only [hlong, if_false, h]
  rfl

/-- A term without a condition in its value is read as the rules say. -/
theorem term_of_yields {p : Spelling} {k k' : Knowledge} {n : Node}
    (h : (Derivation.term p).Yields k n k') (fuel offset : Nat) (rest : List Char) :
    term (fuel + 1) (k.state (p.text ++ ')' :: rest) offset) =
      .ok (n, k'.state rest (offset + byteLength p.text + 1)) := by
  cases h with
  | @ordinary _ name value _ _ hp hname hn =>
    obtain ⟨t, hread, hfits, rfl, rfl⟩ := Term.read_of_denotes hp offset rest
    have hordinary : t.isSpecial = false := by
      rw [Term.isSpecial, beq_eq_false_iff_ne]
      exact hname
    refine k.term_ordinary _ _ _ hread hordinary (Term.condition_eq_ok.mpr ⟨?_, rfl⟩)
    rw [hfits.modifier, hfits.comparator]
    exact hn
  | @limit _ value _ max hp hm hequal hvalue =>
    obtain ⟨t, hread, hfits, hname, rfl⟩ := Term.read_of_denotes hp offset rest
    have hspecial : t.isSpecial = true := by rw [Term.isSpecial, hname]; rfl
    have hx : t.special = .ok (.limit max) := Term.special_eq_limit.mpr
      ⟨hfits.modifier_eq_none hm, hname, hfits.comparator.trans hequal, hvalue⟩
    exact k.term_special _ _ _ hread hspecial hx
  | @random _ value _ n hp hm hvalue =>
    obtain ⟨t, hread, hfits, hname, rfl⟩ := Term.read_of_denotes hp offset rest
    have hspecial : t.isSpecial = true := by rw [Term.isSpecial, hname]; rfl
    have hx : t.special = .ok (.random p.sign.comparator n) := Term.special_eq_random.mpr
      ⟨hfits.modifier_eq_none hm, hname, hfits.comparator, hvalue⟩
    exact k.term_special _ _ _ hread hspecial hx
  | @edge _ e value _ m hp hm hequal hcomma hword =>
    obtain ⟨t, hread, hfits, hname, rfl⟩ := Term.read_of_denotes hp offset rest
    have hspecial : t.isSpecial = true := by rw [Term.isSpecial, hname]; cases e <;> rfl
    have hx : t.special = .ok (.edge e m none) := Term.special_eq_edge.mpr
      ⟨hfits.modifier_eq_none hm, hname, hfits.comparator.trans hequal, t.value, hcomma, hword,
        .inl ⟨rfl, rfl⟩⟩
    exact k.term_special _ _ _ hread hspecial hx

theorem Derivation.YieldsAmong.exists_cons {ds : List Derivation} {k k' : Knowledge}
    {ns : List Node} (h : YieldsAmong ds k ns k') (hne : ns ≠ []) : ∃ d ds', ds = d :: ds' := by
  cases h with
  | nil => exact absurd rfl hne
  | cons => exact ⟨_, _, rfl⟩

theorem Derivation.YieldsAmong.ne_nil {d : Derivation} {ds : List Derivation} {k k' : Knowledge}
    {ns : List Node} (h : YieldsAmong (d :: ds) k ns k') : ns ≠ [] := by
  cases h
  exact nofun

mutual

/-- What is derived is read, with enough fuel for every character. -/
theorem query_of_yields : ∀ {d : Derivation} {k k' : Knowledge} {n : Node}, d.Yields k n k' →
    ∀ (fuel : Nat), 3 * d.text.length ≤ fuel → ∀ (offset : Nat) (rest : List Char),
      query fuel (k.state (d.text ++ rest) offset) =
        .ok (n, k'.state rest (offset + byteLength d.text))
  | .wrapped d, k, k', n, .wrapped h, fuel, hfuel, offset, rest => by
    -- each character pays for three calls, and no more are made for it
    have hlength : (Derivation.wrapped d).text.length = d.text.length + 2 := by simp [text]
    have hoffset : offset + byteLength (Derivation.wrapped d).text =
        offset + 1 + byteLength d.text + 1 := by
      rw [Derivation.text, byteLength_between]
      omega
    obtain ⟨fuel, rfl⟩ : ∃ m, fuel = m + 1 := ⟨fuel - 1, by omega⟩
    obtain ⟨l, hl⟩ := d.exists_text
    have hd := query_of_yields h fuel (by omega) (offset + 1) (')' :: rest)
    rw [hoffset, text_wrapped, hl, List.cons_append, Knowledge.query_open, ← List.cons_append,
      ← hl, hd]
    rfl
  | .all d ds, k, k', _, .all h, fuel, hfuel, offset, rest => by
    have hlength : (Derivation.all d ds).text.length = (textAmong (d :: ds)).length + 3 := by
      simp [text, textAmong, Nat.add_assoc]
    have hoffset : offset + byteLength (Derivation.all d ds).text =
        offset + 2 + byteLength (textAmong (d :: ds)) + 1 := by
      rw [Derivation.text, byteLength_marked (by decide), textAmong]
      omega
    obtain ⟨fuel, rfl⟩ : ∃ m, fuel = m + 2 := ⟨fuel - 2, by omega⟩
    have hds := queries_of_yieldsAmong h fuel (by omega) (offset + 2) rest
    rw [hoffset, text_all, Knowledge.query_all, Knowledge.group_of_queries h.ne_nil hds]
    rfl
  | .any d ds, k, k', _, .any h, fuel, hfuel, offset, rest => by
    have hlength : (Derivation.any d ds).text.length = (textAmong (d :: ds)).length + 3 := by
      simp [text, textAmong, Nat.add_assoc]
    have hoffset : offset + byteLength (Derivation.any d ds).text =
        offset + 2 + byteLength (textAmong (d :: ds)) + 1 := by
      rw [Derivation.text, byteLength_marked (by decide), textAmong]
      omega
    obtain ⟨fuel, rfl⟩ : ∃ m, fuel = m + 2 := ⟨fuel - 2, by omega⟩
    have hds := queries_of_yieldsAmong h fuel (by omega) (offset + 2) rest
    rw [hoffset, text_any, Knowledge.query_any, Knowledge.group_of_queries h.ne_nil hds]
    rfl
  | .not d, k, k', _, .not h, fuel, hfuel, offset, rest => by
    have hlength : (Derivation.not d).text.length = d.text.length + 3 := by simp [text]
    have hoffset : offset + byteLength (Derivation.not d).text =
        offset + 2 + byteLength d.text + 1 := by
      rw [Derivation.text, byteLength_marked (by decide)]
      omega
    obtain ⟨fuel, rfl⟩ : ∃ m, fuel = m + 1 := ⟨fuel - 1, by omega⟩
    have hd := query_of_yields h fuel (by omega) (offset + 2) (')' :: rest)
    rw [hoffset, text_not, Knowledge.query_not, hd]
    rfl
  | .term p, k, k', n, h, fuel, hfuel, offset, rest => by
    have hlength : (Derivation.term p).text.length = p.text.length + 2 := by simp [text]
    have hoffset : offset + byteLength (Derivation.term p).text =
        offset + 1 + byteLength p.text + 1 := by
      rw [Derivation.text, byteLength_between]
      omega
    obtain ⟨fuel, rfl⟩ : ∃ m, fuel = m + 2 := ⟨fuel - 2, by omega⟩
    obtain ⟨name, value, hp⟩ : ∃ name value, p.Denotes name value := by
      cases h <;> exact ⟨_, _, ‹_›⟩
    obtain ⟨c, l, hl, hc⟩ := hp.not_marked
    rw [hoffset, text_term, hl, List.cons_append, Knowledge.query_term _ _ _ _ hc,
      ← List.cons_append, ← hl]
    exact term_of_yields h fuel (offset + 1) rest
  | .edgeTo name sign word d, k, k', _, .edgeTo (e := e) (m := m) hp hequal hcomma hword hleast h,
      fuel, hfuel, offset, rest => by
    generalize hspelling : Spelling.mk name none sign (word ++ ',' :: d.text) = p at hp
    have htext : (Derivation.edgeTo name sign word d).text = '(' :: p.text ++ [')'] := by
      rw [← hspelling, Derivation.text]
    have hlength : d.text.length + 3 ≤ (Derivation.edgeTo name sign word d).text.length := by
      rw [htext, ← hspelling]
      simp [Spelling.text]
      omega
    have hoffset : offset + byteLength (Derivation.edgeTo name sign word d).text =
        offset + 1 + byteLength p.text + 1 := by
      rw [htext, byteLength_between]
      omega
    obtain ⟨fuel, rfl⟩ : ∃ m, fuel = m + 3 := ⟨fuel - 3, by omega⟩
    obtain ⟨c, l, hl, hc⟩ := hp.not_marked
    -- the term is read first, and then the condition in its value as a text of its own
    obtain ⟨t, hread, hfits, hname, hvalue⟩ := Term.read_of_denotes hp (offset + 1) rest
    have hspecial : t.isSpecial = true := by rw [Term.isSpecial, hname]; cases e <;> rfl
    have hx : t.special =
        .ok (.edge e m (some (t.valueOffset + byteLength word + 1, d.text))) :=
      Term.special_eq_edge.mpr ⟨hfits.modifier_eq_none (by rw [← hspelling]), hname,
        by rw [hfits.comparator, ← hspelling]; exact hequal, word, hcomma, hword,
        .inr ⟨d.text, hvalue, rfl⟩⟩
    have hd := query_of_yields h fuel (by omega)
      (t.valueOffset + byteLength word + 1) []
    rw [List.append_nil] at hd
    have hterm := k.term_special _ _ (fuel + 1) hread hspecial hx
    dsimp only at hterm
    rw [target_of_query hleast hd] at hterm
    rw [hoffset, text_edgeTo, hspelling, hl, List.cons_append, Knowledge.query_term _ _ _ _ hc,
      ← List.cons_append, ← hl, hterm]
    rfl

theorem queries_of_yieldsAmong : ∀ {ds : List Derivation} {k k' : Knowledge} {ns : List Node},
    YieldsAmong ds k ns k' →
    ∀ (fuel : Nat), 3 * (textAmong ds).length + 1 ≤ fuel → ∀ (offset : Nat) (rest : List Char),
      queries fuel (k.state (textAmong ds ++ ')' :: rest) offset) =
        .ok (ns, k'.state (')' :: rest) (offset + byteLength (textAmong ds)))
  | [], k, _, _, .nil, fuel, hfuel, offset, rest => k.queries_close rest offset fuel
  | d :: ds, k, k', _, .cons h hs, fuel, hfuel, offset, rest => by
    obtain ⟨l, hl⟩ := d.exists_text
    have hlength : (textAmong (d :: ds)).length = d.text.length + (textAmong ds).length := by
      rw [textAmong, List.length_append]
    have hpositive : 0 < d.text.length := by
      rw [hl]
      exact Nat.succ_pos _
    obtain ⟨fuel, rfl⟩ : ∃ m, fuel = m + 1 := ⟨fuel - 1, by omega⟩
    have hd := query_of_yields h fuel (by omega) offset (textAmong ds ++ ')' :: rest)
    have hds := queries_of_yieldsAmong hs fuel (by omega)
      (offset + byteLength d.text) rest
    rw [textAmong, List.append_assoc, hl, List.cons_append, Knowledge.queries_open,
      ← List.cons_append, ← hl, hd, byteLength_append, ← Nat.add_assoc]
    exact bind_eq_ok.mpr ⟨_, rfl, bind_eq_ok.mpr ⟨_, hds, rfl⟩⟩

end

/-! ## What is read is derived -/

mutual

/-- What is read is derived. -/
theorem yields_of_query : ∀ {fuel : Nat} {s s' : State} {n : Node}, query fuel s = .ok (n, s') →
    ∃ d : Derivation, s.cursor.rest = d.text ++ s'.cursor.rest ∧ d.Yields s.knowledge n s'.knowledge
  | 0, _, _, _, h => nomatch h
  | fuel + 1, s, s', n, h => by
    rw [query] at h
    split at h
    · rename_i l hl
      dsimp only at h
      -- the character after the parenthesis decides
      split at h
      · exact nomatch h
      · obtain ⟨⟨n', t⟩, hn, h⟩ := bind_eq_ok.mp h
        obtain ⟨t', hclose, h⟩ := bind_eq_ok.mp h
        obtain ⟨rfl, rfl⟩ := Prod.mk.inj (Except.ok.inj h)
        obtain ⟨d, hd, hyields⟩ := yields_of_query hn
        obtain ⟨hrest, hknown⟩ := State.of_close hclose
        refine ⟨.wrapped d, ?_, .wrapped (hknown ▸ hyields)⟩
        rw [hl, text_wrapped, ← hrest, ← hd]
        rfl
      · obtain ⟨⟨ns, t⟩, hns, h⟩ := bind_eq_ok.mp h
        obtain ⟨rfl, rfl⟩ := Prod.mk.inj (Except.ok.inj h)
        obtain ⟨d, ds, hds, hyields⟩ := yieldsAmong_of_group hns
        refine ⟨.all d ds, ?_, .all hyields⟩
        rw [hl, text_all, ← hds]
        rfl
      · obtain ⟨⟨ns, t⟩, hns, h⟩ := bind_eq_ok.mp h
        obtain ⟨rfl, rfl⟩ := Prod.mk.inj (Except.ok.inj h)
        obtain ⟨d, ds, hds, hyields⟩ := yieldsAmong_of_group hns
        refine ⟨.any d ds, ?_, .any hyields⟩
        rw [hl, text_any, ← hds]
        rfl
      · obtain ⟨⟨n', t⟩, hn, h⟩ := bind_eq_ok.mp h
        obtain ⟨t', hclose, h⟩ := bind_eq_ok.mp h
        obtain ⟨rfl, rfl⟩ := Prod.mk.inj (Except.ok.inj h)
        obtain ⟨d, hd, hyields⟩ := yields_of_query hn
        obtain ⟨hrest, hknown⟩ := State.of_close hclose
        refine ⟨.not d, ?_, .not (hknown ▸ hyields)⟩
        rw [hl, text_not, ← hrest, ← hd]
        rfl
      · rename_i hempty hopen hall hany hnot
        have hstart : ∀ c, l.head? = some c → c ∉ ['(', '&', '|', '!'] := by
          intro c hc hmem
          obtain ⟨m, rfl⟩ := List.head?_eq_some_iff.mp hc
          simp only [List.mem_cons, List.not_mem_nil, or_false] at hmem
          rcases hmem with rfl | rfl | rfl | rfl
          · exact hopen m rfl
          · exact hall m rfl
          · exact hany m rfl
          · exact hnot m rfl
        obtain ⟨d, hd, hyields⟩ := yields_of_term h hstart
        exact ⟨d, hl.trans hd, hyields⟩
    · exact nomatch h

/-- The members of a group are derived. -/
theorem yieldsAmong_of_group : ∀ {fuel : Nat} {s s' : State} {ns : List Node},
    group fuel s = .ok (ns, s') →
    ∃ (d : Derivation) (ds : List Derivation),
      s.cursor.rest = textAmong (d :: ds) ++ ')' :: s'.cursor.rest ∧
      YieldsAmong (d :: ds) s.knowledge ns s'.knowledge
  | 0, _, _, _, h => nomatch h
  | fuel + 1, s, s', ns, h => by
    rw [group] at h
    obtain ⟨⟨_, t⟩, hns, h⟩ := bind_eq_ok.mp h
    obtain ⟨ds, hds, hyields⟩ := yieldsAmong_of_queries hns
    dsimp only at h
    split at h
    · exact nomatch h
    · rename_i ns' _ _ hempty
      obtain ⟨t', hclose, h⟩ := bind_eq_ok.mp h
      obtain ⟨rfl, rfl⟩ := Prod.mk.inj (Except.ok.inj h)
      obtain ⟨hrest, hknown⟩ := State.of_close hclose
      -- a group without members is rejected before its parenthesis is closed
      have hne : ns' ≠ [] := fun hns => hempty _ (by rw [hns]) hrest
      obtain ⟨d, ds, rfl⟩ := hyields.exists_cons hne
      exact ⟨d, ds, by rw [hds, hrest], hknown ▸ hyields⟩

theorem yieldsAmong_of_queries : ∀ {fuel : Nat} {s s' : State} {ns : List Node},
    queries fuel s = .ok (ns, s') →
    ∃ ds, s.cursor.rest = textAmong ds ++ s'.cursor.rest ∧
      YieldsAmong ds s.knowledge ns s'.knowledge
  | 0, s, s', ns, h => by
    obtain ⟨rfl, rfl⟩ := Prod.mk.inj (Except.ok.inj h)
    exact ⟨[], rfl, .nil⟩
  | fuel + 1, s, s', ns, h => by
    rw [queries] at h
    split at h
    · obtain ⟨⟨n, t⟩, hn, h⟩ := bind_eq_ok.mp h
      obtain ⟨⟨ns', t'⟩, hns, h⟩ := bind_eq_ok.mp h
      obtain ⟨rfl, rfl⟩ := Prod.mk.inj (Except.ok.inj h)
      obtain ⟨d, hd, hyields⟩ := yields_of_query hn
      obtain ⟨ds, hds, hyieldsAmong⟩ := yieldsAmong_of_queries hns
      refine ⟨d :: ds, ?_, .cons hyields hyieldsAmong⟩
      rw [hd, hds, textAmong, List.append_assoc]
    · obtain ⟨rfl, rfl⟩ := Prod.mk.inj (Except.ok.inj h)
      exact ⟨[], rfl, .nil⟩

/-- A term is derived, with the parenthesis that was read before it. -/
theorem yields_of_term : ∀ {fuel : Nat} {s s' : State} {n : Node}, term fuel s = .ok (n, s') →
    (∀ c, s.cursor.rest.head? = some c → c ∉ ['(', '&', '|', '!']) →
    ∃ d : Derivation, '(' :: s.cursor.rest = d.text ++ s'.cursor.rest ∧
      d.Yields s.knowledge n s'.knowledge
  | 0, _, _, _, h, _ => nomatch h
  | fuel + 1, s, s', n, h, hstart => by
    rw [term] at h
    split at h
    · exact nomatch h
    · rename_i t k hread
      obtain ⟨p, hfits, hrest⟩ := Term.fits_of_read hread hstart
      dsimp only at h
      split at h
      · rename_i hspecial
        split at h
        · exact nomatch h
        · rename_i max hx
          obtain ⟨rfl, rfl⟩ := Prod.mk.inj (Except.ok.inj h)
          obtain ⟨hm, hname, hequal, hvalue⟩ := Term.special_eq_limit.mp hx
          refine ⟨.term p, by rw [text_term, hrest], .limit (hname ▸ hfits.denotes) ?_ ?_ hvalue⟩
          · rw [← hfits.modifier, hm]
            rfl
          · rw [← hfits.comparator, hequal]
        · rename_i c n hx
          obtain ⟨rfl, rfl⟩ := Prod.mk.inj (Except.ok.inj h)
          obtain ⟨hm, hname, rfl, hvalue⟩ := Term.special_eq_random.mp hx
          have hmodifier : p.modifier = none := by rw [← hfits.modifier, hm]; rfl
          rw [hfits.comparator]
          exact ⟨.term p, by rw [text_term, hrest],
            .random (hname ▸ hfits.denotes) hmodifier hvalue⟩
        · rename_i e m hx
          obtain ⟨rfl, rfl⟩ := Prod.mk.inj (Except.ok.inj h)
          obtain ⟨hm, hname, hequal, word, hcomma, hword, ⟨rfl, -⟩ | ⟨_, -, hnone⟩⟩ :=
            Term.special_eq_edge.mp hx
          · have hmodifier : p.modifier = none := by rw [← hfits.modifier, hm]; rfl
            exact ⟨.term p, by rw [text_term, hrest],
              .edge (hname ▸ hfits.denotes) hmodifier (hfits.comparator ▸ hequal) hcomma hword⟩
          · exact nomatch hnone
        · rename_i e m offset text hx
          obtain ⟨⟨n', inner⟩, htarget, h⟩ := bind_eq_ok.mp h
          obtain ⟨rfl, rfl⟩ := Prod.mk.inj (Except.ok.inj h)
          obtain ⟨hm, hname, hequal, word, hcomma, hword, ⟨-, hnone⟩ | ⟨text', hvalue, hsome⟩⟩ :=
            Term.special_eq_edge.mp hx
          · exact nomatch hnone
          · obtain ⟨-, rfl⟩ := Prod.mk.inj (Option.some.inj hsome)
            obtain ⟨hleast, d, htext, hyields⟩ := yields_of_target htarget
            obtain rfl : text = d.text := htext
            have hmodifier : p.modifier = none := by rw [← hfits.modifier, hm]; rfl
            -- the value is kept as it is written, so the condition is part of the text
            have hverbatim : p.value = word ++ ',' :: d.text :=
              (Spelling.Denotes.verbatim (hname ▸ hfits.denotes)).2.trans hvalue
            have hp : Spelling.mk p.name none p.sign (word ++ ',' :: d.text) = p := by
              rw [← hmodifier, ← hverbatim]
            refine ⟨.edgeTo p.name p.sign word d, by rw [text_edgeTo, hp, hrest],
              .edgeTo ?_ (hfits.comparator ▸ hequal) hcomma hword hleast hyields⟩
            rw [hp, ← hvalue, ← hname]
            exact hfits.denotes
      · rename_i hordinary
        split at h
        · exact nomatch h
        · rename_i n r hn
          obtain ⟨rfl, rfl⟩ := Prod.mk.inj (Except.ok.inj h)
          obtain ⟨hmeans, rfl⟩ := Term.condition_eq_ok.mp hn
          rw [hfits.modifier, hfits.comparator] at hmeans
          refine ⟨.term p, by rw [text_term, hrest], .ordinary hfits.denotes ?_ hmeans⟩
          intro hname
          exact hordinary (beq_iff_eq.mpr hname)

/-- The condition at the end of an edge is derived from a text that is long enough. -/
theorem yields_of_target : ∀ {fuel : Nat} {s s' : State} {n : Node},
    target fuel s = .ok (n, s') →
    leastBytes ≤ byteLength s.cursor.rest ∧
      ∃ d : Derivation, s.cursor.rest = d.text ∧ d.Yields s.knowledge n s'.knowledge
  | 0, _, _, _, h => nomatch h
  | fuel + 1, s, s', n, h => by
    rw [target] at h
    dsimp only at h
    split at h
    · exact nomatch h
    · rename_i hlong
      obtain ⟨⟨n', t⟩, hn, h⟩ := bind_eq_ok.mp h
      dsimp only at h
      split at h
      · rename_i hrest
        obtain ⟨rfl, rfl⟩ := Prod.mk.inj (Except.ok.inj h)
        obtain ⟨d, hd, hyields⟩ := yields_of_query hn
        refine ⟨Nat.not_lt.mp hlong, d, ?_, hyields⟩
        rw [hd, hrest, List.append_nil]
      · exact nomatch h

end

/-! ## Uniqueness -/

namespace Derivation

/-- The character after the first parenthesis, where it is not the first of a name. -/
def mark? : Derivation → Option Char
  | wrapped _ => some '('
  | all _ _ => some '&'
  | any _ _ => some '|'
  | not _ => some '!'
  | term _ | edgeTo _ _ _ _ => none

theorem Yields.mark?_eq {d : Derivation} {k k' : Knowledge} {n : Node} (h : d.Yields k n k') :
    ∃ c l, d.text = '(' :: c :: l ∧
      d.mark? = if c ∈ ['(', '&', '|', '!'] then some c else none := by
  have hterm : ∀ {p : Spelling} {name value : List Char}, p.Denotes name value →
      ∃ c l, '(' :: p.text ++ [')'] = '(' :: c :: l ∧
        none = if c ∈ ['(', '&', '|', '!'] then some c else none := by
    intro p name value hp
    obtain ⟨c, l, hl, hc⟩ := hp.not_marked
    exact ⟨c, l ++ [')'], by rw [hl]; rfl, (if_neg hc).symm⟩
  cases h with
  | @wrapped d =>
    obtain ⟨l, hl⟩ := d.exists_text
    exact ⟨'(', l ++ [')'], by rw [Derivation.text, hl]; rfl, rfl⟩
  | all => exact ⟨'&', _, rfl, rfl⟩
  | any => exact ⟨'|', _, rfl, rfl⟩
  | not => exact ⟨'!', _, rfl, rfl⟩
  | ordinary hp | limit hp | random hp | edge hp | edgeTo hp => exact hterm hp

theorem Yields.exists_denotes {p : Spelling} {k k' : Knowledge} {n : Node}
    (h : (term p).Yields k n k') : ∃ name value, p.Denotes name value := by
  cases h with
  | ordinary hp | limit hp | random hp | edge hp => exact ⟨_, _, hp⟩

theorem Yields.mark?_of_text {d : Derivation} {k k' : Knowledge} {n : Node} (h : d.Yields k n k')
    {c : Char} {l rest : List Char} (htext : d.text ++ rest = '(' :: c :: l) :
    d.mark? = if c ∈ ['(', '&', '|', '!'] then some c else none := by
  obtain ⟨c', l', hl', hmark⟩ := h.mark?_eq
  rw [hl'] at htext
  rw [hmark, (List.cons.inj (List.cons.inj htext).2).1]

theorem mark?_unique {d d' : Derivation} {k k₁ k₂ k₃ : Knowledge} {n n' : Node}
    (h : d.Yields k n k₁) (h' : d'.Yields k₂ n' k₃) {rest rest' : List Char}
    (htext : d.text ++ rest = d'.text ++ rest') : d.mark? = d'.mark? := by
  obtain ⟨c, l, hl, hmark⟩ := h'.mark?_eq
  rw [hl] at htext
  rw [h.mark?_of_text htext, hmark]

/-- The value of an edge term without a condition has no comma. -/
theorem Yields.comma_not_mem {p : Spelling} {e : Direction} {value : List Char}
    {k k' : Knowledge} {n : Node} (h : (term p).Yields k n k')
    (hp : p.Denotes (directionWord e).toList value) : ',' ∉ value := by
  have hunique : ∀ {name' value' : List Char}, p.Denotes name' value' →
      name' = (directionWord e).toList ∧ value' = value :=
    fun hq => (hq.unique hp (l := []) (m := []) rfl).2.2
  cases h with
  | ordinary hq hname =>
    obtain ⟨rfl, -⟩ := hunique hq
    cases e <;> exact absurd rfl hname
  | limit hq =>
    obtain ⟨hname, -⟩ := hunique hq
    cases e <;> exact absurd hname (by decide)
  | random hq =>
    obtain ⟨hname, -⟩ := hunique hq
    cases e <;> exact absurd hname (by decide)
  | edge hq _ _ hcomma =>
    obtain ⟨-, rfl⟩ := hunique hq
    exact hcomma

/-- A spelling is no term with a condition if it is one without. -/
theorem term_ne_edgeTo {p : Spelling} {name word : List Char} {sign : Sign} {d : Derivation}
    {k k₁ k₂ k₃ : Knowledge} {n n' : Node} (h : (term p).Yields k n k₁)
    (h' : (edgeTo name sign word d).Yields k₂ n' k₃) :
    p ≠ ⟨name, none, sign, word ++ ',' :: d.text⟩ := by
  rintro rfl
  cases h' with
  | edgeTo hp => exact h.comma_not_mem hp (List.mem_append_right _ List.mem_cons_self)

mutual

/-- No text begins with two derivations. -/
theorem Yields.unique : ∀ {d d' : Derivation} {k k₁ k₂ k₃ : Knowledge} {n n' : Node},
    d.Yields k n k₁ → d'.Yields k₂ n' k₃ → ∀ {rest rest' : List Char},
    d.text ++ rest = d'.text ++ rest' → d = d' ∧ rest = rest'
  | .wrapped d, d', _, _, _, _, _, _, .wrapped h, h', rest, rest', htext => by
    have hmark := mark?_unique h.wrapped h' htext
    cases h' with
    | wrapped h' =>
      rw [text_wrapped, text_wrapped] at htext
      obtain ⟨rfl, hrest⟩ := h.unique h' (List.cons.inj htext).2
      exact ⟨rfl, (List.cons.inj hrest).2⟩
    | _ => exact absurd hmark (by simp [mark?])
  | .all d ds, d', _, _, _, _, _, _, .all h, h', rest, rest', htext => by
    have hmark := mark?_unique (.all h) h' htext
    cases h' with
    | all h' =>
      rw [text_all, text_all] at htext
      obtain ⟨hds, rfl⟩ := h.unique h' (List.cons.inj (List.cons.inj htext).2).2
      obtain ⟨rfl, rfl⟩ := List.cons.inj hds
      exact ⟨rfl, rfl⟩
    | _ => exact absurd hmark (by simp [mark?])
  | .any d ds, d', _, _, _, _, _, _, .any h, h', rest, rest', htext => by
    have hmark := mark?_unique (.any h) h' htext
    cases h' with
    | any h' =>
      rw [text_any, text_any] at htext
      obtain ⟨hds, rfl⟩ := h.unique h' (List.cons.inj (List.cons.inj htext).2).2
      obtain ⟨rfl, rfl⟩ := List.cons.inj hds
      exact ⟨rfl, rfl⟩
    | _ => exact absurd hmark (by simp [mark?])
  | .not d, d', _, _, _, _, _, _, .not h, h', rest, rest', htext => by
    have hmark := mark?_unique h.not h' htext
    cases h' with
    | not h' =>
      rw [text_not, text_not] at htext
      obtain ⟨rfl, hrest⟩ := h.unique h' (List.cons.inj (List.cons.inj htext).2).2
      exact ⟨rfl, (List.cons.inj hrest).2⟩
    | _ => exact absurd hmark (by simp [mark?])
  | .term p, .term q, _, _, _, _, _, _, h, h', rest, rest', htext => by
    obtain ⟨name, value, hp⟩ := h.exists_denotes
    obtain ⟨name', value', hq⟩ := h'.exists_denotes
    rw [text_term, text_term] at htext
    obtain ⟨rfl, rfl, -⟩ := hp.unique hq (List.cons.inj htext).2
    exact ⟨rfl, rfl⟩
  | .term p, .edgeTo name sign word d, _, _, _, _, _, _, h, h', rest, rest', htext => by
    obtain ⟨name, value, hp⟩ := h.exists_denotes
    rw [text_term, text_edgeTo] at htext
    cases h' with
    | edgeTo hq hequal hcomma hword hleast hd =>
      obtain ⟨hpq, -⟩ := hp.unique hq (List.cons.inj htext).2
      exact absurd hpq (term_ne_edgeTo h (.edgeTo hq hequal hcomma hword hleast hd))
  | .edgeTo name sign word d, .term p, _, _, _, _, _, _, h, h', rest, rest', htext => by
    obtain ⟨name, value, hp⟩ := h'.exists_denotes
    rw [text_term, text_edgeTo] at htext
    cases h with
    | edgeTo hq hequal hcomma hword hleast hd =>
      obtain ⟨hpq, -⟩ := hp.unique hq (List.cons.inj htext).2.symm
      exact absurd hpq (term_ne_edgeTo h' (.edgeTo hq hequal hcomma hword hleast hd))
  | .edgeTo name sign word d, .edgeTo name' sign' word' d', _, _, _, _, _, _,
      .edgeTo hp _ hcomma _ _ h, .edgeTo hq _ hcomma' _ _ h', rest, rest', htext => by
    rw [text_edgeTo, text_edgeTo] at htext
    -- the terms are the same, and the first comma divides their values in one way
    obtain ⟨hpq, rfl, -, hvalue⟩ := hp.unique hq (List.cons.inj htext).2
    obtain ⟨rfl, -, rfl, -⟩ := Spelling.mk.inj hpq
    obtain ⟨rfl, htarget⟩ := append_cons_inj hcomma hcomma' hvalue
    obtain ⟨rfl, -⟩ := h.unique h' (congrArg (· ++ []) htarget)
    exact ⟨rfl, rfl⟩
  | .term p, .wrapped d, _, _, _, _, _, _, h, h', rest, rest', htext
  | .term p, .all d ds, _, _, _, _, _, _, h, h', rest, rest', htext
  | .term p, .any d ds, _, _, _, _, _, _, h, h', rest, rest', htext
  | .term p, .not d, _, _, _, _, _, _, h, h', rest, rest', htext =>
    nomatch mark?_unique h h' htext
  | .edgeTo name sign word d, .wrapped d', _, _, _, _, _, _, h, h', rest, rest', htext
  | .edgeTo name sign word d, .all d' ds, _, _, _, _, _, _, h, h', rest, rest', htext
  | .edgeTo name sign word d, .any d' ds, _, _, _, _, _, _, h, h', rest, rest', htext
  | .edgeTo name sign word d, .not d', _, _, _, _, _, _, h, h', rest, rest', htext =>
    nomatch mark?_unique h h' htext

theorem YieldsAmong.unique : ∀ {ds ds' : List Derivation} {k k₁ k₂ k₃ : Knowledge}
    {ns ns' : List Node}, YieldsAmong ds k ns k₁ → YieldsAmong ds' k₂ ns' k₃ →
    ∀ {rest rest' : List Char},
    textAmong ds ++ ')' :: rest = textAmong ds' ++ ')' :: rest' → ds = ds' ∧ rest = rest'
  | [], [], _, _, _, _, _, _, _, _, _, _, htext => ⟨rfl, (List.cons.inj htext).2⟩
  | [], d :: ds, _, _, _, _, _, _, _, _, rest, rest', htext => by
    obtain ⟨l, hl⟩ := d.exists_text
    rw [textAmong, textAmong, hl] at htext
    exact absurd (List.cons.inj htext).1 (by decide)
  | d :: ds, [], _, _, _, _, _, _, _, _, rest, rest', htext => by
    obtain ⟨l, hl⟩ := d.exists_text
    rw [textAmong, textAmong, hl] at htext
    exact absurd (List.cons.inj htext).1 (by decide)
  | d :: ds, d' :: ds', _, _, _, _, _, _, .cons h hs, .cons h' hs', rest, rest', htext => by
    rw [textAmong, textAmong, List.append_assoc, List.append_assoc] at htext
    obtain ⟨rfl, hrest⟩ := h.unique h' htext
    obtain ⟨rfl, rfl⟩ := hs.unique hs' hrest
    exact ⟨rfl, rfl⟩

end

/-- A derivation has one condition, given what is known before it. -/
theorem Yields.functional {d : Derivation} {k k₁ k₂ : Knowledge} {n n' : Node}
    (h : d.Yields k n k₁) (h' : d.Yields k n' k₂) : n = n' ∧ k₁ = k₂ := by
  -- both conditions are what is read from the text
  have hn := query_of_yields h (3 * d.text.length) (Nat.le_refl _) 0 []
  have hn' := query_of_yields h' (3 * d.text.length) (Nat.le_refl _) 0 []
  obtain ⟨rfl, hstate⟩ := Prod.mk.inj (Except.ok.inj (hn.symm.trans hn'))
  obtain ⟨-, hregistry, hslot⟩ := State.mk.inj hstate
  refine ⟨rfl, ?_⟩
  cases k₁
  cases k₂
  exact congr (congrArg Knowledge.mk hregistry) hslot

/-- Whether a derivation gives a filter, with the attributes known before and after it. Limits are
numbered from zero. -/
def Gives (d : Derivation) (r : Registry) (f : Filter) (r' : Registry) : Prop :=
  ∃ n nextSlot, d.Yields ⟨r, 0⟩ n ⟨r', nextSlot⟩ ∧ f = ofNode n

theorem Gives.unique {d d' : Derivation} {r r₁ r₂ : Registry} {f f' : Filter}
    (h : d.Gives r f r₁) (h' : d'.Gives r f' r₂) {rest rest' : List Char}
    (htext : d.text ++ rest = d'.text ++ rest') :
    d = d' ∧ rest = rest' ∧ f = f' ∧ r₁ = r₂ := by
  obtain ⟨n, slot, hn, rfl⟩ := h
  obtain ⟨n', slot', hn', rfl⟩ := h'
  obtain ⟨rfl, rfl⟩ := hn.unique hn' htext
  obtain ⟨rfl, hknown⟩ := hn.functional hn'
  obtain ⟨rfl, rfl⟩ := Knowledge.mk.inj hknown
  exact ⟨rfl, rfl, rfl, rfl⟩

end Derivation

/-! ## Whole texts -/

section Decidable

variable {α : Type} {p : α → Registry → Prop} [∀ a r, Decidable (p a r)]

instance decidableExistsReading : ∀ x : Reading α, Decidable (∃ a r, x = ⟨.ok a, r⟩ ∧ p a r)
  | ⟨.ok a, r⟩ => decidable_of_iff (p a r)
    ⟨fun h => ⟨a, r, rfl, h⟩, fun ⟨_, _, heq, h⟩ => by cases heq; exact h⟩
  | ⟨.error _, _⟩ => .isFalse fun ⟨_, _, heq, _⟩ => nomatch heq

instance decidableForallReading : ∀ x : Reading α, Decidable (∀ a r, x = ⟨.ok a, r⟩ → p a r)
  | ⟨.ok a, r⟩ => decidable_of_iff (p a r)
    ⟨fun h _ _ heq => by cases heq; exact h, fun h => h a r rfl⟩
  | ⟨.error _, _⟩ => .isTrue fun _ _ heq => nomatch heq

end Decidable

theorem readStart_eq_ok {r r' : Registry} {text : String} {f : Filter} {rest : List Char} :
    readStart r text = ⟨.ok (f, rest), r'⟩ ↔
      leastBytes ≤ byteLength text.toList ∧ text.toList.head? = some '(' ∧
        text.toList.getLast? = some ')' ∧
          ∃ d : Derivation, text.toList = d.text ++ rest ∧ d.Gives r f r' := by
  constructor
  · intro h
    rw [readStart] at h
    split at h
    · exact nomatch h
    · rename_i hlong
      split at h
      · exact nomatch h
      · rename_i hfirst
        split at h
        · exact nomatch h
        · rename_i hlast
          refine ⟨Nat.not_lt.mp hlong, Decidable.not_not.mp hfirst, Decidable.not_not.mp hlast, ?_⟩
          split at h
          · rename_i n s hn
            obtain ⟨hf, rfl⟩ := Reading.mk.inj h
            obtain ⟨rfl, rfl⟩ := Prod.mk.inj (Except.ok.inj hf)
            obtain ⟨d, hd, hyields⟩ := yields_of_query hn
            exact ⟨d, hd, n, s.nextSlot, hyields, rfl⟩
          · exact nomatch h
  · rintro ⟨hlong, hfirst, hlast, d, htext, n, slot, hn, rfl⟩
    have hfuel : 3 * d.text.length ≤ 3 * text.toList.length := by
      rw [htext, List.length_append]
      omega
    have hquery : query (3 * text.toList.length) ⟨⟨text.toList, 0⟩, r, 0⟩ =
        .ok (n, ⟨⟨rest, 0 + byteLength d.text⟩, r', slot⟩) := by
      have h := query_of_yields hn _ hfuel 0 rest
      rwa [← htext] at h
    rw [readStart]
    rw [if_neg (Nat.not_lt.mpr hlong), if_neg (not_not_intro hfirst),
      if_neg (not_not_intro hlast), hquery]

theorem read_eq_ok {r r' : Registry} {text : String} {f : Filter} :
    read r text = ⟨.ok f, r'⟩ ↔ readStart r text = ⟨.ok (f, []), r'⟩ := by
  rw [read]
  obtain ⟨outcome, r''⟩ := readStart r text
  rcases outcome with e | ⟨f', _ | ⟨c, rest⟩⟩
  · exact ⟨fun h => (nomatch h), fun h => (nomatch h)⟩
  · constructor
    · intro h
      obtain ⟨hf, rfl⟩ := Reading.mk.inj h
      obtain rfl := Except.ok.inj hf
      rfl
    · intro h
      obtain ⟨hf, rfl⟩ := Reading.mk.inj h
      obtain ⟨rfl, -⟩ := Prod.mk.inj (Except.ok.inj hf)
      rfl
  · exact ⟨fun h => (nomatch h), fun h => (nomatch h)⟩

/-- **The grammar.** A text is read as a filter exactly if it is long enough, begins and ends with
a parenthesis, and begins with a derivation that gives the filter, whatever properties regular
expressions can name. The derivation is unique, so the filter does not depend on what follows. -/
theorem readStart_iff_derivation (r : Registry) :
    (∀ text f rest r', readStart r text = ⟨.ok (f, rest), r'⟩ ↔
      leastBytes ≤ byteLength text.toList ∧ text.toList.head? = some '(' ∧
        text.toList.getLast? = some ')' ∧
          ∃ d : Derivation, text.toList = d.text ++ rest ∧ d.Gives r f r') ∧
      ∀ (d d' : Derivation) f f' r₁ r₂ rest rest', d.Gives r f r₁ → d'.Gives r f' r₂ →
        d.text ++ rest = d'.text ++ rest' → d = d' ∧ rest = rest' ∧ f = f' ∧ r₁ = r₂ :=
  ⟨fun _ _ _ _ => readStart_eq_ok, fun _ _ _ _ _ _ _ _ h h' => h.unique h'⟩

end Reading

/-- Texts after which a parenthesis is left over: a plain term, and one with a regular expression
whose characters are those of a property. -/
theorem readStart_iff_derivation_followed :
    ∀ t ∈ ["(a=b)", "(a:caseExactMatch:=/\\\\p\x7bASCII\x7d+/)"],
      ∃ (d : Derivation) (f : Filter) (r : Registry), d.text = t.toList ∧ d.Gives .empty f r ∧
        readStart .empty (t ++ ")") = ⟨.ok (f, [')']), r⟩ ∧
          ∀ (d' : Derivation) f' r', d'.Gives .empty f' r' → d'.text = d.text → f' = f := by
  intro t ht
  have hread : ∃ a r, readStart .empty (t ++ ")") = ⟨.ok a, r⟩ ∧ a.2 = [')'] := by
    revert t
    decide +kernel
  obtain ⟨⟨f, rest⟩, r, hread, rfl⟩ := hread
  obtain ⟨-, -, -, d, htext, hgives⟩ := ((readStart_iff_derivation .empty).1 _ _ _ _).mp hread
  rw [String.toList_append] at htext
  have hd : d.text = t.toList := List.append_cancel_right htext.symm
  refine ⟨d, f, r, hd, hgives, hread, fun d' f' r' hgives' hsame => ?_⟩
  obtain ⟨-, -, hf, -⟩ := (readStart_iff_derivation .empty).2 d' d f' f r' r [] [] hgives' hgives
    (congrArg (· ++ []) hsame)
  exact hf

end Directory.Filter
