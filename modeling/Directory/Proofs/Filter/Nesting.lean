import Directory.Proofs.Filter.Canonical

/-!
# Filters as conditions at the end of an edge

The value of an edge term is kept as it is written, and ends where its parentheses pair up. A
filter by itself may have parentheses that do not: names and values may hold an opening one without
a backslash. So not every filter can be the condition of an edge.

- `Filter.bare`: the characters of a text that stand under no backslash.
- `Filter.LeavesOpen`: the number of parentheses that a text leaves open, wherever it stands.
- `Filter.Derivation.Yields.leavesOpen`: a filter leaves open those in its names and values.
- `Filter.Layer`: a way to make a filter the condition of an edge.
- `Filter.read_nested`: which filters can be nested, and what comes of it.
-/

namespace Directory.Filter

/-! ## Open parentheses -/

/-- The characters that stand under no backslash and are none. -/
def bare : List Char → List Char
  | [] => []
  | ['\\'] => []
  | '\\' :: _ :: l => bare l
  | c :: l => c :: bare l

theorem bare_cons {c : Char} (h : c ≠ '\\') (l : List Char) : bare (c :: l) = c :: bare l := by
  rw [bare]
  · rintro rfl
    exact absurd rfl h
  · rintro d m rfl
    exact absurd rfl h

namespace DepthAfter

variable {depth depth' depth'' : Nat} {l m : List Char}

/-- The depth changes by the number of opening parentheses less that of closing ones. -/
theorem count (h : DepthAfter depth l depth') :
    depth + (bare l).count '(' = depth' + (bare l).count ')' := by
  induction h with
  | nil => rfl
  | escape _ ih => exact ih
  | @plain depth depth' c l hc _ ih =>
    simp only [List.mem_cons, List.not_mem_nil, or_false, not_or] at hc
    rw [bare_cons hc.1, List.count_cons_of_ne hc.2.1, List.count_cons_of_ne hc.2.2]
    exact ih
  | opens _ ih =>
    rw [bare_cons (by decide), List.count_cons_self, List.count_cons_of_ne (by decide)]
    omega
  | closes _ ih =>
    rw [bare_cons (by decide), List.count_cons_self, List.count_cons_of_ne (by decide)]
    omega

/-- Parentheses that leave none open pair up. -/
theorem pairedAfter (h : DepthAfter depth l 0) : PairedAfter depth l := by
  generalize hzero : 0 = depth' at h
  induction h with
  | nil =>
    subst hzero
    exact Paired.nil
  | escape _ ih => exact (ih hzero).escape
  | plain hc _ ih => exact (ih hzero).plain hc
  | opens _ ih => exact (ih hzero).open
  | closes _ ih => exact (ih hzero).close

end DepthAfter

/-- Whether a text has neither parentheses nor backslashes. -/
def Flat (l : List Char) : Prop :=
  ∀ c ∈ l, c ∉ ['\\', '(', ')']

instance (l : List Char) : Decidable (Flat l) :=
  List.decidableBAll (fun c => c ∉ ['\\', '(', ')']) l

theorem Flat.count_eq_zero {l : List Char} (h : Flat l) : (bare l).count '(' = 0 := by
  induction l with
  | nil => rfl
  | cons c l ih =>
    obtain ⟨hc, hl⟩ := List.forall_mem_cons.mp h
    simp only [List.mem_cons, List.not_mem_nil, or_false, not_or] at hc
    rw [bare_cons hc.1, List.count_cons_of_ne hc.2.1]
    exact ih hl

/-- Whether a text leaves a number of parentheses open, wherever it stands. -/
def LeavesOpen (n : Nat) (l : List Char) : Prop :=
  ∀ depth, DepthAfter depth l (depth + n)

namespace LeavesOpen

variable {n n' : Nat} {l m : List Char}

theorem append (h : LeavesOpen n l) (h' : LeavesOpen n' m) : LeavesOpen (n + n') (l ++ m) := by
  intro depth
  rw [← Nat.add_assoc]
  exact (h depth).append (h' (depth + n))

theorem between (h : LeavesOpen n l) : LeavesOpen n ('(' :: l ++ [')']) := by
  intro depth
  refine .opens ((h (depth + 1)).append ?_)
  rw [Nat.add_right_comm]
  exact .closes .nil

theorem of_flat (h : Flat l) : LeavesOpen 0 l := by
  intro depth
  induction l with
  | nil => exact .nil
  | cons c l ih =>
    obtain ⟨hc, hl⟩ := List.forall_mem_cons.mp h
    exact (ih hl).plain hc

/-- A text without parentheses before another changes nothing. -/
theorem after (h : LeavesOpen n m) (hl : Flat l) : LeavesOpen n (l ++ m) := by
  have hlm := (of_flat hl).append h
  rwa [Nat.zero_add] at hlm

/-- A name or a value in which backslashes are resolved leaves open what it opens. -/
theorem of_resolves {stops : List Char} (hstops : ')' ∈ stops) (h : Resolves stops l m) :
    LeavesOpen ((bare l).count '(') l := by
  intro depth
  induction h generalizing depth with
  | nil => exact .nil
  | escape _ ih => exact (ih depth).escape
  | @plain c raw l hc hstop _ ih =>
    have hclose : c ≠ ')' := by
      rintro rfl
      exact hstop hstops
    rw [bare_cons hc]
    by_cases hopen : c = '('
    · subst hopen
      rw [List.count_cons_self, Nat.add_comm _ 1, ← Nat.add_assoc]
      exact (ih (depth + 1)).opens
    · rw [List.count_cons_of_ne hopen]
      exact (ih depth).plain (by simp [hc, hopen, hclose])

theorem paired (h : LeavesOpen 0 l) : Paired l :=
  DepthAfter.pairedAfter (h 0)

/-- As many parentheses are opened as are closed exactly if none is left open. -/
theorem balanced_iff (h : LeavesOpen n l) : (bare l).count '(' = (bare l).count ')' ↔ n = 0 := by
  have hcount := (h 0).count
  omega

end LeavesOpen

/-! ## Parentheses in filters -/

/-- The number of parentheses that names and values open. -/
def opened : List (List Char) → Nat
  | [] => 0
  | l :: written => (bare l).count '(' + opened written

theorem opened_append (written written' : List (List Char)) :
    opened (written ++ written') = opened written + opened written' := by
  induction written with
  | nil => exact (Nat.zero_add _).symm
  | cons l written ih => rw [List.cons_append, opened, opened, ih, Nat.add_assoc]

theorem opened_eq_zero_iff (written : List (List Char)) :
    opened written = 0 ↔ ∀ l ∈ written, '(' ∉ bare l := by
  induction written with
  | nil => simp [opened]
  | cons l written ih =>
    rw [opened, Nat.add_eq_zero_iff, ih, List.count_eq_zero, List.forall_mem_cons]

/-- The names of methods consist of letters, so a text that differs from one in letter case only has
no other characters either. -/
theorem flat_of_ofName? {word : List Char} {m : AttackMethod}
    (h : AttackMethod.ofName? word = some m) : Flat word ∧ ',' ∉ word := by
  have hsame : m.name.toList.map Char.toLower = word.map Char.toLower := by
    have hfound := List.find?_some h
    exact beq_iff_eq.mp hfound
  obtain ⟨hflat, hcomma⟩ : Flat (word.map Char.toLower) ∧ ',' ∉ word.map Char.toLower := by
    rw [← hsame]
    cases m <;> exact ⟨by decide +kernel, by decide +kernel⟩
  constructor
  · intro c hc hmem
    refine hflat c.toLower (List.mem_map_of_mem hc) ?_
    simp only [List.mem_cons, List.not_mem_nil, or_false] at hmem
    rcases hmem with rfl | rfl | rfl <;> decide
  · intro hmem
    exact hcomma (List.mem_map_of_mem hmem)

theorem flat_of_wordMeans {word : List Char} {m : Option AttackMethod} (h : WordMeans word m) :
    Flat word ∧ ',' ∉ word := by
  cases h with
  | empty => exact ⟨by decide, by decide⟩
  | star => exact ⟨by decide, by decide⟩
  | method hm => exact flat_of_ofName? hm

/-- A modifier that means something has no parentheses. -/
theorem flat_modifier [Regex.Properties] {a : Attribute} {modifier : Option (List Char)}
    {c : Comparator} {value : List Char} {n : Node}
    (h : TermMeans a (modifier.map String.ofList) c value n) : Flat (modifierText modifier) := by
  have hword : ∀ {w : String}, modifier.map String.ofList = some w →
      Flat (':' :: w.toList ++ [':']) → Flat (modifierText modifier) := by
    intro w hw hflat
    obtain ⟨m, rfl, rfl⟩ := Option.map_eq_some_iff.mp hw
    rwa [String.toList_ofList] at hflat
  have hcase : ∀ {caseSensitive : Bool}, modifier.map String.ofList = caseWord caseSensitive →
      Flat (modifierText modifier) := by
    intro caseSensitive hm
    cases caseSensitive with
    | false =>
      rw [Option.map_eq_none_iff.mp hm]
      decide
    | true => exact hword hm (by decide)
  cases h with
  | equal _ hm => exact hcase hm
  | compare _ hm => exact hcase hm
  | count hm => exact hword hm (by decide)
  | length hm | allBits hm | anyBit hm | chain hm =>
    simp only [List.mem_cons, List.not_mem_nil, or_false] at hm
    rcases hm with hm | hm
    · exact hword hm (by decide)
    · exact hword hm (by decide)

theorem flat_sign (s : Sign) : Flat s.text := by
  cases s <;> decide

namespace Derivation

mutual

/-- The names and values in a derivation, as they are written. Of an edge term with a condition,
those are its name, the word for the method, and those in the condition. -/
def written : Derivation → List (List Char)
  | wrapped d => d.written
  | all d ds => d.written ++ writtenAmong ds
  | any d ds => d.written ++ writtenAmong ds
  | not d => d.written
  | term p => [p.name, p.value]
  | edgeTo name _ word d => name :: word :: d.written

/-- The names and values in several derivations. -/
def writtenAmong : List Derivation → List (List Char)
  | [] => []
  | d :: ds => d.written ++ writtenAmong ds

end

/-- A term leaves open what its name and its value do. -/
theorem leavesOpen_term {p : Spelling} {name : List Char} (hname : Resolves nameStops p.name name)
    (hmodifier : Flat (modifierText p.modifier)) {n : Nat} (hvalue : LeavesOpen n p.value) :
    LeavesOpen ((bare p.name).count '(' + n) (term p).text := by
  have hrest := (hvalue.after (flat_sign p.sign)).after hmodifier
  exact ((LeavesOpen.of_resolves (by decide) hname).append hrest).between

theorem leavesOpen_of_denotes {p : Spelling} {name value : List Char} (hp : p.Denotes name value)
    (hholds : Term.holdsCondition name = false) (hmodifier : Flat (modifierText p.modifier)) :
    LeavesOpen (opened [p.name, p.value]) (term p).text := by
  have hvalue := hp.value
  rw [if_neg (Bool.eq_false_iff.mp hholds)] at hvalue
  exact leavesOpen_term hp.named hmodifier (.of_resolves (by decide) hvalue)

section Yields

variable [Regex.Properties]

mutual

/-- A filter leaves open the parentheses in its names and values that no backslash takes. -/
theorem Yields.leavesOpen : ∀ {d : Derivation} {k k' : Knowledge} {n : Node}, d.Yields k n k' →
    LeavesOpen (opened d.written) d.text
  | .wrapped d, _, _, _, .wrapped h => h.leavesOpen.between
  | .all d ds, _, _, _, .all h => (h.leavesOpen.after (l := ['&']) (by decide)).between
  | .any d ds, _, _, _, .any h => (h.leavesOpen.after (l := ['|']) (by decide)).between
  | .not d, _, _, _, .not h => (h.leavesOpen.after (l := ['!']) (by decide)).between
  | .term _, _, _, _, .ordinary hp hname hn =>
    leavesOpen_of_denotes hp (Term.holdsCondition_of_head hname) (flat_modifier hn)
  | .term _, _, _, _, .limit hp hmodifier _ _ =>
    leavesOpen_of_denotes hp rfl (by rw [hmodifier]; decide)
  | .term _, _, _, _, .random hp hmodifier _ =>
    leavesOpen_of_denotes hp rfl (by rw [hmodifier]; decide)
  | .term p, _, _, _, .edge hp hmodifier _ _ hword => by
    have hflat : Flat p.value := hp.verbatim.2 ▸ (flat_of_wordMeans hword).1
    have hopen := leavesOpen_term hp.named (by rw [hmodifier]; decide) (.of_flat hflat)
    rw [written, opened, opened, opened, hflat.count_eq_zero]
    exact hopen
  | .edgeTo name sign word d, _, _, _, .edgeTo hp _ _ hword _ h => by
    obtain ⟨hflat, -⟩ := flat_of_wordMeans hword
    -- the condition stands in the value as it is
    have hvalue : LeavesOpen (opened d.written) (word ++ ',' :: d.text) :=
      (h.leavesOpen.after (l := [',']) (by decide)).after hflat
    have hmodifier : Flat (modifierText none) := by decide
    have hopen := leavesOpen_term hp.named hmodifier hvalue
    rw [written, opened, opened, hflat.count_eq_zero, Nat.zero_add]
    exact hopen

theorem YieldsAmong.leavesOpen : ∀ {ds : List Derivation} {k k' : Knowledge} {ns : List Node},
    YieldsAmong ds k ns k' → LeavesOpen (opened (writtenAmong ds)) (textAmong ds)
  | [], _, _, _, .nil => .of_flat (by decide)
  | d :: ds, _, _, _, .cons h hs => by
    rw [writtenAmong, opened_append]
    exact h.leavesOpen.append hs.leavesOpen

end

end Yields

end Derivation

/-! ## Nesting -/

/-- A way to make a filter the condition at the end of an edge. -/
structure Layer where
  /-- The direction of the edge. -/
  direction : Direction
  /-- The word for the method. -/
  word : List Char
  /-- The method. -/
  method : Option AttackMethod
  /-- The word stands for the method. -/
  means : WordMeans word method

namespace Layer

/-- The text with an edge term around it. -/
def around (x : Layer) (l : List Char) : List Char :=
  '(' :: (directionWord x.direction).toList ++ '=' :: x.word ++ ',' :: l ++ [')']

/-- The condition with an edge before it. -/
def before (x : Layer) (n : Node) : Node :=
  .edgeTo x.direction x.method n

/-- The derivation with an edge term around it. -/
def derivation (x : Layer) (d : Derivation) : Derivation :=
  .edgeTo (directionWord x.direction).toList .equal x.word d

theorem text_derivation (x : Layer) (d : Derivation) :
    (x.derivation d).text = x.around d.text := by
  simp [derivation, Derivation.text, Spelling.text, around, modifierText, Sign.text]

theorem around_eq (x : Layer) (l : List Char) :
    x.around l =
      '(' :: ((directionWord x.direction).toList ++ '=' :: (x.word ++ ',' :: l ++ [')'])) := by
  simp [around]

theorem byteLength_around (x : Layer) (l : List Char) :
    byteLength (x.around l) =
      1 + byteLength (directionWord x.direction).toList + 1 + byteLength (x.word ++ ',' :: l) +
        1 := by
  have hopen : '('.utf8Size = 1 := rfl
  have hequal : '='.utf8Size = 1 := rfl
  have hclose : byteLength [')'] = 1 := rfl
  rw [around_eq, byteLength_cons, byteLength_append, byteLength_cons, byteLength_append, hopen,
    hequal, hclose]
  omega

theorem leastBytes_le_around (x : Layer) (l : List Char) :
    leastBytes ≤ byteLength (x.around l) := by
  have hword : 7 ≤ byteLength (directionWord x.direction).toList := by
    cases x.direction <;> decide
  rw [byteLength_around, leastBytes]
  omega

theorem leavesOpen_value (x : Layer) {n : Nat} {l : List Char} (h : LeavesOpen n l) :
    LeavesOpen n (x.word ++ ',' :: l) :=
  (h.after (l := [',']) (by decide)).after (flat_of_wordMeans x.means).1

theorem leavesOpen_around (x : Layer) {n : Nat} {l : List Char} (h : LeavesOpen n l) :
    LeavesOpen n (x.around l) := by
  have hfront : Flat ((directionWord x.direction).toList ++ ['=']) := by
    cases x.direction <;> decide
  have htext : x.around l = '(' :: ((directionWord x.direction).toList ++ ['='] ++
      (x.word ++ ',' :: l)) ++ [')'] := by
    simp [around_eq]
  rw [htext]
  exact ((x.leavesOpen_value h).after hfront).between

theorem yields_derivation [Regex.Properties] (x : Layer) {d : Derivation} {k k' : Knowledge}
    {n : Node} (hleast : leastBytes ≤ byteLength d.text) (hopen : LeavesOpen 0 d.text)
    (h : d.Yields k n k') : (x.derivation d).Yields k (x.before n) k' :=
  .edgeTo (Node.denotes_directionWord (x.leavesOpen_value hopen).paired) rfl
    (flat_of_wordMeans x.means).2 x.means hleast h

end Layer

/-- A value with an open parenthesis goes on beyond the end of the text. -/
theorem DepthAfter.valueOf_last {n : Nat} {l : List Char} (h : DepthAfter 0 l (n + 1))
    (offset : Nat) :
    Filter.valueOf true 0 offset (l ++ [')']) =
      .error ⟨.endsInValue, offset + byteLength l + 1⟩ := by
  rw [h.valueOf, valueOf_cons (by decide), if_neg (by simp), if_pos rfl, Nat.add_sub_cancel]
  rfl

theorem Term.read_of_open (e : Direction) {n : Nat} {l : List Char} (h : DepthAfter 0 l (n + 1))
    (offset : Nat) :
    Term.read ⟨(directionWord e).toList ++ '=' :: (l ++ [')']), offset⟩ =
      .error ⟨.endsInValue,
        offset + byteLength (directionWord e).toList + 1 + byteLength l + 1⟩ := by
  have hresolves : Resolves nameStops (directionWord e).toList (directionWord e).toList :=
    resolves_self (by cases e <;> decide)
  have hname := nameOf_of_resolves hresolves (c := '=') (by decide) offset (l ++ [')'])
  have hholds : Term.holdsCondition (directionWord e).toList = true := by cases e <;> rfl
  have hne : (directionWord e).toList.isEmpty = false := by cases e <;> rfl
  have hvalue := h.valueOf_last (offset + byteLength (directionWord e).toList + 1)
  have hread : Term.read ⟨(directionWord e).toList ++ '=' :: (l ++ [')']), offset⟩ =
      Filter.valueOf (Term.holdsCondition (directionWord e).toList) 0
          (offset + byteLength (directionWord e).toList + 1) (l ++ [')']) >>= fun p =>
        .ok (⟨(directionWord e).toList, offset, none, .equal, p.1,
          offset + byteLength (directionWord e).toList + 1⟩, p.2) := by
    rw [Term.read, hname]
    dsimp only [bind, Except.bind, modifierOf]
    rw [hne]
    rfl
  rw [hread, hholds, hvalue]
  rfl

namespace Layer

variable [Regex.Properties]

/-- An edge term around a text that leaves parentheses open does not end. -/
theorem query_around (x : Layer) {n : Nat} {l : List Char} (h : LeavesOpen (n + 1) l)
    (r : Registry) (fuel : Nat) :
    query (fuel + 2) ⟨⟨x.around l, 0⟩, r, 0⟩ =
      .error ⟨⟨.endsInValue, byteLength (x.around l)⟩, r⟩ := by
  obtain ⟨w, hw⟩ : ∃ w, (directionWord x.direction).toList = '_' :: w := by
    cases x.direction <;> exact ⟨_, rfl⟩
  have hterm := Term.read_of_open x.direction ((x.leavesOpen_value h) 0) 1
  rw [← x.byteLength_around l] at hterm
  -- the name does not begin like a group, so the term is read at once
  have hstep := Knowledge.query_term ⟨r, 0⟩ (w ++ '=' :: (x.word ++ ',' :: l ++ [')'])) 0
    (fuel + 1) (c := '_') (by decide)
  rw [← List.cons_append, ← hw, ← around_eq] at hstep
  refine hstep.trans ?_
  rw [term, Knowledge.state, hterm]
  rfl

theorem read_around (x : Layer) {n : Nat} {l : List Char} (h : LeavesOpen (n + 1) l)
    (r : Registry) :
    read r (String.ofList (x.around l)) =
      ⟨.error ⟨.endsInValue, byteLength (x.around l)⟩, r⟩ := by
  have hfirst : (x.around l).head? = some '(' := rfl
  have hlast : (x.around l).getLast? = some ')' := List.getLast?_concat
  have hfuel : 3 * (x.around l).length = (3 * (x.around l).length - 2) + 2 := by
    rw [around_eq, List.length_cons]
    omega
  have hstart : readStart r (String.ofList (x.around l)) =
      ⟨.error ⟨.endsInValue, byteLength (x.around l)⟩, r⟩ := by
    rw [readStart, String.toList_ofList, if_neg (Nat.not_lt.mpr (x.leastBytes_le_around l)),
      if_neg (not_not_intro hfirst), if_neg (not_not_intro hlast), hfuel, x.query_around h]
  rw [read, hstart]

end Layer

/-- The text with edge terms around it, the first of which stands outermost. -/
def nested (layers : List Layer) (text : String) : String :=
  String.ofList (layers.foldr Layer.around text.toList)

/-- The condition with edges before it. -/
def nestedNode (layers : List Layer) (n : Node) : Node :=
  layers.foldr Layer.before n

theorem leavesOpen_foldr (layers : List Layer) {n : Nat} {l : List Char} (h : LeavesOpen n l) :
    LeavesOpen n (layers.foldr Layer.around l) := by
  induction layers with
  | nil => exact h
  | cons x layers ih => exact x.leavesOpen_around ih

section Reading

variable [Regex.Properties]

/-- A filter that leaves no parenthesis open can be nested to any depth. -/
theorem exists_nested (layers : List Layer) {d : Derivation} {k k' : Knowledge} {n : Node}
    (hopen : LeavesOpen 0 d.text) (hleast : leastBytes ≤ byteLength d.text) (h : d.Yields k n k') :
    ∃ d' : Derivation, d'.text = layers.foldr Layer.around d.text ∧
      leastBytes ≤ byteLength d'.text ∧ d'.Yields k (nestedNode layers n) k' := by
  induction layers with
  | nil => exact ⟨d, rfl, hleast, h⟩
  | cons x layers ih =>
    obtain ⟨d', htext, hleast', hyields⟩ := ih
    have hopen' : LeavesOpen 0 d'.text := htext ▸ leavesOpen_foldr layers hopen
    refine ⟨x.derivation d', ?_, ?_, x.yields_derivation hleast' hopen' hyields⟩
    · rw [x.text_derivation, htext]
      rfl
    · rw [x.text_derivation]
      exact x.leastBytes_le_around d'.text

/-- **Nesting.** A filter can be the condition at the end of an edge, at any depth, exactly if its
text has as many opening as closing parentheses under no backslash, which is to say, if its names
and values open none. It is the same condition then, with the same slots. Otherwise the text of the
outermost edge term is incomplete. -/
theorem read_nested {r r' : Registry} {text : String} {f : Filter}
    (h : read r text = ⟨.ok f, r'⟩) {layers : List Layer} (hne : layers ≠ []) :
    let balanced := (bare text.toList).count '(' = (bare text.toList).count ')'
    ((∃ f' r'', read r (nested layers text) = ⟨.ok f', r''⟩) ↔ balanced) ∧
    (∃ d : Derivation, d.text = text.toList ∧ d.Gives r f r' ∧
      (balanced ↔ ∀ l ∈ d.written, '(' ∉ bare l)) ∧
    (balanced → read r (nested layers text) = ⟨.ok (ofNode (nestedNode layers f.root)), r'⟩) ∧
    (¬ balanced → ∃ e, read r (nested layers text) = ⟨.error e, r⟩ ∧
      e.fault.code = "DQ_QUERY_TRUNCATED" ∧ e.offset = byteLength (nested layers text).toList) := by
  intro balanced
  obtain ⟨x, layers, rfl⟩ := List.exists_cons_of_ne_nil hne
  obtain ⟨hleast, -, -, d, htext, hgives⟩ := readStart_eq_ok.mp (read_eq_ok.mp h)
  rw [List.append_nil] at htext
  obtain ⟨n, slot, hyields, rfl⟩ := hgives
  have hopen := hyields.leavesOpen
  rw [← htext] at hopen
  have hbalanced : balanced ↔ opened d.written = 0 := hopen.balanced_iff
  have haccepted : balanced → read r (nested (x :: layers) text) =
      ⟨.ok (ofNode (nestedNode (x :: layers) n)), r'⟩ := by
    intro hb
    rw [hbalanced.mp hb, htext] at hopen
    obtain ⟨d', htext', hleast', hyields'⟩ :=
      exists_nested (x :: layers) hopen (htext ▸ hleast) hyields
    rw [nested, htext, ← htext']
    refine read_of_yields hleast' ?_ hyields'
    rw [htext']
    exact List.getLast?_concat
  have hrejected : ¬ balanced → ∃ e, read r (nested (x :: layers) text) = ⟨.error e, r⟩ ∧
      e.fault.code = "DQ_QUERY_TRUNCATED" ∧
        e.offset = byteLength (nested (x :: layers) text).toList := by
    intro hb
    obtain ⟨m, hm⟩ := Nat.exists_eq_succ_of_ne_zero (mt hbalanced.mpr hb)
    rw [hm] at hopen
    have hread := x.read_around (leavesOpen_foldr layers hopen) r
    rw [nested, String.toList_ofList]
    exact ⟨_, hread, rfl, rfl⟩
  refine ⟨⟨fun ⟨f', r'', hok⟩ => ?_, fun hb => ⟨_, _, haccepted hb⟩⟩,
    ⟨d, htext.symm, ⟨n, slot, hyields, rfl⟩, hbalanced.trans (opened_eq_zero_iff _)⟩,
    haccepted, hrejected⟩
  by_cases hb : balanced
  · exact hb
  · obtain ⟨e, herror, -⟩ := hrejected hb
    rw [herror] at hok
    exact nomatch hok

end Reading

/-- A filter that is nested twice, and one that cannot be nested for a parenthesis in its value. -/
theorem read_nested_twice :
    (∃ f r, read .empty "(&(a=b)(_limit=2))" = ⟨.ok f, r⟩ ∧ f.limits = [2] ∧
      read .empty "(_canpwn=,(_pwnable=OWNS,(&(a=b)(_limit=2))))" =
        ⟨.ok (ofNode (.edgeTo .canPwn none (.edgeTo .pwnableBy (some .owns) f.root))), r⟩) ∧
    ∃ f r, read .empty "(a=b(c)" = ⟨.ok f, r⟩ ∧
      ∃ e, read .empty "(_canpwn=,(a=b(c))" = ⟨.error e, .empty⟩ ∧
        e.fault.code = "DQ_QUERY_TRUNCATED" := by
  let inner : Layer := ⟨.pwnableBy, "OWNS".toList, some .owns, .method (by decide)⟩
  let outer : Layer := ⟨.canPwn, [], none, .empty⟩
  constructor
  · have hread : ∃ f r, read .empty "(&(a=b)(_limit=2))" = ⟨.ok f, r⟩ ∧ f.limits = [2] := by
      decide +kernel
    obtain ⟨f, r, hread, hlimits⟩ := hread
    have htext : nested [outer, inner] "(&(a=b)(_limit=2))" =
        "(_canpwn=,(_pwnable=OWNS,(&(a=b)(_limit=2))))" := by decide
    have hnested := (read_nested hread (List.cons_ne_nil outer [inner])).2.2.1 (by decide)
    rw [htext] at hnested
    exact ⟨f, r, hread, hlimits, hnested⟩
  · have hread : ∃ f r, read .empty "(a=b(c)" = ⟨.ok f, r⟩ ∧ f.limits = [] := by decide +kernel
    obtain ⟨f, r, hread, -⟩ := hread
    have htext : nested [outer] "(a=b(c)" = "(_canpwn=,(a=b(c))" := by decide
    obtain ⟨e, hnested, hcode, -⟩ :=
      (read_nested hread (List.cons_ne_nil outer [])).2.2.2 (by decide)
    rw [htext] at hnested
    exact ⟨f, r, hread, e, hnested, hcode⟩

end Directory.Filter
