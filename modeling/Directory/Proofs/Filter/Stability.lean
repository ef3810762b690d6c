import Directory.Proofs.Filter.Canonical

/-!
# When canonical texts are stable

The canonical text of a filter that was read can be too short to be read again, as a whole or at
the end of an edge. Otherwise it is read back to a filter with the same canonical text. The filter
need not be the same one: a pattern of one star is written like the condition that there is a
value.

- `Filter.Node.settled`: the condition that a canonical text is read back to.
- `Filter.Node.Long`: the text of a condition is long enough, and so are those at the ends of edges.
- `Filter.canonical_stable`: which canonical texts are accepted, and that they are stable.
- `Filter.canonical_unstable`: the ways in which a canonical text fails to be stable.
-/

namespace Directory.Filter

namespace Node

/-! ## Texts of conditions -/

theorem text_all (r : Registry) (cs : List Node) (rest : List Char) :
    (all cs).text r ++ rest = '(' :: '&' :: (textAmong r cs ++ ')' :: rest) := by
  simp [text]

theorem text_any (r : Registry) (cs : List Node) (rest : List Char) :
    (any cs).text r ++ rest = '(' :: '|' :: (textAmong r cs ++ ')' :: rest) := by
  simp [text]

theorem text_not (r : Registry) (c : Node) (rest : List Char) :
    (not c).text r ++ rest = '(' :: '!' :: (c.text r ++ ')' :: rest) := by
  simp [text]

/-- The spelling of an edge term with a condition. -/
def edgeSpelling (r : Registry) (e : Direction) (m : Option AttackMethod) (t : Node) : Spelling :=
  ⟨(directionWord e).toList, none, .equal, methodWord m ++ ',' :: t.text r⟩

theorem denotes_edgeSpelling (r : Registry) (e : Direction) (m : Option AttackMethod) (t : Node) :
    (edgeSpelling r e m t).Denotes (directionWord e).toList (methodWord m ++ ',' :: t.text r) :=
  denotes_directionWord ((paired_methodWord m).append ((paired_text r t).plain (by decide)))

theorem exists_edgeSpelling (r : Registry) (e : Direction) (m : Option AttackMethod) (t : Node) :
    ∃ l, (edgeSpelling r e m t).text = '_' :: l := by
  cases e <;> exact ⟨_, rfl⟩

theorem text_edgeTo (r : Registry) (e : Direction) (m : Option AttackMethod) (t : Node)
    (rest : List Char) :
    (edgeTo e m t).text r ++ rest = '(' :: ((edgeSpelling r e m t).text ++ ')' :: rest) := by
  simp [text, termText, edgeSpelling, Spelling.text, modifierText, Sign.text]

/-! ## Settled conditions -/

mutual

/-- A condition in which no pattern is a star alone. -/
def settled : Node → Node
  | all cs => all (settledAmong cs)
  | any cs => any (settledAmong cs)
  | not c => not c.settled
  | glob a p caseSensitive => if p.source.toList = ['*'] then present a else glob a p caseSensitive
  | edgeTo e m t => edgeTo e m t.settled
  | n => n

/-- Several conditions in which no pattern is a star alone. -/
def settledAmong : List Node → List Node
  | [] => []
  | c :: cs => c.settled :: settledAmong cs

end

mutual

theorem nodes_settled : ∀ n : Node, n.settled.nodes = n.nodes.map settled
  | all cs => by
    show all (settledAmong cs) :: nodesAmong (settledAmong cs) = _ :: (nodesAmong cs).map settled
    rw [nodesAmong_settledAmong cs]
    rfl
  | any cs => by
    show any (settledAmong cs) :: nodesAmong (settledAmong cs) = _ :: (nodesAmong cs).map settled
    rw [nodesAmong_settledAmong cs]
    rfl
  | not c => by
    show not c.settled :: c.settled.nodes = _ :: c.nodes.map settled
    rw [nodes_settled c]
    rfl
  | edgeTo e m t => by
    show edgeTo e m t.settled :: t.settled.nodes = _ :: t.nodes.map settled
    rw [nodes_settled t]
    rfl
  | glob a p caseSensitive => by
    show (glob a p caseSensitive).settled.nodes = [(glob a p caseSensitive).settled]
    rw [settled]
    split <;> rfl
  | present .. | equals .. | equalsFolded .. | regex .. | compare .. | allBits .. | anyBit ..
  | count .. | length .. | chain .. | limit .. | random .. | edge .. => rfl

theorem nodesAmong_settledAmong :
    ∀ cs : List Node, nodesAmong (settledAmong cs) = (nodesAmong cs).map settled
  | [] => rfl
  | c :: cs => by
    rw [settledAmong, nodesAmong, nodesAmong, nodes_settled c, nodesAmong_settledAmong cs,
      List.map_append]

end

theorem attribute?_settled (n : Node) : n.settled.attribute? = n.attribute? := by
  cases n with
  | glob a p caseSensitive =>
    rw [settled]
    split <;> rfl
  | _ => rfl

theorem slot?_settled (n : Node) : n.settled.slot? = n.slot? := by
  cases n with
  | glob a p caseSensitive =>
    rw [settled]
    split <;> rfl
  | _ => rfl

theorem target?_settled (n : Node) : n.settled.target? = n.target?.map settled := by
  cases n with
  | glob a p caseSensitive =>
    rw [settled]
    split <;> rfl
  | _ => rfl

theorem slots_settled (n : Node) : n.settled.slots = n.slots := by
  have hslot : slot? ∘ settled = slot? := funext slot?_settled
  rw [slots, nodes_settled, List.filterMap_map, hslot]
  rfl

theorem not_isStar_settled (n : Node) : ¬ n.settled.IsStar := by
  cases n with
  | glob a p caseSensitive =>
    rw [settled]
    split
    · exact id
    · rename_i hstar
      exact hstar
  | _ => exact id

variable [Regex.Properties]

theorem shaped_settled {n : Node} (h : n.Shaped) : n.settled.Shaped := by
  cases n with
  | all cs | any cs =>
    cases cs with
    | nil => exact absurd rfl h
    | cons c cs => exact nofun
  | glob a p caseSensitive =>
    rw [settled]
    split
    · trivial
    · exact h
  | _ => exact h

/-- What is known of each condition that was read, where names and patterns do not run into the
rest of the syntax. -/
structure Settles (r : Registry) (n : Node) : Prop where
  /-- The attribute is known by a name. -/
  known : n.KnownIn r
  /-- Values are such as a text gives. -/
  shaped : n.Shaped
  /-- The name does not begin like a group. -/
  unmarked : ∀ a ∈ n.attribute?, ∀ c ∈ ['&', '|', '!'], (r.nameOf a).toList.head? ≠ some c
  /-- A pattern that is a star alone ignores letter case. -/
  ignoresCase : ∀ a p, n = glob a p true → ¬ n.IsStar

mutual

theorem text_settled {r : Registry} :
    ∀ {n : Node}, (∀ c ∈ n.nodes, c.Settles r) → n.settled.text r = n.text r
  | all cs, h => by
    rw [settled, text, text, textAmong_settledAmong fun c hc => h c (List.mem_cons_of_mem _ hc)]
  | any cs, h => by
    rw [settled, text, text, textAmong_settledAmong fun c hc => h c (List.mem_cons_of_mem _ hc)]
  | not c, h => by
    rw [settled, text, text, text_settled fun d hd => h d (List.mem_cons_of_mem _ hd)]
  | edgeTo e m t, h => by
    rw [settled, text, text, text_settled fun d hd => h d (List.mem_cons_of_mem _ hd)]
  | glob a p caseSensitive, h => by
    rw [settled]
    split
    · rename_i hstar
      cases caseSensitive with
      | true => exact absurd hstar ((h _ List.mem_cons_self).ignoresCase a p rfl)
      | false =>
        rw [text, text, hstar]
        rfl
    · rfl
  | present .., _ | equals .., _ | equalsFolded .., _ | regex .., _ | compare .., _ | allBits .., _
  | anyBit .., _ | count .., _ | length .., _ | chain .., _ | limit .., _ | random .., _
  | edge .., _ => rfl

theorem textAmong_settledAmong {r : Registry} :
    ∀ {cs : List Node}, (∀ c ∈ nodesAmong cs, c.Settles r) →
      textAmong r (settledAmong cs) = textAmong r cs
  | [], _ => rfl
  | c :: cs, h => by
    have hc : ∀ d ∈ c.nodes, d.Settles r := fun d hd => h d (List.mem_append_left _ hd)
    have hcs : ∀ d ∈ nodesAmong cs, d.Settles r := fun d hd => h d (List.mem_append_right _ hd)
    rw [settledAmong, textAmong, textAmong, text_settled hc, textAmong_settledAmong hcs]

end

/-! ## Long texts -/

/-- Whether the texts of the conditions at the ends of edges are long enough. -/
def TargetsLong (r : Registry) (n : Node) : Prop :=
  ∀ c ∈ n.nodes, ∀ t ∈ c.target?, leastBytes ≤ byteLength (t.text r)

/-- Whether the text of a condition is long enough, and those at the ends of edges are. -/
def Long (r : Registry) (n : Node) : Prop :=
  leastBytes ≤ byteLength (n.text r) ∧ n.TargetsLong r

theorem fit_settled {r : Registry} {n : Node} (h : ∀ c ∈ n.nodes, c.Settles r)
    (hlong : ∀ t ∈ n.target?, leastBytes ≤ byteLength (t.text r)) : n.settled.Fit r := by
  have hn := h n (mem_nodes_self n)
  refine ⟨fun a ha => ?_, fun a ha => ?_, shaped_settled hn.shaped, not_isStar_settled n, ?_⟩
  · rw [attribute?_settled] at ha
    exact (hn.known.recalls ha).1
  · rw [attribute?_settled] at ha
    obtain ⟨-, hne, hunderscore⟩ := hn.known.recalls ha
    obtain ⟨c, l, hl⟩ := List.exists_cons_of_ne_nil hne
    refine ⟨c, by rw [hl]; rfl, fun hc => ?_⟩
    rcases List.mem_cons.mp hc with rfl | hc
    · exact hunderscore (by rw [hl]; rfl)
    · exact hn.unmarked a ha c hc (by rw [hl]; rfl)
  · rw [target?_settled]
    intro t ht
    obtain ⟨t', ht', rfl⟩ := Option.map_eq_some_iff.mp ht
    rw [text_settled fun c hc => h c (nodes_of_target? ht' hc)]
    exact hlong t' ht'

/-- The derivation of a canonical text yields the settled condition. -/
theorem exists_yields_settled {n : Node} {k : Knowledge} (h : ∀ c ∈ n.nodes, c.Settles k.registry)
    (hlong : n.TargetsLong k.registry)
    (hslots : n.slots = List.range' k.nextSlot n.slots.length) :
    ∃ d : Derivation, d.text = n.text k.registry ∧
      d.Yields k n.settled ⟨k.registry, k.nextSlot + n.slots.length⟩ := by
  have hfit : ∀ c ∈ n.settled.nodes, c.Fit k.registry := by
    rw [nodes_settled]
    intro c hc
    obtain ⟨c', hc', rfl⟩ := List.mem_map.mp hc
    exact fit_settled (fun d hd => h d (mem_nodes_trans hd hc')) (hlong c' hc')
  rw [← text_settled h, ← slots_settled]
  rw [← slots_settled] at hslots
  exact exists_yields hfit hslots

/-! ## Short texts -/

mutual

/-- If the text of a condition is read at all, the conditions in it at the ends of edges are long
enough. -/
theorem targetsLong_of_yields {r : Registry} : ∀ {n n' : Node} {d : Derivation} {k k' : Knowledge},
    (∀ c ∈ n.nodes, c.Settles r) → (∃ i, n.slots = List.range' i n.slots.length) →
    d.Yields k n' k' → ∀ {rest rest' : List Char}, d.text ++ rest = n.text r ++ rest' →
    n.TargetsLong r
  | all cs, _, d, _, _, h, hslots, hd, rest, rest', htext => by
    rw [text_all] at htext
    have hmark := hd.mark?_of_text htext
    cases hd with
    | all hds =>
      rw [Derivation.text_all] at htext
      refine List.forall_mem_cons.mpr ⟨nofun, ?_⟩
      exact targetsLong_of_yieldsAmong (fun c hc => h c (List.mem_cons_of_mem _ hc)) hslots hds
        (List.cons.inj (List.cons.inj htext).2).2
    | _ => exact absurd hmark (by simp [Derivation.mark?])
  | any cs, _, d, _, _, h, hslots, hd, rest, rest', htext => by
    rw [text_any] at htext
    have hmark := hd.mark?_of_text htext
    cases hd with
    | any hds =>
      rw [Derivation.text_any] at htext
      refine List.forall_mem_cons.mpr ⟨nofun, ?_⟩
      exact targetsLong_of_yieldsAmong (fun c hc => h c (List.mem_cons_of_mem _ hc)) hslots hds
        (List.cons.inj (List.cons.inj htext).2).2
    | _ => exact absurd hmark (by simp [Derivation.mark?])
  | not c, _, d, _, _, h, hslots, hd, rest, rest', htext => by
    rw [text_not] at htext
    have hmark := hd.mark?_of_text htext
    cases hd with
    | not hd =>
      rw [Derivation.text_not] at htext
      refine List.forall_mem_cons.mpr ⟨nofun, ?_⟩
      exact targetsLong_of_yields (fun c hc => h c (List.mem_cons_of_mem _ hc)) hslots hd
        (List.cons.inj (List.cons.inj htext).2).2
    | _ => exact absurd hmark (by simp [Derivation.mark?])
  | edgeTo e m t, _, .term q, _, _, h, hslots, hd, rest, rest', htext => by
    obtain ⟨name, value, hq⟩ := hd.exists_denotes
    rw [text_edgeTo, Derivation.text_term] at htext
    obtain ⟨rfl, -⟩ := hq.unique (denotes_edgeSpelling r e m t) (List.cons.inj htext).2
    -- a condition follows the comma, so this is no word for a method alone
    have hcomma := hd.comma_not_mem (denotes_edgeSpelling r e m t)
    exact absurd (List.mem_append_right _ List.mem_cons_self) hcomma
  | edgeTo e m t, _, .edgeTo name sign word d, _, _, h, hslots,
      .edgeTo hq _ hcomma _ hleast hd, rest, rest', htext => by
    rw [text_edgeTo, Derivation.text_edgeTo] at htext
    obtain ⟨-, -, -, hvalue⟩ := hq.unique (denotes_edgeSpelling r e m t) (List.cons.inj htext).2
    obtain ⟨-, htarget⟩ := append_cons_inj hcomma (comma_not_mem_methodWord m) hvalue
    -- the condition was read as a text of its own, which has to be long enough
    refine List.forall_mem_cons.mpr ⟨fun u hu => ?_, ?_⟩
    · obtain rfl : t = u := Option.some.inj hu
      exact htarget ▸ hleast
    · exact targetsLong_of_yields (fun c hc => h c (List.mem_cons_of_mem _ hc)) hslots hd
        (congrArg (· ++ []) htarget)
  | edgeTo e m t, _, .wrapped d, _, _, h, hslots, hd, rest, rest', htext
  | edgeTo e m t, _, .all d ds, _, _, h, hslots, hd, rest, rest', htext
  | edgeTo e m t, _, .any d ds, _, _, h, hslots, hd, rest, rest', htext
  | edgeTo e m t, _, .not d, _, _, h, hslots, hd, rest, rest', htext => by
    obtain ⟨l, hl⟩ := exists_edgeSpelling r e m t
    rw [text_edgeTo, hl] at htext
    exact nomatch hd.mark?_of_text htext
  | present .., _, _, _, _, _, _, _, _, _, _ | equals .., _, _, _, _, _, _, _, _, _, _
  | equalsFolded .., _, _, _, _, _, _, _, _, _, _ | glob .., _, _, _, _, _, _, _, _, _, _
  | regex .., _, _, _, _, _, _, _, _, _, _ | compare .., _, _, _, _, _, _, _, _, _, _
  | allBits .., _, _, _, _, _, _, _, _, _, _ | anyBit .., _, _, _, _, _, _, _, _, _, _
  | count .., _, _, _, _, _, _, _, _, _, _ | length .., _, _, _, _, _, _, _, _, _, _
  | chain .., _, _, _, _, _, _, _, _, _, _ | limit .., _, _, _, _, _, _, _, _, _, _
  | random .., _, _, _, _, _, _, _, _, _, _ | edge .., _, _, _, _, _, _, _, _, _, _ =>
    List.forall_mem_cons.mpr ⟨nofun, nofun⟩

theorem targetsLong_of_yieldsAmong {r : Registry} : ∀ {cs ns : List Node} {ds : List Derivation}
    {k k' : Knowledge}, (∀ c ∈ nodesAmong cs, c.Settles r) →
    (∃ i, slotsAmong cs = List.range' i (slotsAmong cs).length) →
    Derivation.YieldsAmong ds k ns k' → ∀ {rest rest' : List Char},
    Derivation.textAmong ds ++ ')' :: rest = textAmong r cs ++ ')' :: rest' →
    ∀ c ∈ nodesAmong cs, ∀ t ∈ c.target?, leastBytes ≤ byteLength (t.text r)
  | [], _, _, _, _, _, _, _, _, _, _ => nofun
  | c :: cs, _, [], _, _, h, hslots, hds, rest, rest', htext => by
    obtain ⟨l, hl⟩ := List.head?_eq_some_iff.mp (c.text_ends r).1
    rw [textAmong, hl] at htext
    exact absurd (List.cons.inj htext).1 (by decide)
  | c :: cs, _, d :: ds, _, _, h, ⟨i, hslots⟩, .cons hd hds, rest, rest', htext => by
    have hc : ∀ d ∈ c.nodes, d.Settles r := fun d hd => h d (List.mem_append_left _ hd)
    have hcs : ∀ d ∈ nodesAmong cs, d.Settles r := fun d hd => h d (List.mem_append_right _ hd)
    rw [slotsAmong_cons, List.length_append, ← List.range'_append_1] at hslots
    obtain ⟨hfirst, hrest⟩ := List.append_inj hslots (by rw [List.length_range'])
    rw [Derivation.textAmong, textAmong, List.append_assoc, List.append_assoc] at htext
    have hlong := targetsLong_of_yields hc ⟨i, hfirst⟩ hd htext
    -- the first member is long enough, so the texts go on after it at the same place
    obtain ⟨d', hd', hyields⟩ := exists_yields_settled (k := ⟨r, i⟩) hc hlong hfirst
    rw [← hd'] at htext
    obtain ⟨-, htext⟩ := hd.unique hyields htext
    exact List.forall_mem_append.mpr
      ⟨hlong, targetsLong_of_yieldsAmong hcs ⟨_, hrest⟩ hds htext⟩

end

end Node

/-! ## Stability -/

open Node

section Reading

variable [Regex.Properties]

/-- What was read settles in the registry after it, where names and patterns do not run into the
rest of the syntax. -/
theorem settles_of_outcome {k k' : Knowledge} {ns : List Node} (h : Outcome k ns k')
    (hnames : ∀ n ∈ ns, ∀ a ∈ n.attribute?, ∀ c ∈ ['&', '|', '!'],
      (k'.registry.nameOf a).toList.head? ≠ some c)
    (hstars : ∀ n ∈ ns, ∀ a p, n = glob a p true → p.source ≠ "*") :
    ∀ n ∈ ns, n.Settles k'.registry := by
  refine fun n hn => ⟨h.known n hn, h.shaped n hn, hnames n hn, fun a p hglob hstar => ?_⟩
  subst hglob
  refine hstars _ hn a p rfl (String.toList_inj.mp ?_)
  exact hstar

/-- **Stability.** Take the canonical text of a filter that was read, in which no name begins like
a group and no pattern that minds letter case is a star alone. If it is long enough, and so are
the conditions in it at the ends of edges, then it is read to a filter with the same canonical
text, and nothing new becomes known. Otherwise it is rejected. -/
theorem canonical_stable {r r' : Registry} {text : String} {f : Filter}
    (h : read r text = ⟨.ok f, r'⟩)
    (hnames : ∀ n ∈ f.root.nodes, ∀ a ∈ n.attribute?, ∀ c ∈ ['&', '|', '!'],
      (r'.nameOf a).toList.head? ≠ some c)
    (hstars : ∀ n ∈ f.root.nodes, ∀ a p, n = glob a p true → p.source ≠ "*") :
    (f.root.Long r' →
        ∃ g, read r' (render r' f) = ⟨.ok g, r'⟩ ∧ render r' g = render r' f) ∧
      (¬ f.root.Long r' → ∀ g r'', read r' (render r' f) ≠ ⟨.ok g, r''⟩) := by
  obtain ⟨-, -, -, d, -, n, slot, hyields, rfl⟩ := readStart_eq_ok.mp (read_eq_ok.mp h)
  have hsettles : ∀ c ∈ n.nodes, c.Settles r' := settles_of_outcome hyields.outcome hnames hstars
  have hslots : n.slots = List.range' 0 n.slots.length := hyields.outcome.slots
  constructor
  · rintro ⟨hlong, htargets⟩
    obtain ⟨d', hd', hyields'⟩ :=
      exists_yields_settled (k := ⟨r', 0⟩) hsettles htargets hslots
    have hread := read_of_yields (by rw [hd']; exact hlong) (by rw [hd']; exact (n.text_ends r').2)
      hyields'
    rw [hd'] at hread
    refine ⟨_, hread, ?_⟩
    show String.ofList (n.settled.text r') = String.ofList (n.text r')
    rw [text_settled hsettles]
  · intro hshort g r'' hread
    obtain ⟨hlong, -, -, d', htext, n', slot', hyields', -⟩ :=
      readStart_eq_ok.mp (read_eq_ok.mp hread)
    rw [render, Node.render, String.toList_ofList] at hlong htext
    have hsame : d'.text = n.text r' := (htext.trans (List.append_nil _)).symm
    exact hshort ⟨hlong, targetsLong_of_yields hsettles ⟨0, hslots⟩ hyields'
      (congrArg (· ++ []) hsame)⟩

end Reading

/-- A filter with a condition at the end of an edge that is just long enough. -/
theorem canonical_stable_edge :
    let r : Registry := (Registry.empty.register "cn" {}).2
    let n : Node := .any [.equalsFolded ⟨0⟩ "eve", .edgeTo .pwnableBy none (.present ⟨0⟩)]
    read r (render r (ofNode n)) = ⟨.ok (ofNode n), r⟩ ∧ n.Long r ∧
      ∃ g, read r (render r (ofNode n)) = ⟨.ok g, r⟩ ∧ render r g = render r (ofNode n) := by
  intro r n
  have hr : r.Reachable := .register _ _ .empty
  have hn : n.WellFormed r := by
    refine ⟨?_, ?_, ?_, ?_, ?_, ?_⟩ <;> decide +kernel
  have hread := read_render_of_fit (hn.fit hr) hn.numbered hn.long
  have hlong : n.Long r := ⟨hn.long, hn.targetsLong⟩
  have hstars : ∀ c ∈ n.nodes, ∀ a p, c = glob a p true → p.source ≠ "*" := by
    rintro _ hc a p rfl
    simp [n, nodes, nodesAmong] at hc
  have hletter : ∀ c ∈ n.nodes, ∀ a ∈ c.attribute?, (r.nameOf a).toList.head? = some 'c' := by
    decide +kernel
  have hnames : ∀ c ∈ n.nodes, ∀ a ∈ c.attribute?, ∀ mark ∈ ['&', '|', '!'],
      (r.nameOf a).toList.head? ≠ some mark := by
    intro c hc a ha mark hmark hhead
    obtain rfl := Option.some.inj ((hletter c hc a ha).symm.trans hhead)
    exact absurd hmark (by decide)
  exact ⟨hread, hlong, (canonical_stable hread hnames hstars).1 hlong⟩

/-- Whether a text is read to a filter whose canonical text is rejected, or is read to a filter with
another canonical text. -/
def Unstable [Regex.Properties] (r : Registry) (text : String) : Prop :=
  ∃ f r', read r text = ⟨.ok f, r'⟩ ∧
    ∀ g r'', read r' (render r' f) = ⟨.ok g, r''⟩ → render r'' g ≠ render r' f

/-- Each way in which a canonical text is not stable: parentheses that are no part of it were what
made the text long enough, a name begins like a group, or a pattern is a star alone. -/
theorem canonical_unstable :
    Unstable .standard "((a=))" ∧ Unstable .standard "(\\&a=b)" ∧
      Unstable .standard "(a:caseExactMatch:=**)" := by
  unfold Unstable
  decide +kernel

end Directory.Filter
