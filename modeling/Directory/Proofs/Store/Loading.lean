import Directory.Proofs.Store.Values
import Directory.Store.Loader
import Mathlib.Data.List.Forall2

/-!
# What the loader accepts

Loading the contents of an object file is a list of checks and then a run of calls. The first check
that fails is reported. If none does, no call is refused and the store can be finished.

- `Document.Check`: what is checked, `Document.checks`: in which order, `Document.faultOf`: what is
  reported if a check fails.
- `Document.Consistent`: nothing is reported (`Document.fault?_eq_none_iff`).
- `Document.edges`: the edges of an object file, with the numbers of their ends.
- `Document.position?`: where a name first stands in an object file. The table that the loader fills
  says the same (`Document.addRecords_eq`).
- `Document.calls`: the calls that build the store, `Document.ofDocument_eq`: loading is the checks
  and then these calls.
- `Document.Loaded`: what holds of a store that was loaded.
- `Document.ofDocument_accepts`: when loading succeeds, what it reports and what it gives.
-/

namespace Directory

open Text (lower)

theorem forall₂_filterMap {α β : Type} {P : α → β → Prop} {f : α → Option β} :
    ∀ {l : List α}, (∀ a ∈ l, ∃ b, f a = some b ∧ P a b) → List.Forall₂ P l (l.filterMap f)
  | [], _ => .nil
  | a :: l, h => by
    obtain ⟨⟨b, hb, hab⟩, hl⟩ := List.forall_mem_cons.mp h
    rw [List.filterMap_cons, hb]
    exact .cons hab (forall₂_filterMap hl)

namespace Document

open Store (Spares)
open Store.Builder (run accepted drafts)

/-! ## Names -/

/-- The names of entries, folded. -/
def keys (records : List Record) : List String :=
  records.map fun r => lower r.dn

/-- The number of the first entry with a distinguished name, in any letter case. -/
def position? (records : List Record) (dn : String) : Option Nat :=
  (keys records).idxOf? (lower dn)

/-! ## Checks -/

/-- Something that is checked about an object file. -/
inductive Check where
  /-- The identifier of an entry, if it has one, is well formed. -/
  | guid (r : Record)
  /-- The name of an entry differs in more than letter case from those of earlier ones. -/
  | name (earlier : List Record) (r : Record)
  /-- An edge of an entry leads to an entry of the file. -/
  | target (r : Record) (e : EdgeRecord)
  /-- The method of an edge of an entry exists. -/
  | method (r : Record) (e : EdgeRecord)

/-- What is reported if a check about an object file with the given entries fails. -/
def faultOf (records : List Record) : Check → Option Store.Error
  | .guid r => r.guid.bind fun text =>
    if (Guid.read? text).isSome then none else some (.invalidGuid text)
  | .name earlier r =>
    if ∃ r' ∈ earlier, lower r'.dn = lower r.dn then some (.duplicateName r.dn) else none
  | .target r e =>
    if ∃ t ∈ records, lower t.dn = lower e.target then none else some (.unknownTarget r.dn e.target)
  | .method r e =>
    if (AttackMethod.ofName? e.method.toList).isSome then none
    else some (.unknownMethod r.dn e.method)

/-- The checks about entries that follow on earlier ones. -/
def recordChecks (earlier : List Record) : List Record → List Check
  | [] => []
  | r :: rest => .guid r :: .name earlier r :: recordChecks (earlier ++ [r]) rest

/-- The checks about edges that an entry lists. -/
def edgeChecks (r : Record) (es : List EdgeRecord) : List Check :=
  es.flatMap fun e => [.target r e, .method r e]

/-- The checks about an object file: entries in the order of the file, and after all of them edges
in the order of the file. -/
def checks (d : Document) : List Check :=
  recordChecks [] d.records ++ d.records.flatMap fun r => edgeChecks r r.edges

/-- What the first check reports that fails. -/
def fault? (d : Document) : Option Store.Error :=
  d.checks.findSome? (faultOf d.records)

/-- Whether an object file is consistent. -/
structure Consistent (d : Document) : Prop where
  /-- The identifiers that are given are well formed. -/
  guids : ∀ r ∈ d.records, ∀ text ∈ r.guid, (Guid.read? text).isSome
  /-- Names differ in more than letter case. -/
  names : (keys d.records).Nodup
  /-- Edges lead to entries of the file. -/
  targets : ∀ r ∈ d.records, ∀ e ∈ r.edges, ∃ t ∈ d.records, lower t.dn = lower e.target
  /-- The methods of edges exist. -/
  methods : ∀ r ∈ d.records, ∀ e ∈ r.edges, (AttackMethod.ofName? e.method.toList).isSome

section Faults

variable {records : List Record}

theorem faultOf_guid_eq_none {r : Record} :
    faultOf records (.guid r) = none ↔ ∀ text ∈ r.guid, (Guid.read? text).isSome := by
  rw [faultOf, Option.bind_eq_none_iff]
  refine forall₂_congr fun text _ => ?_
  simp [Option.isSome_iff_ne_none]

theorem faultOf_name_eq_none {earlier : List Record} {r : Record} :
    faultOf records (.name earlier r) = none ↔ ∀ r' ∈ earlier, lower r'.dn ≠ lower r.dn := by
  rw [faultOf]
  simp

theorem faultOf_target_eq_none {r : Record} {e : EdgeRecord} :
    faultOf records (.target r e) = none ↔ ∃ t ∈ records, lower t.dn = lower e.target := by
  rw [faultOf]
  simp

theorem faultOf_method_eq_none {r : Record} {e : EdgeRecord} :
    faultOf records (.method r e) = none ↔ (AttackMethod.ofName? e.method.toList).isSome := by
  rw [faultOf]
  simp [Option.isSome_iff_ne_none]

theorem recordChecks_eq_none : ∀ (rest earlier : List Record),
    (recordChecks earlier rest).findSome? (faultOf records) = none ↔
      (∀ r ∈ rest, ∀ text ∈ r.guid, (Guid.read? text).isSome) ∧
        (rest.map fun r => lower r.dn).Nodup ∧
          ∀ r ∈ rest, ∀ r' ∈ earlier, lower r'.dn ≠ lower r.dn
  | [], _ => by simp [recordChecks]
  | r :: rest, earlier => by
    have ih := recordChecks_eq_none rest (earlier ++ [r])
    rw [List.findSome?_eq_none_iff] at ih
    rw [recordChecks, List.findSome?_eq_none_iff, List.forall_mem_cons, List.forall_mem_cons, ih,
      faultOf_guid_eq_none, faultOf_name_eq_none, List.forall_mem_cons, List.forall_mem_cons,
      List.map_cons, List.nodup_cons]
    constructor
    · rintro ⟨hguid, hname, hguids, hnodup, hearlier⟩
      refine ⟨⟨hguid, hguids⟩, ⟨fun hmem => ?_, hnodup⟩, hname, fun r' hr' t ht => ?_⟩
      · obtain ⟨r', hr', heq⟩ := List.mem_map.mp hmem
        exact hearlier r' hr' r (List.mem_append_right _ (List.mem_singleton_self r)) heq.symm
      · exact hearlier r' hr' t (List.mem_append_left _ ht)
    · rintro ⟨⟨hguid, hguids⟩, ⟨hnew, hnodup⟩, hname, hearlier⟩
      refine ⟨hguid, hname, hguids, hnodup, fun r' hr' t ht heq => ?_⟩
      rcases List.mem_append.mp ht with ht | ht
      · exact hearlier r' hr' t ht heq
      · rw [List.mem_singleton.mp ht] at heq
        exact hnew (List.mem_map.mpr ⟨r', hr', heq.symm⟩)

theorem edgeChecks_eq_none {r : Record} {es : List EdgeRecord} :
    (edgeChecks r es).findSome? (faultOf records) = none ↔
      ∀ e ∈ es, (∃ t ∈ records, lower t.dn = lower e.target) ∧
        (AttackMethod.ofName? e.method.toList).isSome := by
  rw [edgeChecks, List.findSome?_eq_none_iff, List.forall_mem_flatMap]
  refine forall₂_congr fun e _ => ?_
  rw [List.forall_mem_cons, List.forall_mem_singleton, faultOf_target_eq_none,
    faultOf_method_eq_none]

/-- Nothing is reported about a consistent object file, and about no other one. -/
theorem fault?_eq_none_iff {d : Document} : d.fault? = none ↔ d.Consistent := by
  have hedges : (d.records.flatMap fun r => edgeChecks r r.edges).findSome? (faultOf d.records) =
      none ↔ ∀ r ∈ d.records, ∀ e ∈ r.edges, (∃ t ∈ d.records, lower t.dn = lower e.target) ∧
        (AttackMethod.ofName? e.method.toList).isSome := by
    rw [List.findSome?_eq_none_iff, List.forall_mem_flatMap]
    refine forall₂_congr fun r _ => ?_
    rw [← List.findSome?_eq_none_iff, edgeChecks_eq_none]
  rw [fault?, checks, List.findSome?_append, Option.or_eq_none_iff, recordChecks_eq_none, hedges]
  constructor
  · rintro ⟨⟨hguids, hnames, -⟩, hedges⟩
    exact ⟨hguids, hnames, fun r hr e he => (hedges r hr e he).1,
      fun r hr e he => (hedges r hr e he).2⟩
  · intro h
    exact ⟨⟨h.guids, h.names, fun _ _ _ hmem => absurd hmem List.not_mem_nil⟩,
      fun r hr e he => ⟨h.targets r hr e he, h.methods r hr e he⟩⟩

/-- No number without an entry is reported. -/
theorem fault?_ne_unknownEntry {d : Document} {id : Nat} :
    d.fault? ≠ some (.unknownEntry id) := by
  intro h
  obtain ⟨check, -, hcheck⟩ := List.exists_of_findSome?_eq_some h
  cases check with
  | guid r =>
    obtain ⟨text, -, htext⟩ := Option.bind_eq_some_iff.mp hcheck
    split at htext <;> simp at htext
  | name | target | method =>
    rw [faultOf] at hcheck
    split at hcheck <;> simp at hcheck

end Faults

/-! ## Calls -/

/-- What comes out if something may have been reported. -/
def outcome {α : Type} (fault : Option Store.Error) (a : α) : Except Store.Error α :=
  match fault with
  | some err => .error err
  | none => .ok a

/-- The draft of an entry. An identifier that is not well formed is left out. -/
def Record.drafted (r : Record) : Draft where
  dn := r.dn
  guid := r.guid.bind Guid.read?
  sid := r.sid
  values := r.attributes.flatMap fun (name, vs) => vs.map fun v => (name, v)

/-- An edge that an entry lists, if its target and its method are known. -/
def resolve? (records : List Record) (source : Nat) (e : EdgeRecord) : Option Edge := do
  some ⟨source, ← position? records e.target, ← AttackMethod.ofName? e.method.toList⟩

/-- The edges that entries list which are numbered from `source` on. -/
def edgesOf (records : List Record) (source : Nat) (rest : List Record) : List Edge :=
  (rest.zipIdx source).flatMap fun (r, i) => r.edges.filterMap (resolve? records i)

/-- The edges of an object file, in the order of the file. -/
def edges (d : Document) : List Edge :=
  edgesOf d.records 0 d.records

/-- The drafts of entries that are numbered from `start` on. -/
def draftsOf (spares : Spares) (start : Nat) (rest : List Record) : List (Draft × Guid) :=
  (rest.zipIdx start).map fun (r, i) => (r.drafted, spares i)

/-- The calls that flag attributes and add the entries of an object file. -/
def entryCalls (indexed : List String) (spares : Spares) (d : Document) :
    List Store.Builder.Call :=
  indexed.map .markIndexed ++ (draftsOf spares 0 d.records).map fun p => .add p.1 p.2

/-- The calls that build the store of an object file. Edges are added after all entries. -/
def calls (indexed : List String) (spares : Spares) (d : Document) : List Store.Builder.Call :=
  d.entryCalls indexed spares ++ d.edges.map .addEdge

section Calls

variable {records : List Record}

theorem Record.draft_eq (records : List Record) (r : Record) :
    r.draft = outcome (faultOf records (.guid r)) r.drafted := by
  obtain ⟨dn, guid, sid, attributes, edges⟩ := r
  cases guid with
  | none => rfl
  | some text =>
    rw [Record.draft, faultOf, Record.drafted]
    dsimp only [Option.bind_some]
    cases Guid.read? text <;> rfl

theorem position?_eq_none {dn : String} :
    position? records dn = none ↔ ¬∃ t ∈ records, lower t.dn = lower dn := by
  rw [position?, List.idxOf?_eq_none_iff, keys, List.mem_map]

theorem position?_eq_some {dn : String} {i : Nat} (h : position? records dn = some i) :
    ∃ t, records[i]? = some t ∧ lower t.dn = lower dn := by
  obtain ⟨hlt, hkey, -⟩ := List.idxOf?_eq_some_iff.mp h
  have hplace : (keys records)[i]? = some (lower dn) := List.getElem?_eq_some_iff.mpr ⟨hlt, hkey⟩
  rw [keys, List.getElem?_map] at hplace
  exact Option.map_eq_some_iff.mp hplace

theorem resolve?_eq_some {source : Nat} {e : EdgeRecord} {x : Edge} :
    resolve? records source e = some x ↔
      x.source = source ∧ position? records e.target = some x.target ∧
        AttackMethod.ofName? e.method.toList = some x.method := by
  obtain ⟨i, j, m⟩ := x
  rw [resolve?]
  cases position? records e.target with
  | none => simp
  | some target =>
    cases AttackMethod.ofName? e.method.toList with
    | none => simp
    | some method => simp [eq_comm]

theorem mem_edgesOf {source : Nat} {rest : List Record} {x : Edge}
    (h : x ∈ edgesOf records source rest) :
    source ≤ x.source ∧ x.source < source + rest.length ∧ x.target < records.length := by
  obtain ⟨⟨r, i⟩, hr, hx⟩ := List.mem_flatMap.mp h
  obtain ⟨e, -, he⟩ := List.mem_filterMap.mp hx
  obtain ⟨rfl, htarget, -⟩ := resolve?_eq_some.mp he
  obtain ⟨t, ht, -⟩ := position?_eq_some htarget
  exact ⟨List.le_snd_of_mem_zipIdx hr, List.snd_lt_add_of_mem_zipIdx hr,
    (List.getElem?_eq_some_iff.mp ht).1⟩

/-- An entry whose identifier and name are in order is added and goes into the table. -/
theorem addRecords_cons (spares : Spares) (names : Numbering) (b : Store.Builder) (r : Record)
    (rest : List Record) :
    addRecords spares names b (r :: rest) = r.draft.bind fun draft =>
      if (names.lookup (lower r.dn)).isSome then .error (.duplicateName r.dn)
      else addRecords spares ((lower r.dn, b.entries.length) :: names)
        (b.add draft (spares b.entries.length)).2 rest := by
  rw [addRecords]
  refine congrArg r.draft.bind (funext fun draft => ?_)
  show (if _ then _ else _) = _
  split <;> rfl

/-- Entries are added one by one unless a check about one of them fails. Then the table leads from
their names to their numbers. -/
theorem addRecords_eq (records : List Record) (spares : Spares) :
    ∀ (rest earlier : List Record) (names : Numbering) (b : Store.Builder),
      names.Of (keys earlier) → b.entries.length = earlier.length →
        ∃ t : Numbering,
          addRecords spares names b rest =
            outcome ((recordChecks earlier rest).findSome? (faultOf records))
              (run b ((draftsOf spares b.entries.length rest).map fun p => .add p.1 p.2), t) ∧
          ((recordChecks earlier rest).findSome? (faultOf records) = none →
            t.Of (keys (earlier ++ rest)))
  | [], earlier, names, b, hnames, _ =>
    ⟨names, rfl, fun _ => (List.append_nil earlier).symm ▸ hnames⟩
  | r :: rest, earlier, names, b, hnames, hlength => by
    have hseen : (names.lookup (lower r.dn)).isSome ↔ ∃ r' ∈ earlier, lower r'.dn = lower r.dn :=
      hnames.isSome_lookup_iff.trans List.mem_map
    rw [addRecords_cons, r.draft_eq records, recordChecks, List.findSome?_cons,
      List.findSome?_cons]
    cases faultOf records (.guid r) with
    | some err => exact ⟨names, rfl, nofun⟩
    | none =>
      by_cases hname : ∃ r' ∈ earlier, lower r'.dn = lower r.dn
      · have hfault : faultOf records (.name earlier r) = some (.duplicateName r.dn) := if_pos hname
        rw [hfault]
        exact ⟨names, if_pos (hseen.mpr hname), nofun⟩
      · have hfault : faultOf records (.name earlier r) = none := if_neg hname
        have hnames' : Numbering.Of ((lower r.dn, b.entries.length) :: names)
            (keys (earlier ++ [r])) := by
          have hnew : names.lookup (lower r.dn) = none :=
            Option.not_isSome_iff_eq_none.mp (mt hseen.mp hname)
          have hid : b.entries.length = (keys earlier).length := by rw [hlength, keys, List.length_map]
          rw [keys, List.map_append, hid]
          exact hnames.concat hnew
        have hlength' : (b.add r.drafted (spares b.entries.length)).2.entries.length =
            b.entries.length + 1 :=
          List.length_append
        obtain ⟨t, heq, ht⟩ := addRecords_eq records spares rest (earlier ++ [r]) _
          (b.add r.drafted (spares b.entries.length)).2 hnames'
          (by rw [hlength', hlength, List.length_append]; rfl)
        rw [hlength'] at heq
        rw [List.append_assoc] at ht
        rw [hfault]
        exact ⟨t, (if_neg (mt hseen.mp hname)).trans heq, ht⟩

/-- The edges of an entry are added one by one unless a check about one of them fails. -/
theorem addEdges_eq {names : Numbering} (hnames : names.Of (keys records)) {source : Nat}
    {r : Record} : ∀ (es : List EdgeRecord) {b : Store.Builder},
    source < b.entries.length → records.length ≤ b.entries.length →
      addEdges names source r.dn b es =
        outcome ((edgeChecks r es).findSome? (faultOf records))
          (run b ((es.filterMap (resolve? records source)).map .addEdge))
  | [], _, _, _ => rfl
  | e :: es, b, hsource, hlength => by
    rw [addEdges, edgeChecks, List.flatMap_cons, List.cons_append, List.cons_append,
      List.nil_append, List.findSome?_cons, List.findSome?_cons, ← edgeChecks, hnames, ← position?]
    cases htarget : position? records e.target with
    | none =>
      have hfault : faultOf records (.target r e) = some (.unknownTarget r.dn e.target) :=
        if_neg (position?_eq_none.mp htarget)
      rw [hfault]
      rfl
    | some target =>
      have hfault : faultOf records (.target r e) = none := by
        refine faultOf_target_eq_none.mpr ?_
        obtain ⟨t, ht, hdn⟩ := position?_eq_some htarget
        exact ⟨t, List.mem_of_getElem? ht, hdn⟩
      rw [hfault]
      cases hmethod : AttackMethod.ofName? e.method.toList with
      | none =>
        have hfault : faultOf records (.method r e) = some (.unknownMethod r.dn e.method) := by
          rw [faultOf, hmethod]
          rfl
        rw [hfault]
        rfl
      | some method =>
        have hfault : faultOf records (.method r e) = none :=
          faultOf_method_eq_none.mpr (Option.isSome_of_mem hmethod)
        have hresolve : resolve? records source e = some ⟨source, target, method⟩ :=
          resolve?_eq_some.mpr ⟨rfl, htarget, hmethod⟩
        obtain ⟨t, ht, -⟩ := position?_eq_some htarget
        have hends : target < b.entries.length :=
          Nat.lt_of_lt_of_le (List.getElem?_eq_some_iff.mp ht).1 hlength
        have hadd := (Store.Builder.addEdge_of_lt (e := ⟨source, target, method⟩) hsource hends).1
        have hentries := b.length_perform_addEdge ⟨source, target, method⟩
        rw [hfault, List.filterMap_cons, hresolve]
        show (b.addEdge ⟨source, target, method⟩).bind _ = _
        rw [hadd]
        exact addEdges_eq hnames es (hentries ▸ hsource) (hentries ▸ hlength)

/-- The edges of all entries are added one by one unless a check about one of them fails. -/
theorem addAllEdges_eq {names : Numbering} (hnames : names.Of (keys records)) :
    ∀ (rest : List Record) (source : Nat) (b : Store.Builder),
    source + rest.length ≤ b.entries.length → records.length ≤ b.entries.length →
      addAllEdges names source b rest =
        outcome ((rest.flatMap fun r => edgeChecks r r.edges).findSome? (faultOf records))
          (run b ((edgesOf records source rest).map .addEdge))
  | [], _, _, _, _ => rfl
  | r :: rest, source, b, hsource, hlength => by
    rw [List.length_cons] at hsource
    have hedges : edgesOf records source (r :: rest) =
        r.edges.filterMap (resolve? records source) ++ edgesOf records (source + 1) rest := by
      rw [edgesOf, List.zipIdx_cons, List.flatMap_cons]
      rfl
    rw [addAllEdges, addEdges_eq hnames r.edges (by omega) hlength, List.flatMap_cons,
      List.findSome?_append, hedges, List.map_append, Store.Builder.run_append]
    cases (edgeChecks r r.edges).findSome? (faultOf records) with
    | some err => rfl
    | none =>
      have hentries := Store.Builder.length_run_addEdge
        (r.edges.filterMap (resolve? records source)) b
      exact addAllEdges_eq hnames rest (source + 1) _ (by omega) (by omega)

theorem length_draftsOf (spares : Spares) (start : Nat) (rest : List Record) :
    (draftsOf spares start rest).length = rest.length := by
  rw [draftsOf, List.length_map, List.length_zipIdx]

section Document

variable (indexed : List String) (spares : Spares) (d : Document)

theorem drafts_entryCalls : drafts (d.entryCalls indexed spares) = draftsOf spares 0 d.records := by
  have hmark : drafts (indexed.map .markIndexed) = [] := by simp [drafts]
  have hadd : drafts ((draftsOf spares 0 d.records).map fun p => .add p.1 p.2) =
      draftsOf spares 0 d.records := by
    simp [drafts, List.filterMap_map]
  rw [entryCalls, drafts, List.filterMap_append, ← drafts, ← drafts, hmark, hadd, List.nil_append]

/-- The drafts that the calls add are those of the entries. -/
theorem drafts_calls : drafts (d.calls indexed spares) = draftsOf spares 0 d.records := by
  have hedge : drafts (d.edges.map .addEdge) = [] := by simp [drafts]
  rw [calls, drafts, List.filterMap_append, ← drafts, ← drafts, drafts_entryCalls, hedge,
    List.append_nil]

/-- All entries are there before the edges are added. -/
theorem length_run_entryCalls :
    (run {} (d.entryCalls indexed spares)).entries.length = d.records.length := by
  have hlength := (Store.Builder.stocked_run Registry.standard (d.entryCalls indexed spares)).length
  rwa [drafts_entryCalls, length_draftsOf] at hlength

/-- No edge is refused. -/
theorem accepted_calls : accepted {} (d.calls indexed spares) = d.edges := by
  have hnone : accepted {} (d.entryCalls indexed spares) = [] := by
    rw [entryCalls, Store.Builder.accepted_append, (Store.Builder.run_markIndexed indexed {}).2.2,
      Store.Builder.accepted_add, List.append_nil]
  rw [calls, Store.Builder.accepted_append, hnone, List.nil_append]
  refine Store.Builder.accepted_addEdge fun e he => ?_
  obtain ⟨-, hsource, htarget⟩ := mem_edgesOf he
  rw [length_run_entryCalls]
  exact ⟨by omega, htarget⟩

/-- Adding the entries and then the edges is the checks and then the calls. -/
theorem addRecords_bind_eq :
    (addRecords spares [] (indexed.foldl Store.Builder.markIndexed {}) d.records).bind
        (fun p => addAllEdges p.2 0 p.1 d.records) =
      outcome d.fault? (run {} (d.calls indexed spares)) := by
  obtain ⟨hmark, hentries, -⟩ := Store.Builder.run_markIndexed indexed {}
  obtain ⟨names, hadd, hnames⟩ := addRecords_eq d.records spares d.records [] []
    (indexed.foldl Store.Builder.markIndexed {}) Numbering.of_nil (by rw [hentries]; rfl)
  have hrun : run (indexed.foldl Store.Builder.markIndexed {})
      ((draftsOf spares (indexed.foldl Store.Builder.markIndexed {}).entries.length d.records).map
        fun p => .add p.1 p.2) = run {} (d.entryCalls indexed spares) := by
    rw [hentries, entryCalls, Store.Builder.run_append, hmark]
    rfl
  have hlength := d.length_run_entryCalls indexed spares
  rw [hadd, hrun, fault?, checks, List.findSome?_append]
  cases hfault : (recordChecks [] d.records).findSome? (faultOf d.records) with
  | some err => rfl
  | none =>
    show addAllEdges names 0 (run {} (d.entryCalls indexed spares)) d.records = _
    have hnames' : names.Of (keys d.records) := hnames hfault
    rw [addAllEdges_eq hnames' d.records 0 _ (by omega) (by omega), calls,
      Store.Builder.run_append]
    rfl

/-- Loading is the checks, then the calls, and then the store is finished. -/
theorem ofDocument_eq :
    Store.ofDocument indexed spares d =
      (outcome d.fault? (run {} (d.calls indexed spares))).bind Store.Builder.build := by
  rw [← addRecords_bind_eq, Store.ofDocument]
  cases addRecords spares [] (indexed.foldl Store.Builder.markIndexed {}) d.records <;> rfl

end Document

end Calls

/-! ## Loaded stores -/

section Positions

variable {records : List Record}

theorem edgesOf_cons (source : Nat) (r : Record) (rest : List Record) :
    edgesOf records source (r :: rest) =
      r.edges.filterMap (resolve? records source) ++ edgesOf records (source + 1) rest := by
  rw [edgesOf, List.zipIdx_cons, List.flatMap_cons]
  rfl

/-- Of all edges, those that start at an entry are the ones that it lists. -/
theorem edgesFrom_edgesOf (records : List Record) :
    ∀ (rest : List Record) (source : Nat) {k : Nat} {r : Record}, rest[k]? = some r →
      edgesFrom .canPwn (source + k) (edgesOf records source rest) =
        r.edges.filterMap (resolve? records (source + k))
  | r' :: rest, source, k, r, hr => by
    rw [edgesOf_cons, edgesFrom_append]
    have hown : ∀ e ∈ r'.edges.filterMap (resolve? records source), e.near .canPwn = source := by
      intro e he
      obtain ⟨_, -, hresolve⟩ := List.mem_filterMap.mp he
      exact (resolve?_eq_some.mp hresolve).1
    cases k with
    | zero =>
      obtain rfl := Option.some.inj hr
      have hlater : edgesFrom .canPwn source (edgesOf records (source + 1) rest) = [] := by
        refine edgesFrom_eq_nil fun e he hnear => ?_
        have hsource : e.source = source := hnear
        have hle := (mem_edgesOf he).1
        omega
      have hkept : edgesFrom .canPwn source (r'.edges.filterMap (resolve? records source)) =
          r'.edges.filterMap (resolve? records source) :=
        List.filter_eq_self.mpr fun e he => beq_iff_eq.mpr (hown e he)
      rw [Nat.add_zero, hlater, hkept, List.append_nil]
    | succ k =>
      have hnone : edgesFrom .canPwn (source + (k + 1))
          (r'.edges.filterMap (resolve? records source)) = [] := by
        refine edgesFrom_eq_nil fun e he hnear => ?_
        rw [hown e he] at hnear
        omega
      have ih := edgesFrom_edgesOf records rest (source + 1) (k := k) hr
      have hsum : source + 1 + k = source + (k + 1) := by omega
      rw [hsum] at ih
      rw [hnone, ih, List.nil_append]

/-- In a consistent object file a name leads to the entry that has it. -/
theorem Consistent.position?_eq_some_iff {d : Document} (h : d.Consistent) {i : Nat} {r : Record}
    (hr : d.records[i]? = some r) {dn : String} :
    position? d.records dn = some i ↔ lower r.dn = lower dn := by
  rw [position?, Numbering.idxOf?_eq_some_iff_getElem? h.names, keys, List.getElem?_map, hr]
  exact Option.some_inj

end Positions

/-- What is kept with an entry of the edges that lead to it: they are listed by their sources, in
the order of the file. -/
def aimedAt (d : Document) (r : Record) : List Link :=
  d.records.zipIdx.flatMap fun (r', j) =>
    r'.edges.filterMap fun e =>
      if lower r.dn = lower e.target then (AttackMethod.ofName? e.method.toList).map (⟨j, ·⟩)
      else none

/-- What holds of a store that was loaded from an object file. -/
structure Loaded (spares : Spares) (d : Document) (s : Store) : Prop where
  /-- The file is consistent. -/
  consistent : d.Consistent
  /-- The indexes are sound and complete. -/
  indexed : s.Indexed
  /-- There are as many entries as in the file. -/
  size : s.size = d.records.length
  /-- They are those of the file, in the same order. -/
  stems : ∀ {i : Nat} {r : Record}, d.records[i]? = some r →
    ∃ x, s.entry? i = some x ∧ x.Stems s.registry r.drafted (spares i)
  /-- The edges of the file are kept, in the order of the file. -/
  links : ∀ {i : Nat} {x : Entry}, s.entry? i = some x →
    ∀ dir, x.links dir = (edgesFrom dir i d.edges).map (Edge.link dir)
  /-- All of them can be followed. -/
  edgesAt : ∀ dir i, s.edgesAt dir i = edgesFrom dir i d.edges
  /-- Names lead to the entries that have them. -/
  names : s.names.Of (keys d.records)

section Loaded

variable {indexed : List String} {spares : Spares} {d : Document}

/-- The calls give the entries the names of the file, in the same order. -/
theorem map_lower_run_calls (indexed : List String) (spares : Spares) (d : Document) :
    ((run {} (d.calls indexed spares)).entries.map fun e => lower e.dn) = keys d.records := by
  have hstocked := Store.Builder.stocked_run Registry.standard (d.calls indexed spares)
  rw [drafts_calls] at hstocked
  have hnames : (run {} (d.calls indexed spares)).entries.map Entry.dn =
      d.records.map (·.dn) := by
    rw [hstocked.map_dn, draftsOf, List.map_map]
    show d.records.zipIdx.map ((·.dn) ∘ Prod.fst) = _
    rw [← List.map_map, List.zipIdx_map_fst]
  have hfolded := congrArg (List.map lower) hnames
  rwa [List.map_map, List.map_map] at hfolded

/-- The calls for a consistent object file lead to a store that can be finished. -/
theorem Consistent.exists_build (h : d.Consistent) (indexed : List String) (spares : Spares) :
    ∃ s, (run {} (d.calls indexed spares)).build = .ok s := by
  rw [Store.Builder.exists_build_iff, map_lower_run_calls]
  exact h.names

/-- A fault is reported, and nothing else. -/
theorem ofDocument_eq_error {err : Store.Error} :
    Store.ofDocument indexed spares d = .error err ↔ d.fault? = some err := by
  rw [ofDocument_eq]
  cases hfault : d.fault? with
  | some err' => simp [outcome, Except.bind]
  | none =>
    obtain ⟨s, hs⟩ := (fault?_eq_none_iff.mp hfault).exists_build indexed spares
    simp [outcome, Except.bind, hs]

theorem exists_ofDocument_iff :
    (∃ s, Store.ofDocument indexed spares d = .ok s) ↔ d.Consistent := by
  rw [← fault?_eq_none_iff, ofDocument_eq]
  cases hfault : d.fault? with
  | some err' => simp [outcome, Except.bind]
  | none => simpa [outcome, Except.bind] using
      (fault?_eq_none_iff.mp hfault).exists_build indexed spares

/-- A store that is loaded is built by the calls. -/
theorem build_of_ok {s : Store} (h : Store.ofDocument indexed spares d = .ok s) :
    (run {} (d.calls indexed spares)).build = .ok s := by
  have hconsistent : d.Consistent := exists_ofDocument_iff.mp ⟨s, h⟩
  rwa [ofDocument_eq, fault?_eq_none_iff.mpr hconsistent] at h

theorem loaded_of_ok {s : Store} (h : Store.ofDocument indexed spares d = .ok s) :
    Loaded spares d s := by
  have hconsistent : d.Consistent := exists_ofDocument_iff.mp ⟨s, h⟩
  have hbuild := build_of_ok h
  obtain ⟨hentries, hsize, hregistry, -⟩ := Store.Builder.build_eq_ok hbuild
  have hstocked := Store.Builder.stocked_run Registry.standard (d.calls indexed spares)
  rw [drafts_calls] at hstocked
  have hrecorded := Store.Builder.recorded_run Registry.standard (d.calls indexed spares)
  rw [show accepted { registry := Registry.standard } (d.calls indexed spares) = d.edges from
    d.accepted_calls indexed spares] at hrecorded
  have hlength : (run {} (d.calls indexed spares)).entries.length = d.records.length :=
    hstocked.length.trans (length_draftsOf ..)
  have hnames := Store.Builder.names_of_build hbuild
  rw [hentries, map_lower_run_calls] at hnames
  refine ⟨hconsistent, Store.Builder.indexed_of_build hbuild, hsize.trans hlength, ?_, ?_,
    hrecorded.edgesAt hbuild, hnames⟩
  · intro i r hr
    have hlt : i < (run {} (d.calls indexed spares)).entries.length := by
      rw [hlength]
      exact (List.getElem?_eq_some_iff.mp hr).1
    have hdraft : (draftsOf spares 0 d.records)[i]? = some (r.drafted, spares i) := by
      rw [draftsOf, List.getElem?_map, List.getElem?_zipIdx, hr]
      simp
    rw [Store.entry?, hentries, hregistry]
    exact ⟨_, List.getElem?_eq_getElem hlt, hstocked.stems (List.getElem?_eq_getElem hlt) hdraft⟩
  · intro i x hx
    rw [Store.entry?, hentries] at hx
    exact hrecorded.links hx

/-- The edges that lead to an entry, as they are kept there. -/
theorem Consistent.map_link_edges (h : d.Consistent) {i : Nat} {r : Record}
    (hr : d.records[i]? = some r) :
    (edgesFrom .pwnableBy i d.edges).map (Edge.link .pwnableBy) = d.aimedAt r := by
  rw [edgesFrom, edges, edgesOf, aimedAt, List.filter_flatMap, List.map_flatMap]
  refine List.flatMap_congr fun p _ => ?_
  rw [List.filter_filterMap, List.map_filterMap]
  refine List.filterMap_congr fun e _ => ?_
  by_cases htarget : lower r.dn = lower e.target
  · rw [if_pos htarget, resolve?, (h.position?_eq_some_iff hr).mpr htarget]
    cases AttackMethod.ofName? e.method.toList with
    | none => rfl
    | some m =>
      simp [Edge.near, Edge.link, Edge.far, Option.filter]
  · rw [if_neg htarget, Option.map_eq_none_iff, Option.filter_eq_none_iff]
    intro x hx hnear
    have hi : x.target = i := eq_of_beq hnear
    have hposition := (resolve?_eq_some.mp hx).2.1
    rw [hi] at hposition
    exact htarget ((h.position?_eq_some_iff hr).mp hposition)

/-- Every edge that an entry lists is kept with it. -/
theorem Loaded.forall₂_canPwn {s : Store} (h : Loaded spares d s) {i : Nat} {r : Record} {x : Entry}
    (hr : d.records[i]? = some r) (hx : s.entry? i = some x) :
    List.Forall₂ (fun e l => (∃ t, d.records[l.far]? = some t ∧ lower t.dn = lower e.target) ∧
      AttackMethod.ofName? e.method.toList = some l.method) r.edges x.canPwn := by
  have hlinks : x.canPwn =
      (r.edges.filterMap (resolve? d.records i)).map (Edge.link .canPwn) := by
    have hown := edgesFrom_edgesOf d.records d.records 0 hr
    rw [Nat.zero_add] at hown
    rw [← hown]
    exact h.links hx .canPwn
  rw [hlinks, List.map_filterMap]
  refine forall₂_filterMap fun e he => ?_
  have hmem : r ∈ d.records := List.mem_of_getElem? hr
  obtain ⟨target, htarget⟩ : ∃ target, position? d.records e.target = some target := by
    refine Option.ne_none_iff_exists'.mp fun hnone => ?_
    exact position?_eq_none.mp hnone (h.consistent.targets r hmem e he)
  obtain ⟨method, hmethod⟩ := Option.isSome_iff_exists.mp (h.consistent.methods r hmem e he)
  have hresolve : resolve? d.records i e = some ⟨i, target, method⟩ :=
    resolve?_eq_some.mpr ⟨rfl, htarget, hmethod⟩
  rw [hresolve]
  exact ⟨_, rfl, position?_eq_some htarget, hmethod⟩

/-- **Loading.** An object file is loaded exactly if it is consistent. Otherwise the first check that
fails is reported. The store has the entries of the file, in the same order, and with each entry the
edges that it lists and those that lead to it. The calls that build it are never refused. -/
theorem ofDocument_accepts (indexed : List String) (spares : Spares) (d : Document) :
    ((∃ s, Store.ofDocument indexed spares d = .ok s) ↔ d.Consistent) ∧
    (∀ err, Store.ofDocument indexed spares d = .error err ↔
      d.checks.findSome? (faultOf d.records) = some err) ∧
    (∀ s, Store.ofDocument indexed spares d = .ok s →
      s.size = d.records.length ∧
      ∀ (i : Nat) (r : Record), d.records[i]? = some r →
        ∃ x, s.entry? i = some x ∧ x.Stems s.registry r.drafted (spares i) ∧
          List.Forall₂ (fun e l =>
            (∃ t, d.records[l.far]? = some t ∧ lower t.dn = lower e.target) ∧
              AttackMethod.ofName? e.method.toList = some l.method) r.edges x.canPwn ∧
          x.pwnableBy = d.aimedAt r) ∧
    (∀ id, Store.ofDocument indexed spares d ≠ .error (.unknownEntry id)) ∧
    ∀ b names b',
      addRecords spares [] (indexed.foldl Store.Builder.markIndexed {}) d.records = .ok (b, names) →
      addAllEdges names 0 b d.records = .ok b' → ∃ s, b'.build = .ok s := by
  refine ⟨exists_ofDocument_iff, fun err => ofDocument_eq_error, fun s hs => ?_, fun id hid => ?_,
    fun b names b' hb hb' => ?_⟩
  · have h := loaded_of_ok hs
    refine ⟨h.size, fun i r hr => ?_⟩
    obtain ⟨x, hx, hstems⟩ := h.stems hr
    refine ⟨x, hx, hstems, h.forall₂_canPwn hr hx, ?_⟩
    rw [← h.consistent.map_link_edges hr]
    exact h.links hx .pwnableBy
  · exact fault?_ne_unknownEntry (ofDocument_eq_error.mp hid)
  · have hrun := addRecords_bind_eq indexed spares d
    rw [hb] at hrun
    replace hrun : addAllEdges names 0 b d.records = _ := hrun
    rw [hb'] at hrun
    cases hfault : d.fault? with
    | some err =>
      rw [hfault] at hrun
      exact nomatch hrun
    | none =>
      rw [hfault] at hrun
      rw [Except.ok.inj hrun]
      exact (fault?_eq_none_iff.mp hfault).exists_build indexed spares

end Loaded

/-- Two entries whose edges lead to each other and back to where they start. Targets are spelt in
other letter cases than the names of the entries. -/
def entangled : Document where
  records :=
    [⟨"CN=1", none, none, [("cn", [.text "Eve"])], [⟨"cn=2", "Owns"⟩, ⟨"cn=1", "Owns"⟩]⟩,
     ⟨"cn=2", none, none, [], [⟨"Cn=2", "Owns"⟩, ⟨"CN=1", "Owns"⟩]⟩]

/-- An object file with two faults, of which the one that is checked first stands further down. -/
def faulty : Document where
  records :=
    [⟨"CN=1", none, none, [], [⟨"CN=3", "Owns"⟩]⟩, ⟨"cn=1", some "x", none, [], []⟩]

theorem ofDocument_accepts_entangled :
    (∃ s x, Store.ofDocument ["CN"] (fun _ => ⟨0⟩) entangled = .ok s ∧ s.entry? 1 = some x ∧
      x.pwnableBy = [⟨0, .owns⟩, ⟨1, .owns⟩]) ∧
      Store.ofDocument [] (fun _ => ⟨0⟩) faulty = .error (.invalidGuid "x") := by
  obtain ⟨haccepts, -, hloaded, -⟩ := ofDocument_accepts ["CN"] (fun _ => ⟨0⟩) entangled
  have hconsistent : entangled.Consistent := fault?_eq_none_iff.mp (by decide +kernel)
  obtain ⟨s, hs⟩ := haccepts.mpr hconsistent
  obtain ⟨x, hx, -, -, hpwnableBy⟩ := (hloaded s hs).2 1 _ rfl
  refine ⟨⟨s, x, hs, hx, ?_⟩, ((ofDocument_accepts [] _ faulty).2.1 _).mpr (by decide +kernel)⟩
  rw [hpwnableBy]
  decide +kernel

end Document

end Directory
