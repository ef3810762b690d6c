import Directory.Proofs.Store.Index
import Directory.Proofs.Store.Reachable

/-!
# Edges are kept at both of their ends

An edge is kept twice: with the entry where it starts and with the one where it ends. Whatever calls
a store under construction is given, refused ones among them, the two agree.

- `Store.Builder.Call`, `perform`, `run`: calls, and what a store under construction is after them.
- `Store.Builder.accepted`: the edges of the calls that are not refused.
- `Store.Builder.Recorded`: every entry keeps the edges at it, in the order of the calls. One call
  keeps it so (`Recorded.perform`), hence a run does (`recorded_run`).
- `Store.Builder.edges_agree`: the edges counted at either end are the accepted ones.
-/

namespace Directory

namespace Entry

@[simp]
theorem links_addLink_self (d : Direction) (l : Link) (x : Entry) :
    (x.addLink d l).links d = x.links d ++ [l] := by
  cases d <;> rfl

theorem links_addLink_of_ne {d d' : Direction} (h : d ≠ d') (l : Link) (x : Entry) :
    (x.addLink d l).links d' = x.links d' := by
  cases d <;> cases d' <;> first | rfl | exact absurd rfl h

end Entry

@[simp]
theorem Edge.edge_link (d : Direction) (e : Edge) : (e.link d).edge d (e.near d) = e := by
  cases d <;> rfl

/-- An edge is told by the end at which it is kept and what is kept of it there. -/
theorem Edge.eq_edge_iff {d : Direction} {e : Edge} {id : Nat} {l : Link} :
    e = l.edge d id ↔ e.link d = l ∧ e.near d = id := by
  constructor
  · rintro rfl
    cases d <;> exact ⟨rfl, rfl⟩
  · rintro ⟨rfl, rfl⟩
    exact (e.edge_link d).symm

/-- The edges of a list that are followed from an entry. -/
def edgesFrom (d : Direction) (near : Nat) (es : List Edge) : List Edge :=
  es.filter (·.near d == near)

section edgesFrom

variable {d : Direction} {near : Nat}

theorem edgesFrom_append (es es' : List Edge) :
    edgesFrom d near (es ++ es') = edgesFrom d near es ++ edgesFrom d near es' :=
  List.filter_append ..

theorem edgesFrom_eq_nil {es : List Edge} (h : ∀ e ∈ es, e.near d ≠ near) :
    edgesFrom d near es = [] :=
  List.filter_eq_nil_iff.mpr fun e he => by simpa using h e he

/-- The edges followed from an entry can be told from what is kept of them there. -/
theorem map_edge_edgesFrom (es : List Edge) :
    ((edgesFrom d near es).map (Edge.link d)).map (Link.edge d near) = edgesFrom d near es := by
  have hedge : ∀ e ∈ edgesFrom d near es, (Link.edge d near ∘ Edge.link d) e = id e := by
    intro e he
    have hnear : e.near d = near := by simpa using (List.mem_filter.mp he).2
    rw [← hnear]
    exact e.edge_link d
  rw [List.map_map, List.map_congr_left hedge, List.map_id]

/-- An edge stands as often in a list as what is kept of it stands among what is kept of the list
at one end. -/
theorem count_link_edgesFrom (es : List Edge) (l : Link) :
    ((edgesFrom d near es).map (Edge.link d)).count l = es.count (l.edge d near) := by
  rw [List.count, List.countP_map, edgesFrom, List.countP_filter, List.count]
  refine List.countP_congr fun e _ => ?_
  simp [Edge.eq_edge_iff]

end edgesFrom

namespace Store

namespace Builder

/-! ## Calls -/

/-- A call that extends a store under construction. -/
inductive Call where
  /-- Flags an attribute as indexed. -/
  | markIndexed (name : String)
  /-- Adds an entry. -/
  | add (draft : Draft) (spare : Guid)
  /-- Adds an edge, or is refused. -/
  | addEdge (e : Edge)

/-- What a store under construction is after a call. -/
def perform (b : Builder) : Call → Builder
  | .markIndexed name => b.markIndexed name
  | .add draft spare => (b.add draft spare).2
  | .addEdge e => (b.join e).2

/-- The edge that a call adds, if it is not refused. -/
def granted (b : Builder) : Call → List Edge
  | .addEdge e =>
    match (b.join e).1 with
    | .ok () => [e]
    | .error _ => []
  | _ => []

/-- What a store under construction is after several calls. -/
def run (b : Builder) : List Call → Builder
  | [] => b
  | call :: rest => (b.perform call).run rest

/-- The edges of the calls that are not refused, in the order of the calls. -/
def accepted (b : Builder) : List Call → List Edge
  | [] => []
  | call :: rest => b.granted call ++ (b.perform call).accepted rest

theorem run_append (b : Builder) (calls calls' : List Call) :
    b.run (calls ++ calls') = (b.run calls).run calls' := by
  induction calls generalizing b with
  | nil => rfl
  | cons call rest ih => exact ih (b.perform call)

theorem accepted_append (b : Builder) (calls calls' : List Call) :
    b.accepted (calls ++ calls') = b.accepted calls ++ (b.run calls).accepted calls' := by
  induction calls generalizing b with
  | nil => rfl
  | cons call rest ih =>
    rw [List.cons_append, accepted, accepted, ih, List.append_assoc]
    rfl

/-- Flagging attributes adds neither entries nor edges. -/
theorem run_markIndexed (names : List String) (b : Builder) :
    b.run (names.map .markIndexed) = names.foldl markIndexed b ∧
      (names.foldl markIndexed b).entries = b.entries ∧
      b.accepted (names.map .markIndexed) = [] := by
  induction names generalizing b with
  | nil => exact ⟨rfl, rfl, rfl⟩
  | cons name names ih => exact ih (b.markIndexed name)

/-- Adding entries adds no edges. -/
theorem accepted_add (l : List (Draft × Guid)) (b : Builder) :
    b.accepted (l.map fun p => .add p.1 p.2) = [] := by
  induction l generalizing b with
  | nil => rfl
  | cons p l ih => exact ih (b.add p.1 p.2).2

/-- An edge between entries that are there is not refused. -/
theorem addEdge_of_lt {b : Builder} {e : Edge} (hsource : e.source < b.entries.length)
    (htarget : e.target < b.entries.length) :
    b.addEdge e = .ok (b.perform (.addEdge e)) ∧ b.granted (.addEdge e) = [e] := by
  have hjoin : b.join e = (.ok (), (b.keep .canPwn e).keep .pwnableBy e) := by
    rw [join, if_neg (Nat.not_le.mpr hsource), if_neg (Nat.not_le.mpr htarget)]
  rw [addEdge, perform, granted, hjoin]
  exact ⟨rfl, rfl⟩

/-! ## What is kept -/

/-- The entries keep these edges and no others. -/
structure Recorded (b : Builder) (es : List Edge) : Prop where
  /-- The edges join entries. -/
  ends : ∀ e ∈ es, ∀ d : Direction, e.near d < b.entries.length
  /-- Every entry keeps those that are followed from it, in the same order. -/
  links : ∀ {id : Nat} {x : Entry}, b.entries[id]? = some x →
    ∀ d, x.links d = (edgesFrom d id es).map (Edge.link d)

@[simp]
theorem length_keep (b : Builder) (d : Direction) (e : Edge) :
    (b.keep d e).entries.length = b.entries.length :=
  List.length_modify ..

@[simp]
theorem length_perform_addEdge (b : Builder) (e : Edge) :
    (b.perform (.addEdge e)).entries.length = b.entries.length := by
  rw [perform]
  rcases b.join_cases e with ⟨-, hjoin⟩ | ⟨-, -, hjoin⟩ | ⟨-, -, hjoin⟩ <;> rw [hjoin]
  rw [length_keep, length_keep]

theorem length_run_addEdge (es : List Edge) (b : Builder) :
    (b.run (es.map .addEdge)).entries.length = b.entries.length := by
  induction es generalizing b with
  | nil => rfl
  | cons e es ih =>
    rw [List.map_cons, run, ih, length_perform_addEdge]

/-- Edges between entries that are there are all accepted. -/
theorem accepted_addEdge {es : List Edge} {b : Builder}
    (h : ∀ e ∈ es, e.source < b.entries.length ∧ e.target < b.entries.length) :
    b.accepted (es.map .addEdge) = es := by
  induction es generalizing b with
  | nil => rfl
  | cons e es ih =>
    obtain ⟨⟨hsource, htarget⟩, hrest⟩ := List.forall_mem_cons.mp h
    rw [List.map_cons, accepted, (addEdge_of_lt hsource htarget).2, ih]
    · rfl
    · rwa [length_perform_addEdge]

/-- Keeping an edge at one end leaves alone what is kept in the other direction, and at the other
entries. -/
theorem links_keep {b : Builder} {d : Direction} {e : Edge} {id : Nat} {x : Entry}
    (h : (b.keep d e).entries[id]? = some x) :
    ∃ y, b.entries[id]? = some y ∧ ∀ d',
      x.links d' = y.links d' ++ if d = d' ∧ e.near d = id then [e.link d] else [] := by
  obtain ⟨y, hy, rfl⟩ := getElem?_keep h
  refine ⟨y, hy, fun d' => ?_⟩
  by_cases hnear : e.near d = id
  · rw [if_pos hnear]
    by_cases hd : d = d'
    · subst hd
      simp [hnear]
    · simp [Entry.links_addLink_of_ne hd, hd]
  · simp [hnear]

/-- Of an edge that is kept at both ends, an entry keeps what is followed from it. -/
theorem links_keep_keep {b : Builder} {e : Edge} {id : Nat} {x : Entry}
    (h : ((b.keep .canPwn e).keep .pwnableBy e).entries[id]? = some x) :
    ∃ y, b.entries[id]? = some y ∧ ∀ d,
      x.links d = y.links d ++ (edgesFrom d id [e]).map (Edge.link d) := by
  obtain ⟨z, hz, hxz⟩ := links_keep h
  obtain ⟨y, hy, hzy⟩ := links_keep hz
  refine ⟨y, hy, fun d => ?_⟩
  rw [hxz, hzy]
  by_cases hnear : e.near d = id <;> cases d <;> simp [edgesFrom, hnear]

/-- A new entry has no edges. -/
theorem links_add (b : Builder) (draft : Draft) (spare : Guid) :
    ∃ x, (b.add draft spare).2.entries = b.entries ++ [x] ∧ ∀ d, x.links d = [] :=
  ⟨_, rfl, fun d => by cases d <;> rfl⟩

theorem Recorded.add {b : Builder} {es : List Edge} (h : b.Recorded es) (draft : Draft)
    (spare : Guid) : (b.add draft spare).2.Recorded es := by
  obtain ⟨new, hentries, hnew⟩ := b.links_add draft spare
  constructor
  · intro e he d
    rw [hentries, List.length_append]
    exact Nat.lt_add_right 1 (h.ends e he d)
  · intro id x hx d
    rw [hentries, List.getElem?_append] at hx
    split at hx
    · exact h.links hx d
    · -- no edge was accepted for a number that no entry had
      next hid =>
        obtain rfl := List.mem_singleton.mp (List.mem_of_getElem? hx)
        have hnone : ∀ e ∈ es, e.near d ≠ id := by
          rintro e he rfl
          exact hid (h.ends e he d)
        rw [hnew, edgesFrom_eq_nil hnone, List.map_nil]

theorem Recorded.join {b : Builder} {es : List Edge} (h : b.Recorded es) {e : Edge}
    (hsource : e.source < b.entries.length) (htarget : e.target < b.entries.length) :
    ((b.keep .canPwn e).keep .pwnableBy e).Recorded (es ++ [e]) := by
  constructor
  · intro e' he' d
    rw [length_keep, length_keep]
    rcases List.mem_append.mp he' with he' | he'
    · exact h.ends e' he' d
    · obtain rfl := List.mem_singleton.mp he'
      cases d
      · exact hsource
      · exact htarget
  · intro id x hx d
    obtain ⟨y, hy, hxy⟩ := links_keep_keep hx
    rw [hxy, h.links hy, edgesFrom_append, List.map_append]

/-- A call that is granted an edge has it kept, any other leaves the edges as they are. -/
theorem Recorded.perform {b : Builder} {es : List Edge} (h : b.Recorded es) (call : Call) :
    (b.perform call).Recorded (es ++ b.granted call) := by
  cases call with
  | markIndexed name =>
    have hnone : b.granted (.markIndexed name) = [] := rfl
    rw [hnone, List.append_nil]
    exact ⟨h.ends, h.links⟩
  | add draft spare =>
    have hnone : b.granted (.add draft spare) = [] := rfl
    rw [hnone, List.append_nil]
    exact h.add draft spare
  | addEdge e =>
    rw [Builder.perform, granted]
    rcases b.join_cases e with ⟨-, hjoin⟩ | ⟨-, -, hjoin⟩ | ⟨hsource, htarget, hjoin⟩
    · rw [hjoin, List.append_nil]
      exact h
    · rw [hjoin, List.append_nil]
      exact h
    · rw [hjoin]
      exact h.join hsource htarget

theorem Recorded.run {b : Builder} {es : List Edge} (h : b.Recorded es) (calls : List Call) :
    (b.run calls).Recorded (es ++ b.accepted calls) := by
  induction calls generalizing b es with
  | nil =>
    rw [accepted, List.append_nil]
    exact h
  | cons call rest ih =>
    rw [Builder.run, accepted, ← List.append_assoc]
    exact ih (h.perform call)

theorem recorded_nil (r : Registry) : Recorded { registry := r } [] :=
  ⟨List.forall_mem_nil _, fun hx => by simp at hx⟩

theorem recorded_run (r : Registry) (calls : List Call) :
    (run { registry := r } calls).Recorded (accepted { registry := r } calls) :=
  (recorded_nil r).run calls

namespace Recorded

variable {b : Builder} {es : List Edge}

theorem far_lt (h : b.Recorded es) {x : Entry} (hx : x ∈ b.entries) {d : Direction} {l : Link}
    (hl : l ∈ x.links d) : l.far < b.entries.length := by
  obtain ⟨id, hid⟩ := List.mem_iff_getElem?.mp hx
  rw [h.links hid] at hl
  obtain ⟨e, he, rfl⟩ := List.mem_map.mp hl
  have hmem : e ∈ es := (List.mem_filter.mp he).1
  cases d
  · exact h.ends e hmem .pwnableBy
  · exact h.ends e hmem .canPwn

/-- The finished store keeps the edges, and all of them can be followed in it. -/
theorem edgesAt (h : b.Recorded es) {s : Store} (hs : b.build = .ok s) (d : Direction) (id : Nat) :
    s.edgesAt d id = edgesFrom d id es := by
  obtain ⟨hentries, -⟩ := build_eq_ok hs
  rw [Store.edgesAt, entry?, hentries]
  split
  · next x hx => rw [h.links hx, map_edge_edgesFrom]
  · next hx =>
    refine (edgesFrom_eq_nil fun e he hnear => ?_).symm
    exact Nat.not_lt.mpr (List.getElem?_eq_none_iff.mp hx) (hnear ▸ h.ends e he d)

end Recorded

/-- **Agreement of both ends.** The edges kept at both ends are those of the calls that were not
refused, as often and in the same order. A call that names an unknown entry is refused for the first
one that it names and changes nothing. The finished store keeps the edges. -/
theorem edges_agree (r : Registry) (calls : List Call) :
    let b := run { registry := r } calls
    let es := accepted { registry := r } calls
    (∀ (i : Nat) (x : Entry), b.entries[i]? = some x →
      ∀ d, x.links d = (edgesFrom d i es).map (Edge.link d)) ∧
    (∀ (i j : Nat) (x y : Entry) (m : AttackMethod),
      b.entries[i]? = some x → b.entries[j]? = some y →
        x.canPwn.count ⟨j, m⟩ = es.count ⟨i, j, m⟩ ∧
          y.pwnableBy.count ⟨i, m⟩ = es.count ⟨i, j, m⟩) ∧
    (∀ x ∈ b.entries, ∀ d, ∀ l ∈ x.links d, l.far < b.entries.length) ∧
    (∀ e : Edge,
      (b.entries.length ≤ e.source → b.join e = (.error (.unknownEntry e.source), b)) ∧
      (e.source < b.entries.length → b.entries.length ≤ e.target →
        b.join e = (.error (.unknownEntry e.target), b)) ∧
      (e.source < b.entries.length → e.target < b.entries.length → (b.join e).1 = .ok ())) ∧
    (∀ s, b.build = .ok s →
      s.entries = b.entries ∧ ∀ d id, s.edgesAt d id = edgesFrom d id es) := by
  intro b es
  have h : b.Recorded es := recorded_run r calls
  refine ⟨fun i x hx => h.links hx, ?_, fun x hx d l hl => h.far_lt hx hl, ?_,
    fun s hs => ⟨(build_eq_ok hs).1, h.edgesAt hs⟩⟩
  · intro i j x y m hx hy
    have hstart : x.canPwn = (edgesFrom .canPwn i es).map (Edge.link .canPwn) :=
      h.links hx .canPwn
    have hend : y.pwnableBy = (edgesFrom .pwnableBy j es).map (Edge.link .pwnableBy) :=
      h.links hy .pwnableBy
    rw [hstart, hend]
    exact ⟨count_link_edgesFrom es ⟨j, m⟩, count_link_edgesFrom es ⟨i, m⟩⟩
  · refine fun e => ⟨fun hsource => if_pos hsource, fun hsource htarget => ?_,
      fun hsource htarget => ?_⟩
    · rw [join, if_neg (Nat.not_le.mpr hsource), if_pos htarget]
    · rw [join, if_neg (Nat.not_le.mpr hsource), if_neg (Nat.not_le.mpr htarget)]

/-- Two entries with an edge given twice, an edge from an entry to itself, and two refused ones. -/
def entangled : List Call :=
  [.add ⟨"CN=1", some ⟨1⟩, none, []⟩ ⟨0⟩, .addEdge ⟨0, 1, .owns⟩,
   .add ⟨"CN=2", some ⟨2⟩, none, []⟩ ⟨0⟩, .addEdge ⟨0, 1, .owns⟩, .addEdge ⟨1, 1, .owns⟩,
   .addEdge ⟨7, 8, .owns⟩, .addEdge ⟨0, 1, .owns⟩]

theorem edges_agree_entangled :
    ∃ x y s, (run { registry := .empty } entangled).entries = [x, y] ∧
      (run { registry := .empty } entangled).build = .ok s ∧
      x.canPwn.count ⟨1, .owns⟩ = 2 ∧ y.pwnableBy.count ⟨0, .owns⟩ = 2 ∧
      y.canPwn.count ⟨1, .owns⟩ = 1 ∧
      (run { registry := .empty } entangled).join ⟨7, 8, .owns⟩ =
        (.error (.unknownEntry 7), run { registry := .empty } entangled) ∧
      s.edgesAt .pwnableBy 1 = [⟨0, 1, .owns⟩, ⟨1, 1, .owns⟩, ⟨0, 1, .owns⟩] := by
  obtain ⟨-, hcount, -, hjoin, hbuild⟩ := edges_agree .empty entangled
  have hbuilt : (run { registry := .empty } entangled).build = .ok _ := rfl
  have haccepted : accepted { registry := .empty } entangled =
      [⟨0, 1, .owns⟩, ⟨1, 1, .owns⟩, ⟨0, 1, .owns⟩] := by decide +kernel
  rw [haccepted] at hcount hbuild
  exact ⟨_, _, _, rfl, hbuilt, (hcount 0 1 _ _ .owns rfl rfl).1, (hcount 0 1 _ _ .owns rfl rfl).2,
    (hcount 1 1 _ _ .owns rfl rfl).1, (hjoin ⟨7, 8, .owns⟩).1 (by decide +kernel),
    (hbuild _ hbuilt).2 .pwnableBy 1⟩

end Builder

end Store

end Directory
