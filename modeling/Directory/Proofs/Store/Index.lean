import Directory.Store.Basic

/-!
# What an index holds

The index of an attribute lists, under each folded text, exactly the entries that have a value which
folds to it. Entries are entered in ascending order, so each insertion puts the number at the end.

- `Entry.holds`: whether an entry has a value that folds to a key.
- `Store.holders`: the numbers of the entries that do.
- `Store.Indexed`: every index of a store lists exactly these. `Store.Builder.indexed_of_build`:
  finished stores are so.
-/

namespace Directory

open Text (lower)

/-- Whether a value of the attribute is spelt like the folded text `key` up to letter case. -/
def Entry.holds (a : Attribute) (key : String) (e : Entry) : Bool :=
  (e.renderedOf a).any (lower · == key)

/-- The numbers of those among the entries, numbered from `id` on, that hold the key. -/
def Store.holders (a : Attribute) (key : String) (id : Nat) (entries : List Entry) : List Nat :=
  ((entries.zipIdx id).filter fun p => p.1.holds a key).map (·.2)

namespace IdSet

theorem insertInto_ne_nil (id : Nat) (l : List Nat) : insertInto id l ≠ [] := by
  cases l with
  | nil => exact List.cons_ne_nil _ _
  | cons x xs =>
    rw [insertInto]
    split
    · exact List.cons_ne_nil _ _
    · split
      · exact List.cons_ne_nil _ _
      · exact List.cons_ne_nil _ _

theorem insertInto_insertInto (id : Nat) (l : List Nat) :
    insertInto id (insertInto id l) = insertInto id l := by
  induction l with
  | nil => simp [insertInto]
  | cons x xs ih =>
    by_cases hlt : id < x
    · simp [insertInto, hlt]
    · by_cases heq : id = x
      · simp [insertInto, heq]
      · simp [insertInto, hlt, heq, ih]

@[simp] theorem insert_insert (s : IdSet) (id : Nat) : (s.insert id).insert id = s.insert id := by
  rw [insert, insert, insertInto_insertInto]

/-- A number above all members goes to the end. -/
theorem insertInto_of_lt {id : Nat} {l : List Nat} (h : ∀ x ∈ l, x < id) :
    insertInto id l = l ++ [id] := by
  induction l with
  | nil => rfl
  | cons x xs ih =>
    have hx : x < id := h x List.mem_cons_self
    rw [insertInto, if_neg (Nat.not_lt.mpr (Nat.le_of_lt hx)), if_neg (Nat.ne_of_gt hx),
      ih fun y hy => h y (List.mem_cons_of_mem _ hy)]
    rfl

end IdSet

namespace Index

/-- The numbers under a folded key. -/
def ids (x : Index) (key : String) : List Nat :=
  ((x.keys.lookup key).getD {}).ids

/-- No key stands over an empty set. -/
def Inhabited (x : Index) : Prop :=
  ∀ key s, x.keys.lookup key = some s → s.ids ≠ []

theorem lookup_insertUnder (key k : String) (id : Nat) (keys : List (String × IdSet)) :
    (insertUnder key id keys).lookup k =
      if k = key then some (((keys.lookup key).getD {}).insert id) else keys.lookup k := by
  induction keys with
  | nil =>
    by_cases h : k = key
    · simp [insertUnder, h]
    · simp [insertUnder, List.lookup_cons, h, beq_eq_false_iff_ne.mpr h]
  | cons p rest ih =>
    obtain ⟨l, s⟩ := p
    by_cases hl : l = key
    · subst hl
      by_cases h : k = l
      · simp [insertUnder, h]
      · simp [insertUnder, List.lookup_cons, h, beq_eq_false_iff_ne.mpr h]
    · rw [insertUnder, if_neg hl, List.lookup_cons, List.lookup_cons, ih]
      by_cases h : k = l
      · subst h
        simp [hl]
      · simp [List.lookup_cons, beq_eq_false_iff_ne.mpr h, beq_eq_false_iff_ne.mpr (Ne.symm hl)]

/-- Entering all values of one entry puts its number under the keys that it holds. -/
theorem lookup_foldl_insert (key : String) (id : Nat) (values : List String) (x : Index) :
    (values.foldl (fun x v => x.insert v id) x).keys.lookup key =
      if values.any (lower · == key) then some (((x.keys.lookup key).getD {}).insert id)
      else x.keys.lookup key := by
  induction values generalizing x with
  | nil => rfl
  | cons v values ih =>
    rw [List.foldl_cons, ih, List.any_cons, insert, lookup_insertUnder]
    by_cases h : key = lower v
    · subst h
      simp
    · rw [if_neg h, beq_eq_false_iff_ne.mpr (Ne.symm h), Bool.false_or]

theorem find?_eq_none_iff {x : Index} (hx : x.Inhabited) (value : String) :
    x.find? value = none ↔ x.ids (lower value) = [] := by
  rw [find?, ids]
  cases h : x.keys.lookup (lower value) with
  | none => simp
  | some s => simpa using hx _ s h

theorem cardinality_eq (x : Index) (value : String) :
    x.cardinality value = (x.ids (lower value)).length := by
  rw [cardinality, find?, ids]
  cases x.keys.lookup (lower value) <;> rfl

end Index

namespace Store

theorem holders_cons (a : Attribute) (key : String) (id : Nat) (e : Entry) (rest : List Entry) :
    holders a key id (e :: rest) =
      (if e.holds a key then [id] else []) ++ holders a key (id + 1) rest := by
  rw [holders, List.zipIdx_cons, List.filter_cons]
  split <;> rfl

/-- Whether every index lists, under each key, the entries that hold it, and under no key none. -/
def Indexed (s : Store) : Prop :=
  ∀ {a x}, s.index? a = some x → x.Inhabited ∧ ∀ key, x.ids key = holders a key 0 s.entries

namespace Builder

/-- Entering further entries puts those that hold the key behind the numbers under it. -/
theorem ids_indexFrom {a : Attribute} {key : String} :
    ∀ {entries : List Entry} {x : Index} {id : Nat}, (∀ i ∈ x.ids key, i < id) →
      (indexFrom a x id entries).ids key = x.ids key ++ holders a key id entries
  | [], x, id, _ => by rw [indexFrom, holders, List.zipIdx_nil]; simp
  | e :: rest, x, id, h => by
    have hids : (((e.renderedOf a).foldl (fun x v => x.insert v id) x).ids key) =
        x.ids key ++ if e.holds a key then [id] else [] := by
      rw [Index.ids, Index.lookup_foldl_insert]
      show _ = _ ++ if (e.renderedOf a).any (lower · == key) then [id] else []
      split
      · exact IdSet.insertInto_of_lt h
      · rw [List.append_nil]
        rfl
    rw [indexFrom, ids_indexFrom, hids, holders_cons, List.append_assoc]
    intro i hi
    rw [hids] at hi
    rcases List.mem_append.mp hi with hi | hi
    · exact Nat.lt_succ_of_lt (h i hi)
    · split at hi
      · rw [List.mem_singleton.mp hi]
        exact Nat.lt_succ_self _
      · exact absurd hi List.not_mem_nil

theorem inhabited_indexFrom {a : Attribute} :
    ∀ {entries : List Entry} {x : Index} {id : Nat}, x.Inhabited →
      (indexFrom a x id entries).Inhabited
  | [], _, _, h => h
  | e :: rest, x, id, h => by
    rw [indexFrom]
    refine inhabited_indexFrom fun key s hs => ?_
    rw [Index.lookup_foldl_insert] at hs
    split at hs
    · rw [← Option.some.inj hs]
      exact IdSet.insertInto_ne_nil _ _
    · exact h key s hs

theorem lookup_map_self {β : Type} (f : Attribute → β) (a : Attribute) (l : List Attribute) :
    (l.map fun b => (b, f b)).lookup a = if a ∈ l then some (f a) else none := by
  induction l with
  | nil => rfl
  | cons b l ih =>
    rw [List.map_cons, List.lookup_cons, ih]
    by_cases h : a = b
    · simp [h]
    · rw [beq_eq_false_iff_ne.mpr h]
      simp [h]

section Names

variable {names : Numbering} {keys : List String} (h : names.Of keys) {dn : String}
include h

theorem numberNames_of_known (hdn : lower dn ∈ keys) (id : Nat) (rest : List String) :
    numberNames names id (dn :: rest) = .error (.duplicateName dn) := by
  rw [numberNames]
  exact if_pos (h.isSome_lookup_iff.mpr hdn)

theorem numberNames_of_new (hdn : lower dn ∉ keys) (id : Nat) (rest : List String) :
    numberNames names id (dn :: rest) = numberNames ((lower dn, id) :: names) (id + 1) rest := by
  rw [numberNames]
  exact if_neg (mt h.isSome_lookup_iff.mp hdn)

/-- The table that comes out leads from each name to its entry. -/
theorem numberNames_eq_ok {t : Numbering} (dns : List String)
    (ht : numberNames names keys.length dns = .ok t) : t.Of (keys ++ dns.map lower) := by
  induction dns generalizing names keys with
  | nil =>
    rw [← Except.ok.inj ht, List.map_nil, List.append_nil]
    exact h
  | cons dn rest ih =>
    by_cases hdn : lower dn ∈ keys
    · rw [numberNames_of_known h hdn] at ht
      exact nomatch ht
    · rw [numberNames_of_new h hdn] at ht
      have hconcat := h.concat (h.lookup_eq_none_iff.mpr hdn)
      have hof := ih hconcat (by rwa [List.length_append])
      rwa [List.append_assoc] at hof

variable (hkeys : keys.Nodup)
include hkeys

theorem exists_numberNames_iff (dns : List String) :
    (∃ t, numberNames names keys.length dns = .ok t) ↔ (keys ++ dns.map lower).Nodup := by
  induction dns generalizing names keys with
  | nil =>
    rw [List.map_nil, List.append_nil]
    exact ⟨fun _ => hkeys, fun _ => ⟨names, rfl⟩⟩
  | cons dn rest ih =>
    by_cases hdn : lower dn ∈ keys
    · rw [numberNames_of_known h hdn]
      constructor
      · rintro ⟨t, ht⟩
        exact nomatch ht
      · intro hnodup
        exact absurd rfl ((List.nodup_append.mp hnodup).2.2 _ hdn _ List.mem_cons_self)
    · rw [numberNames_of_new h hdn]
      have hconcat := h.concat (h.lookup_eq_none_iff.mpr hdn)
      have hiff := ih hconcat (Numbering.nodup_concat hkeys hdn)
      rwa [List.length_append, List.append_assoc] at hiff

/-- The name that is refused is the first that, folded, is there already. -/
theorem numberNames_eq_error {err : Error} (dns : List String) :
    numberNames names keys.length dns = .error err ↔
      ∃ before dn after, dns = before ++ dn :: after ∧ (keys ++ before.map lower).Nodup ∧
        lower dn ∈ keys ++ before.map lower ∧ err = .duplicateName dn := by
  induction dns generalizing names keys with
  | nil => simp [numberNames]
  | cons dn rest ih =>
    by_cases hdn : lower dn ∈ keys
    · rw [numberNames_of_known h hdn]
      constructor
      · rintro ⟨⟩
        refine ⟨[], dn, rest, rfl, ?_, ?_, rfl⟩
        · rwa [List.map_nil, List.append_nil]
        · exact List.mem_append_left _ hdn
      · rintro ⟨before, dn', after, heq, hnodup, -, rfl⟩
        cases before with
        | nil => rw [(List.cons.inj heq).1]
        | cons other before =>
          obtain ⟨rfl, -⟩ := List.cons.inj heq
          exact absurd rfl ((List.nodup_append.mp hnodup).2.2 _ hdn _ List.mem_cons_self)
    · rw [numberNames_of_new h hdn]
      have hconcat := h.concat (h.lookup_eq_none_iff.mpr hdn)
      have hiff := ih hconcat (Numbering.nodup_concat hkeys hdn)
      rw [List.length_append] at hiff
      rw [show keys.length + 1 = keys.length + [lower dn].length from rfl, hiff]
      constructor
      · rintro ⟨before, dn', after, rfl, hnodup, hmem, herr⟩
        rw [List.append_assoc] at hnodup hmem
        exact ⟨dn :: before, dn', after, rfl, hnodup, hmem, herr⟩
      · rintro ⟨before, dn', after, heq, hnodup, hmem, herr⟩
        cases before with
        | nil =>
          obtain ⟨rfl, -⟩ := List.cons.inj heq
          rw [List.map_nil, List.append_nil] at hmem
          exact absurd hmem hdn
        | cons other before =>
          obtain ⟨rfl, rfl⟩ := List.cons.inj heq
          rw [List.map_cons, List.append_cons] at hnodup hmem
          exact ⟨before, dn', after, rfl, hnodup, hmem, herr⟩

end Names

/-- A store is finished with a table of the names and one index for each attribute flagged by then. -/
theorem build_eq_ok {b : Builder} {s : Store} (h : b.build = .ok s) :
    s.entries = b.entries ∧ s.size = b.entries.length ∧ s.registry = b.registry ∧
      ∀ a, s.index? a =
        if a ∈ b.registry.indexed then some (indexFrom a {} 0 b.entries) else none := by
  rw [build] at h
  split at h
  · exact nomatch h
  · obtain rfl := Except.ok.inj h
    exact ⟨rfl, rfl, rfl, fun a => lookup_map_self _ a _⟩

/-- In a finished store each name leads to the first entry that has it, in any letter case. -/
theorem names_of_build {b : Builder} {s : Store} (h : b.build = .ok s) :
    s.names.Of (s.entries.map fun e => lower e.dn) := by
  rw [build] at h
  split at h
  · exact nomatch h
  · rename_i names hnames
    obtain rfl := Except.ok.inj h
    have hof := numberNames_eq_ok Numbering.of_nil _ hnames
    rwa [List.map_map, List.nil_append] at hof

/-- A store can be finished exactly if its names differ in more than letter case. -/
theorem exists_build_iff {b : Builder} :
    (∃ s, b.build = .ok s) ↔ (b.entries.map fun e => lower e.dn).Nodup := by
  have hnames := exists_numberNames_iff Numbering.of_nil List.nodup_nil (b.entries.map Entry.dn)
  rw [List.map_map, List.nil_append] at hnames
  refine Iff.trans ?_ hnames
  rw [build]
  cases numberNames [] 0 (b.entries.map Entry.dn) <;> simp

/-- The indexes of a finished store are sound and complete. -/
theorem indexed_of_build {b : Builder} {s : Store} (h : b.build = .ok s) : s.Indexed := by
  intro a x hx
  obtain ⟨hentries, -, -, hindex⟩ := build_eq_ok h
  rw [hindex] at hx
  split at hx
  · rw [← Option.some.inj hx, hentries]
    have hempty : Index.Inhabited {} := fun key s hs => absurd hs (by simp)
    refine ⟨inhabited_indexFrom hempty, fun key => ?_⟩
    rw [ids_indexFrom fun i hi => absurd hi List.not_mem_nil]
    rfl
  · exact absurd hx (by simp)

end Builder

end Store

end Directory
