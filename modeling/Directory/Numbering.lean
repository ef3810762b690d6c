/-!
# Numbers under keys

Attributes and entries are numbered in the order in which they turn up and found by their names. A
table leads from a name, folded, to the number.

- `Numbering`: such a table.
- `Numbering.Of`: the numbers are the positions of the keys in a list.
- `Numbering.Of.concat`: they still are after a new key goes to the end of the list and into the
  table.
- `Numbering.Of.lookup_eq_some_iff`: among different keys the table leads to where the key stands.
-/

namespace Directory

/-- A table that leads from keys to numbers. Of two numbers under one key the first counts, so what
is put in goes to the front. -/
abbrev Numbering := List (String × Nat)

namespace Numbering

/-- Whether a table leads from each key of a list to its first position, and from nowhere else. -/
def Of (t : Numbering) (keys : List String) : Prop :=
  ∀ key, t.lookup key = keys.idxOf? key

theorem of_nil : Of [] [] :=
  fun _ => rfl

variable {t : Numbering} {keys : List String} {key : String}

/-- Nothing stands under the keys that are not in the list. -/
theorem Of.lookup_eq_none_iff (h : t.Of keys) : t.lookup key = none ↔ key ∉ keys := by
  rw [h key, List.idxOf?_eq_none_iff]

theorem Of.isSome_lookup_iff (h : t.Of keys) : (t.lookup key).isSome ↔ key ∈ keys := by
  rw [h key, List.isSome_idxOf?]

/-- A key that is new goes to the end of the list. -/
theorem Of.concat (h : t.Of keys) (hnew : t.lookup key = none) :
    Of ((key, keys.length) :: t) (keys ++ [key]) := by
  intro k
  rw [List.lookup_cons, List.idxOf?, List.findIdx?_append, List.findIdx?_singleton, ← List.idxOf?,
    ← h k]
  by_cases hk : k = key
  · subst hk
    simp [hnew]
  · rw [beq_eq_false_iff_ne.mpr hk]
    simp [Ne.symm hk]

/-- Among different keys a search finds the only place of a key. -/
theorem idxOf?_eq_some_iff_getElem? (h : keys.Nodup) {i : Nat} :
    keys.idxOf? key = some i ↔ keys[i]? = some key := by
  rw [List.idxOf?_eq_some_iff, List.getElem?_eq_some_iff]
  refine exists_congr fun hlt => and_iff_left_of_imp fun hkey j hj heq => ?_
  exact Nat.ne_of_lt hj ((List.getElem_inj h).mp (heq.trans hkey.symm))

theorem Of.lookup_eq_some_iff (h : t.Of keys) (hkeys : keys.Nodup) {i : Nat} :
    t.lookup key = some i ↔ keys[i]? = some key := by
  rw [h key, idxOf?_eq_some_iff_getElem? hkeys]

theorem nodup_concat (h : keys.Nodup) (hnew : key ∉ keys) : (keys ++ [key]).Nodup := by
  refine List.nodup_append.mpr ⟨h, List.pairwise_singleton _ _, fun k hk k' hk' heq => ?_⟩
  rw [List.mem_singleton.mp hk'] at heq
  exact hnew (heq ▸ hk)

end Numbering

end Directory
