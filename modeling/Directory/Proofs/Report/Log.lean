import Directory.Proofs.Json
import Directory.Report.Log

/-!
# Records and lines of the log

What is logged may hold any characters, also those that end a line or a string literal. The line of
a record holds none of these but its own, so that it is one line, and it is read as a JSON object
with the members of the record.

- `Log.spells_writeChar`: what is written for a character spells it.
- `Log.Arranged`: whether fields are those of a record, sorted by key and otherwise in their order.
- `Log.mem_utf8EncodeChar_newline`: the byte of a line feed occurs in no other character.
- `Log.Record.written_decodes`: a record is written as one line and read back.
-/

namespace Directory.Log

/-! ## Characters -/

/-- What is written for a character spells it. -/
theorem spells_writeChar (c : Char) : Json.Spells (writeChar c) c := by
  unfold writeChar
  split
  · exact Json.spells_escape rfl
  · exact Json.spells_escape rfl
  · exact Json.spells_escape rfl
  · exact Json.spells_escape rfl
  · exact Json.spells_escape rfl
  · rename_i hquote hbackslash _ _ _
    split
    · rename_i hcontrol
      have hlt : c.toNat < 256 := by
        simp only [isControl, Bool.or_eq_true, Bool.and_eq_true, decide_eq_true_eq] at hcontrol
        omega
      exact Json.spells_digits hlt
    · rename_i hcontrol
      refine Json.spells_self hquote hbackslash fun hlt => hcontrol ?_
      simp [isControl, hlt]

theorem newline_ne_digitChar : ∀ d < 16, '\n' ≠ Nat.digitChar d := by
  decide

theorem newline_not_mem_writeChar (c : Char) : '\n' ∉ writeChar c := by
  unfold writeChar
  split
  · decide
  · decide
  · decide
  · decide
  · decide
  · rename_i hnewline _ _
    split
    · rename_i hcontrol
      have hlt : c.toNat < 256 := by
        simp only [isControl, Bool.or_eq_true, Bool.and_eq_true, decide_eq_true_eq] at hcontrol
        omega
      have hhigh := newline_ne_digitChar (c.toNat / 16) (by omega)
      have hlow := newline_ne_digitChar (c.toNat % 16) (by omega)
      simp [controlEscape, hhigh, hlow]
    · exact fun h => hnewline (List.mem_singleton.mp h).symm

/-- The byte of a line feed occurs in no other character. -/
theorem mem_utf8EncodeChar_newline {c : Char} (h : 10 ∈ String.utf8EncodeChar c) : c = '\n' := by
  -- the bytes of a character beyond 127 are all greater than that
  have hbyte : ∀ n, 128 ≤ n → n < 256 → (10 : UInt8) ≠ UInt8.ofNat n := by
    intro n hle hlt heq
    have hn := congrArg UInt8.toNat heq
    rw [UInt8.toNat_ofNat_of_lt' hlt] at hn
    exact absurd (hn.symm ▸ hle) (by decide)
  rw [String.utf8EncodeChar] at h
  split at h
  · rename_i hle
    have hn := congrArg UInt8.toNat (List.mem_singleton.mp h)
    rw [UInt8.toNat_ofNat_of_lt' (Nat.lt_of_le_of_lt hle (by decide))] at hn
    exact Char.toNat_inj.mp hn.symm
  · exfalso
    split at h
    · simp only [List.mem_cons, List.not_mem_nil, or_false] at h
      rcases h with h | h <;> exact hbyte _ (by omega) (by omega) h
    · split at h
      · simp only [List.mem_cons, List.not_mem_nil, or_false] at h
        rcases h with h | h | h <;> exact hbyte _ (by omega) (by omega) h
      · simp only [List.mem_cons, List.not_mem_nil, or_false] at h
        rcases h with h | h | h | h <;> exact hbyte _ (by omega) (by omega) h

/-! ## Sorted fields -/

/-- Whether fields are some others sorted by key, where those with one key keep their order. -/
structure Arranged (fields sorted : List (String × String)) : Prop where
  /-- Keys ascend. -/
  ascending : sorted.Pairwise fun f g => f.1 ≤ g.1
  /-- Nothing is lost and nothing is added. -/
  perm : sorted.Perm fields
  /-- Fields with one key keep their order. -/
  stable : ∀ key, sorted.filter (·.1 = key) = fields.filter (·.1 = key)

theorem arranged_mergeSort (fields : List (String × String)) :
    Arranged fields (fields.mergeSort fun f g => f.1 ≤ g.1) := by
  have htrans : ∀ f g h : String × String, decide (f.1 ≤ g.1) = true → decide (g.1 ≤ h.1) = true →
      decide (f.1 ≤ h.1) = true := by
    simp only [decide_eq_true_eq]
    exact fun f g h => String.le_trans
  have htotal : ∀ f g : String × String, (decide (f.1 ≤ g.1) || decide (g.1 ≤ f.1)) = true := by
    simp only [Bool.or_eq_true, decide_eq_true_eq]
    exact fun f g => String.le_total f.1 g.1
  have hperm := List.mergeSort_perm fields fun f g => decide (f.1 ≤ g.1)
  have hsorted := List.pairwise_mergeSort htrans htotal fields
  refine ⟨hsorted.imp of_decide_eq_true, hperm, fun key => ?_⟩
  have hkeys : (fields.filter (·.1 = key)).Pairwise fun f g => decide (f.1 ≤ g.1) = true := by
    refine List.pairwise_of_forall_mem_list fun f hf g hg => ?_
    have hf := of_decide_eq_true (List.mem_filter.mp hf).2
    have hg := of_decide_eq_true (List.mem_filter.mp hg).2
    rw [hf, hg]
    exact decide_eq_true (String.le_refl key)
  have hsublist := (List.sublist_mergeSort htrans htotal hkeys List.filter_sublist).filter
    fun f => decide (f.1 = key)
  rw [List.filter_filter] at hsublist
  simp only [Bool.and_self] at hsublist
  exact (hsublist.eq_of_length (hperm.filter _).length_eq.symm).symm

/-! ## Records -/

namespace Record

theorem line_eq (r : Record) :
    r.line = '\x7b' :: Json.literalMembers writeChar r.members ++ ['\x7d'] := rfl

theorem newline_not_mem_line (r : Record) : '\n' ∉ r.line := by
  have hmembers := Json.not_mem_literalMembers newline_not_mem_writeChar (by decide) r.members
  rw [line_eq]
  simp [hmembers]

/-- A line is read as the members of its record. -/
theorem read?_written (r : Record) :
    Json.read? r.written =
      some (.record (r.members.map fun m => (some m.1, .text (some m.2)))) := by
  have hfuel : r.members.length < 2 * (r.line ++ ['\n']).length := by
    have hle := Json.length_le_literalMembers writeChar r.members
    rw [line_eq]
    simp only [List.length_append, List.length_cons]
    omega
  have hne : r.members ≠ [] := List.cons_ne_nil _ _
  have hvalue := Json.value?_literalMembers spells_writeChar hne hfuel ['\n']
  have hline : r.line ++ ['\n'] =
      '\x7b' :: Json.literalMembers writeChar r.members ++ '\x7d' :: ['\n'] := by
    rw [line_eq, List.append_assoc]
    rfl
  rw [← hline] at hvalue
  rw [Json.read?, written, String.toList_ofList, hvalue]
  rfl

/-- **A record is a line.** Whatever is logged, the bytes written for a record end with the only
line feed among them. They are read as a JSON object of the event, the severity and the fields,
sorted by key and otherwise in their order, with the texts that were logged. -/
theorem written_decodes (r : Record) :
    (∃ bytes : List UInt8, r.written.toUTF8 = (bytes ++ [10]).toByteArray ∧ 10 ∉ bytes) ∧
    ∃ sorted, Arranged r.fields sorted ∧
      Json.read? r.written = some (.record
        ((some "event", .text (some r.event)) ::
          (some "severity", .text (some r.severity.name)) ::
          sorted.map fun f => (some f.1, .text (some f.2)))) := by
  refine ⟨⟨r.line.flatMap String.utf8EncodeChar, ?_, fun h => ?_⟩, _,
    arranged_mergeSort r.fields, r.read?_written⟩
  · rw [written, String.toUTF8, String.toByteArray_ofList, List.utf8Encode, List.flatMap_append]
    rfl
  · obtain ⟨c, hc, hbyte⟩ := List.mem_flatMap.mp h
    exact r.newline_not_mem_line (mem_utf8EncodeChar_newline hbyte ▸ hc)

end Record

end Directory.Log
