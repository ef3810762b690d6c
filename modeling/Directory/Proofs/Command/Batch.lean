import Directory.Command.Batch
import Directory.Proofs.Query.Session
import Mathlib.Algebra.GroupWithZero.Nat

/-!
# What batches put out

A batch puts out some lines about each text, and then the metrics. The metrics count the summaries
and rejections among the lines and add up what the summaries say. How many entries are shown of each
answer changes nothing else.

- `Command.said`: the lines about a text, given what comes of it.
- `Command.runAll_append`: the lines of a batch are those of its texts.
- `Command.Told`: what the lines about a text are.
- `Command.Tallies`: metrics count some lines. One more text keeps it so (`tallies_respond`), hence
  a batch does (`tallies_after`).
- `Command.runAll_adds_up`: all of this about a batch.
-/

namespace Directory.Command

open Directory.Filter (Rejection)
open Query (Session Result)

/-! ## Lines about texts -/

/-- The lines about a text, given what comes of it. -/
def said (cap : Option Nat) (s : Store) (text : String) : Except Rejection Result → List Line
  | .error e => [.rejection e]
  | .ok x => answerLines cap s text x

/-- The lines about several texts. -/
def blocks (cap : Option Nat) (s : Store) (l : List (String × Except Rejection Result)) :
    List (List Line) :=
  l.map fun p => said cap s p.1 p.2

/-- The records of several texts. -/
def records [Regex.Properties] (s : Session) : List String → List Log.Record
  | [] => []
  | text :: rest => (reply none s text).1.log ++ records (s.respond text).2 rest

/-- How many entries are shown shows in the lines only. -/
theorem reply_eq [Regex.Properties] (cap : Option Nat) (s : Session) (text : String) :
    (reply cap s text).1.block = said cap s.store text (s.respond text).1 ∧
      (reply cap s text).1.log = (reply none s text).1.log ∧
      (reply cap s text).2 = (s.respond text).2 := by
  rw [reply, reply, Session.respond, Session.read]
  rcases Filter.read s.store.registry text with ⟨e | f, r⟩
  · exact ⟨rfl, rfl, rfl⟩
  · exact ⟨rfl, rfl, rfl⟩

theorem runAll_append [Regex.Properties] (cap : Option Nat) (rest : List (Except Failure String)) :
    ∀ (texts : List String) (s : Session), runAll cap s (texts.map .ok ++ rest) =
      ⟨(blocks cap s.store (s.outcomes texts)).flatten ++ (runAll cap (s.after texts) rest).lines,
        records s texts ++ (runAll cap (s.after texts) rest).log,
        (runAll cap (s.after texts) rest).failure⟩
  | [], s => rfl
  | text :: texts, s => by
    obtain ⟨hblock, hlog, hafter⟩ := reply_eq cap s text
    obtain ⟨r, hstore, -⟩ := s.store_respond text
    have hblocks : ∀ l, blocks cap (s.respond text).2.store l = blocks cap s.store l := by
      rw [hstore]
      exact fun _ => rfl
    rw [List.map_cons, List.cons_append, runAll]
    dsimp only
    rw [hafter, runAll_append cap rest texts, hblock, hlog, hblocks]
    simp only [Session.outcomes, Session.after, blocks, records, List.map_cons, List.flatten_cons,
      List.append_assoc]

/-! ## What the lines are -/

/-- What a summary says of an answer to a text. -/
structure Summarizes (cap : Option Nat) (text : String) (x : Result) (y : Summary) : Prop where
  /-- The text. -/
  filter : y.filter = text
  /-- The number of entries that match. -/
  matched : y.matched = x.matched.length
  /-- The number of those that are shown. -/
  returned : y.returned = cap.elim x.matched.length (min x.matched.length)
  /-- Whether there are too many to be shown. -/
  truncated : y.truncated = true ↔ ∃ k ∈ cap, k < x.matched.length
  /-- The name of the strategy. -/
  strategy : y.strategy = x.strategy.name
  /-- The number of entries that the filter was asked about. -/
  examined : y.examined = x.examined

/-- What is put out about a text: why it is rejected, or the first of the entries that match and then
a summary. -/
inductive Told (cap : Option Nat) (s : Store) (text : String) :
    Except Rejection Result → List Line → Prop where
  | rejected (e : Rejection) : Told cap s text (.error e) [.rejection e]
  | answered {x : Result} {y : Summary} {entries : List (Nat × Entry)} :
      x.matched.Pairwise (· < ·) → Summarizes cap text x y →
      entries.map (·.1) = x.matched.take y.returned → (∀ p ∈ entries, s.entry? p.1 = some p.2) →
      Told cap s text (.ok x) (entries.map (fun p => .entry p.1 p.2) ++ [.summary y])

/-- Of entries of a store, the first are shown. -/
theorem shown_eq (cap : Option Nat) {s : Store} {l : List (Nat × Entry)}
    (hl : ∀ p ∈ l, s.entry? p.1 = some p.2) :
    shown cap s (l.map (·.1)) =
      (l.take (cap.elim l.length (min l.length))).map fun p => .entry p.1 p.2 := by
  have hcap : cap.elim (l.map (·.1)) ((l.map (·.1)).take ·) =
      (l.take (cap.elim l.length (min l.length))).map (·.1) := by
    cases cap with
    | none => simp
    | some k =>
      rw [Option.elim_some, Option.elim_some, ← List.map_take, List.take_eq_take_iff.mpr]
      omega
  rw [shown, hcap, List.filterMap_map, ← List.filterMap_eq_map]
  refine List.filterMap_congr fun p hp => ?_
  rw [Function.comp_apply, Function.comp_apply, hl p (List.mem_of_mem_take hp)]
  rfl

theorem told_answerLines (cap : Option Nat) {s : Store} {x : Result}
    (h : x.matched.Sublist (s.numbered.map (·.1))) (text : String) :
    Told cap s text (.ok x) (answerLines cap s text x) := by
  obtain ⟨l, hsublist, hmatched⟩ := List.sublist_map_iff.mp h
  have hl : ∀ p ∈ l, s.entry? p.1 = some p.2 :=
    fun p hp => Query.mem_numbered.mp (hsublist.subset hp)
  have hlength : x.matched.length = l.length := by rw [hmatched, List.length_map]
  have hascending : x.matched.Pairwise (· < ·) := by
    rw [Query.map_fst_numbered] at h
    exact List.Pairwise.sublist h List.pairwise_lt_range'
  have hreturned : (l.take (cap.elim l.length (min l.length))).length =
      cap.elim l.length (min l.length) := by
    cases cap with
    | none => simp
    | some k => simp
  rw [answerLines, hmatched, shown_eq cap hl]
  rw [List.length_map, List.length_map, hreturned]
  refine .answered hascending ⟨rfl, hlength.symm, by rw [hlength], ?_, rfl, rfl⟩ ?_
    fun p hp => hl p (List.mem_of_mem_take hp)
  · rw [hlength, Summary.truncated, decide_eq_true_iff]
    cases cap with
    | none => simp
    | some k => simp
  · rw [hmatched, List.map_take]

theorem told_said [Regex.Properties] (cap : Option Nat) {s : Store} (hs : s.Indexed)
    {session : Session} {r : Registry} (hstore : session.store = { s with registry := r })
    (text : String) :
    Told cap s text (session.respond text).1 (said cap s text (session.respond text).1) := by
  rcases session.respond_cases text with ⟨e, r', -, hrespond⟩ | ⟨n, r', -, hrespond⟩
  · rw [hrespond]
    exact .rejected e
  · rw [hrespond, hstore]
    have hsublist := Query.matched_sublist (s := { s with registry := r' }) (fun hx => hs hx) n
      session.draws
    exact told_answerLines (s := s) cap hsublist text

theorem forall₂_told [Regex.Properties] (cap : Option Nat) {s : Store} (hs : s.Indexed)
    {session : Session} (hstore : session.store = s) (texts : List String) :
    List.Forall₂ (fun p lines => Told cap s p.1 p.2 lines) (session.outcomes texts)
      (blocks cap s (session.outcomes texts)) := by
  rw [blocks, List.forall₂_map_right_iff, List.forall₂_same]
  intro p hp
  obtain ⟨session', ⟨r, hstore'⟩, hrespond⟩ := Session.exists_respond hp
  rw [hstore] at hstore'
  rw [hrespond]
  exact told_said cap hs hstore' p.1

/-! ## Metrics -/

/-- The summary that a line is, if it is one. -/
def Line.summary? : Line → Option Summary
  | .summary y => some y
  | _ => none

/-- The rejection that a line is, if it is one. -/
def Line.rejection? : Line → Option Rejection
  | .rejection e => some e
  | _ => none

/-- The summaries among some lines. -/
def summaries (lines : List Line) : List Summary :=
  lines.filterMap Line.summary?

/-- The rejections among some lines. -/
def rejections (lines : List Line) : List Rejection :=
  lines.filterMap Line.rejection?

theorem summaries_append (lines lines' : List Line) :
    summaries (lines ++ lines') = summaries lines ++ summaries lines' :=
  List.filterMap_append

theorem rejections_append (lines lines' : List Line) :
    rejections (lines ++ lines') = rejections lines ++ rejections lines' :=
  List.filterMap_append

/-- The lines about an accepted text have one summary and no rejection. -/
theorem summaries_answered (entries : List (Nat × Entry)) (y : Summary) :
    summaries (entries.map (fun p => .entry p.1 p.2) ++ [.summary y]) = [y] ∧
      rejections (entries.map (fun p => .entry p.1 p.2) ++ [.summary y]) = [] := by
  have hsummaries : summaries (entries.map fun p => .entry p.1 p.2) = [] := by
    simp [summaries, Line.summary?]
  have hrejections : rejections (entries.map fun p => .entry p.1 p.2) = [] := by
    simp [rejections, Line.rejection?]
  rw [summaries_append, rejections_append, hsummaries, hrejections]
  exact ⟨rfl, rfl⟩

/-- Every text has a summary or a rejection among the lines, and there are no others. -/
theorem length_summaries_add {cap : Option Nat} {s : Store}
    {l : List (String × Except Rejection Result)} {bs : List (List Line)}
    (h : List.Forall₂ (fun p lines => Told cap s p.1 p.2 lines) l bs) :
    (summaries bs.flatten).length + (rejections bs.flatten).length = l.length := by
  induction h with
  | nil => rfl
  | @cons p lines l bs htold _ ih =>
    have hone : (summaries lines).length + (rejections lines).length = 1 := by
      generalize p.2 = outcome at htold
      cases htold with
      | rejected e => rfl
      | answered =>
        rw [(summaries_answered _ _).1, (summaries_answered _ _).2]
        rfl
    rw [List.flatten_cons, summaries_append, rejections_append, List.length_append,
      List.length_append, List.length_cons]
    omega

/-- Whether metrics count some summaries and rejections, and add up what the summaries say. They have
64 bits. -/
structure Tallies (m : Metrics) (ys : List Summary) (es : List Rejection) : Prop where
  /-- There is a summary for each filter. -/
  parsed : m.queriesParsed = .ofNat ys.length
  /-- There is a rejection for each text that is no filter. -/
  rejected : m.queriesRejected = .ofNat es.length
  /-- Every filter is answered. -/
  executed : m.queriesExecuted = .ofNat ys.length
  /-- For some of them an index selects the entries. -/
  indexDriven : m.indexDriven = .ofNat (ys.countP (·.strategy != "FULL_SCAN"))
  /-- For the others every entry is looked at. -/
  fullScans : m.fullScans = .ofNat (ys.countP (·.strategy == "FULL_SCAN"))
  /-- The entries looked at. -/
  examined : m.objectsExamined = .ofNat (ys.map Summary.examined).sum
  /-- The entries that match. -/
  matched : m.objectsMatched = .ofNat (ys.map Summary.matched).sum

section Tallies

variable {m : Metrics} {ys : List Summary} {es : List Rejection}

theorem Tallies.countRejected (h : Tallies m ys es) (e : Rejection) :
    Tallies m.countRejected ys (es ++ [e]) where
  parsed := h.parsed
  rejected := by
    rw [List.length_append, UInt64.ofNat_add, ← h.rejected]
    rfl
  executed := h.executed
  indexDriven := h.indexDriven
  fullScans := h.fullScans
  examined := h.examined
  matched := h.matched

theorem Tallies.countAnswered (h : Tallies m ys es) {cap : Option Nat} {text : String} {x : Result}
    {y : Summary} (hy : Summarizes cap text x y) :
    Tallies (m.countParsed.countExecution x.strategy.isIndexDriven (.ofNat x.examined)
      (.ofNat x.matched.length)) (ys ++ [y]) es where
  parsed := by
    rw [List.length_append, UInt64.ofNat_add, ← h.parsed]
    rfl
  rejected := h.rejected
  executed := by
    rw [List.length_append, UInt64.ofNat_add, ← h.executed]
    rfl
  indexDriven := by
    rw [List.countP_append, UInt64.ofNat_add, ← h.indexDriven, List.countP_singleton, hy.strategy]
    cases x.strategy with
    | fullScan => exact (UInt64.add_zero _).symm
    | _ => rfl
  fullScans := by
    rw [List.countP_append, UInt64.ofNat_add, ← h.fullScans, List.countP_singleton, hy.strategy]
    cases x.strategy with
    | fullScan => rfl
    | _ => exact (UInt64.add_zero _).symm
  examined := by
    rw [List.map_append, List.sum_append, UInt64.ofNat_add, ← h.examined, List.map_singleton,
      List.sum_singleton, hy.examined]
    rfl
  matched := by
    rw [List.map_append, List.sum_append, UInt64.ofNat_add, ← h.matched, List.map_singleton,
      List.sum_singleton, hy.matched]
    rfl

/-- Metrics keep counting the lines when one more text is answered. -/
theorem tallies_respond [Regex.Properties] {session : Session} (h : Tallies session.metrics ys es)
    {cap : Option Nat} {s : Store} {text : String} {lines : List Line}
    (htold : Told cap s text (session.respond text).1 lines) :
    Tallies (session.respond text).2.metrics (ys ++ summaries lines) (es ++ rejections lines) := by
  rcases session.respond_cases text with ⟨e, r, -, hrespond⟩ | ⟨n, r, -, hrespond⟩
  · rw [hrespond] at htold ⊢
    cases htold with
    | rejected =>
      rw [show summaries [.rejection e] = [] from rfl, List.append_nil]
      exact h.countRejected e
  · rw [hrespond] at htold ⊢
    cases htold with
    | answered _ hy _ _ =>
      rw [(summaries_answered ..).1, (summaries_answered ..).2, List.append_nil]
      exact h.countAnswered hy

theorem tallies_after [Regex.Properties] (cap : Option Nat) {s : Store} (hs : s.Indexed) :
    ∀ (texts : List String) {session : Session} {ys : List Summary} {es : List Rejection},
      (∃ r, session.store = { s with registry := r }) → Tallies session.metrics ys es →
        let lines := (blocks cap s (session.outcomes texts)).flatten
        Tallies (session.after texts).metrics (ys ++ summaries lines) (es ++ rejections lines)
  | [], _, ys, es, _, h => by
    rw [Session.outcomes, blocks, List.map_nil, List.flatten_nil]
    rwa [← List.append_nil ys, ← List.append_nil es] at h
  | text :: texts, session, _, _, ⟨r, hstore⟩, h => by
    obtain ⟨r', hstore', -⟩ := session.store_respond text
    rw [hstore] at hstore'
    have hnext := tallies_after cap hs texts ⟨r', hstore'⟩
      (tallies_respond h (told_said cap hs hstore text))
    dsimp only at hnext
    rw [List.append_assoc, ← summaries_append, List.append_assoc, ← rejections_append] at hnext
    exact hnext

end Tallies

/-! ## Batches -/

theorem countP_ne_add {α β : Type} [BEq β] (f : α → β) (b : β) (l : List α) :
    l.countP (f · != b) + l.countP (f · == b) = l.length := by
  rw [List.length_eq_countP_add_countP (f · == b), Nat.add_comm]
  congr 2
  funext a
  simp [bne]

/-- **Batches add up.** Whatever texts a batch is given, and however many entries are shown, the
lines are those about each text and then the metrics, which count them. What comes of the texts, the
metrics, the log and the session for later texts, with the draws that are left, are the same however
many entries are shown. -/
theorem runAll_adds_up [Regex.Properties] {b : Store.Builder} {s : Store} (hb : b.build = .ok s)
    (draws : Draws) (texts : List String) :
    let session : Session := { store := s, draws }
    let found := session.outcomes texts
    let later := session.after texts
    found.map (·.1) = texts ∧
    (∀ cap : Option Nat, ∃ bs : List (List Line),
      List.Forall₂ (fun p lines => Told cap s p.1 p.2 lines) found bs ∧
      runAll cap session (texts.map .ok) =
        ⟨bs.flatten ++ [.metrics later.metrics], records session texts, none⟩ ∧
      (∀ rest, (runAll cap session (texts.map .ok ++ rest)).lines =
        bs.flatten ++ (runAll cap later rest).lines) ∧
      Tallies later.metrics (summaries bs.flatten) (rejections bs.flatten) ∧
      (summaries bs.flatten).length + (rejections bs.flatten).length = texts.length) ∧
    later.metrics.queriesParsed + later.metrics.queriesRejected = .ofNat texts.length ∧
    (texts.length < 2 ^ 64 →
      later.metrics.queriesParsed.toNat + later.metrics.queriesRejected.toNat = texts.length) ∧
    later.metrics.queriesExecuted = later.metrics.queriesParsed ∧
    later.metrics.indexDriven + later.metrics.fullScans = later.metrics.queriesParsed := by
  intro session found later
  have hs : s.Indexed := Store.Builder.indexed_of_build hb
  have hfound : found.map (·.1) = texts := Session.map_fst_outcomes texts session
  have hstart : Tallies session.metrics [] [] := ⟨rfl, rfl, rfl, rfl, rfl, rfl, rfl⟩
  have htallies : ∀ cap, Tallies later.metrics (summaries (blocks cap s found).flatten)
      (rejections (blocks cap s found).flatten) :=
    fun cap => tallies_after cap hs texts ⟨s.registry, rfl⟩ hstart
  have hcounts : ∀ cap, (summaries (blocks cap s found).flatten).length +
      (rejections (blocks cap s found).flatten).length = texts.length := by
    intro cap
    rw [length_summaries_add (forall₂_told cap hs rfl texts), ← List.length_map (·.1), hfound]
  obtain ⟨hparsed, hrejected, hexecuted, hdriven, hscans, -, -⟩ := htallies none
  refine ⟨hfound, fun cap => ⟨blocks cap s found, forall₂_told cap hs rfl texts, ?_, fun rest => ?_,
    htallies cap, hcounts cap⟩, ?_, fun hlt => ?_, ?_, ?_⟩
  · have hrun := runAll_append cap [] texts session
    rw [List.append_nil] at hrun
    rw [hrun, runAll, List.append_nil]
  · rw [runAll_append]
  · rw [hparsed, hrejected, ← UInt64.ofNat_add, hcounts]
  · have hcount := hcounts none
    rw [hparsed, hrejected, UInt64.toNat_ofNat', UInt64.toNat_ofNat']
    omega
  · rw [hexecuted, hparsed]
  · rw [hdriven, hscans, hparsed, ← UInt64.ofNat_add, countP_ne_add]

/-- Two filters, of which one can use an index, and between them a text that is no filter. -/
def mixedTexts : List String :=
  ["(cn=EVE)", "(cn", "(!(sn=x))"]

/-- Of four entries that match two are shown, and the metrics count all of them. -/
theorem runAll_adds_up_mixedTexts :
    ∃ s, Store.Builder.namesakes.build = .ok s ∧
      let session : Session := { store := s, draws := Draws.ofList [] }
      let m := (session.after mixedTexts).metrics
      ∃ bs, List.Forall₂ (fun p lines => Told (some 1) s p.1 p.2 lines)
          (session.outcomes mixedTexts) bs ∧
        (runAll (some 1) session (mixedTexts.map .ok)).lines = bs.flatten ++ [.metrics m] ∧
        (summaries bs.flatten).length + (rejections bs.flatten).length = 3 ∧
        bs.flatten.length = 5 ∧ m.objectsMatched = 4 ∧
        m.queriesParsed.toNat + m.queriesRejected.toNat = 3 := by
  obtain ⟨s, hb, hlength, hmatched⟩ : ∃ s, Store.Builder.namesakes.build = .ok s ∧
      (runAll (some 1) { store := s, draws := Draws.ofList [] } (mixedTexts.map .ok)).lines.length =
        6 ∧
      (Session.after { store := s, draws := Draws.ofList [] } mixedTexts).metrics.objectsMatched =
        4 :=
    ⟨_, rfl, by decide +kernel, by decide +kernel⟩
  obtain ⟨-, htold, -, hcount, -, -⟩ := runAll_adds_up hb (Draws.ofList []) mixedTexts
  obtain ⟨bs, hbs, hrun, -, -, hlines⟩ := htold (some 1)
  rw [hrun, List.length_append] at hlength
  exact ⟨s, hb, bs, hbs, by rw [hrun], hlines, Nat.succ.inj hlength, hmatched,
    hcount (by decide)⟩

end Directory.Command
