import Directory.Command.Run
import Directory.Proofs.Command.Batch

/-!
# Filters of a batch do not influence each other

The filters of a batch share a session. Earlier texts, also rejected ones, leave names in it, take
draws and are counted. None of this shows in the lines about a later text, unless it asks for chance.

- `Command.block_reply_alike`: the lines about a text do not depend on what a session learnt, drew
  and counted.
- `Command.closed_of_loadStore`: a store that was loaded knows the attributes of all its values.
- `Command.runAll_isolated`: the lines about a text are those that it has if it is the only one.
-/

namespace Directory.Command

open Query (Session Result)

theorem answerLines_alike (cap : Option Nat) (s : Store) (text : String) {x x' : Result}
    (h : x.Alike x') : answerLines cap s text x = answerLines cap s text x' := by
  rw [answerLines, answerLines, h.matched, h.strategy, h.examined]

/-- The lines about a text without random conditions do not depend on what came before. -/
theorem block_reply_alike [Regex.Properties] {s : Store} (hs : s.Closed) (cap : Option Nat)
    {r r' : Registry} (hr : r.Remembers s.registry) (hr' : r'.Remembers s.registry) {text : String}
    (hrandom : ∀ f, (Filter.read r text).outcome = .ok f → f.root.hasRandom = false)
    (d d' : Draws) (m m' : Metrics) :
    (reply cap ⟨{ s with registry := r }, d, m⟩ text).1.block =
      (reply cap ⟨{ s with registry := r' }, d', m'⟩ text).1.block := by
  rw [(reply_eq ..).1, (reply_eq ..).1]
  rcases Session.respond_alike hs hr hr' text hrandom d d' m m' with
    ⟨e, he, he'⟩ | ⟨x, x', hx, hx', halike⟩
  · rw [he, he']
    rfl
  · rw [hx, hx']
    exact answerLines_alike cap s text halike

/-- A text on its own is answered in the same way. -/
theorem runOne_eq [Regex.Properties] (cap : Option Nat) (s : Session) (text : String) :
    runOne cap s text =
      match (s.respond text).1 with
      | .error e => ⟨[], (reply none s text).1.log, some (.ofRejection e)⟩
      | .ok x => ⟨said cap s.store text (.ok x), (reply none s text).1.log, none⟩ := by
  rw [runOne, reply, reply, Session.respond, Session.read]
  rcases Filter.read s.store.registry text with ⟨e | f, r⟩
  · rfl
  · rfl

/-! ## Loaded stores -/

/-- A store that is loaded is that of an object file's contents. -/
theorem ofDocument_of_loadStore {c : Config} {spares : Store.Spares} {file : Option String}
    {s : Store} (h : (loadStore c spares file).result = .ok s) :
    ∃ d, file.bind Document.read? = some d ∧
      Store.ofDocument c.indexedAttributes spares d = .ok s := by
  cases file with
  | none => exact nomatch h
  | some text =>
    have hload : Store.load c.indexedAttributes spares text = .ok s := by
      unfold loadStore at h
      dsimp only at h
      cases hload : Store.load c.indexedAttributes spares text with
      | error e =>
        rw [hload] at h
        exact nomatch h
      | ok s' =>
        rw [hload] at h
        exact congrArg Except.ok (Except.ok.inj h)
    rw [Store.load] at hload
    cases hread : Document.read? text with
    | none =>
      rw [hread] at hload
      exact nomatch hload
    | some d =>
      rw [hread] at hload
      exact ⟨d, hread, hload⟩

theorem closed_of_loadStore {c : Config} {spares : Store.Spares} {file : Option String} {s : Store}
    (h : (loadStore c spares file).result = .ok s) : s.Closed := by
  obtain ⟨d, -, hs⟩ := ofDocument_of_loadStore h
  have hbuild := Document.build_of_ok hs
  obtain ⟨hentries, -, hregistry, -⟩ := Store.Builder.build_eq_ok hbuild
  refine Store.Builder.closed_of_build ?_ hbuild
  rw [← hentries, ← hregistry]
  exact (Document.loaded_of_ok hs).covers

/-! ## Batches -/

/-- **Filters of a batch do not influence each other.** Whatever texts came before it, the lines that
a batch puts out about a text are those that it has if it is the only one on the same store, with
whatever draws, unless it is a filter with random conditions. -/
theorem runAll_isolated [Regex.Properties] {c : Config} {spares : Store.Spares}
    {file : Option String} {s : Store} (hs : (loadStore c spares file).result = .ok s)
    (cap : Option Nat) (draws draws' : Draws)
    (before : List String) {text : String}
    (hrandom : ∀ f, (Filter.read s.registry text).outcome = .ok f → f.root.hasRandom = false)
    (rest : List (Except Failure String)) :
    let session : Session := { store := s, draws }
    let fresh : Session := { store := s, draws := draws' }
    ∃ (earlier lines : List Line) (later : Session) (m m' : Metrics),
      (runAll cap session (before.map .ok)).lines = earlier ++ [.metrics m] ∧
      (runAll cap session (before.map .ok ++ .ok text :: rest)).lines =
        earlier ++ lines ++ (runAll cap later rest).lines ∧
      (runAll cap fresh [.ok text]).lines = lines ++ [.metrics m'] ∧
      (∀ e, (Filter.read s.registry text).outcome = .error e →
        lines = [.rejection e] ∧ (runOne cap fresh text).failure = some (.ofRejection e)) ∧
      ∀ f, (Filter.read s.registry text).outcome = .ok f →
        (runOne cap fresh text).lines = lines ∧ (runOne cap fresh text).failure = none := by
  intro session fresh
  have hclosed := closed_of_loadStore hs
  obtain ⟨r, hstore, hr⟩ := session.store_after before
  have hlines : (reply cap (session.after before) text).1.block =
      (reply cap fresh text).1.block := by
    generalize session.after before = later at hstore
    obtain ⟨_, d, m⟩ := later
    obtain rfl : _ = { s with registry := r } := hstore
    exact (block_reply_alike hclosed cap (.refl _) hr.remembers hrandom draws' d {} m).symm
  refine ⟨(blocks cap s (session.outcomes before)).flatten, (reply cap fresh text).1.block,
    (reply cap (session.after before) text).2, (session.after before).metrics,
    (reply cap fresh text).2.metrics, ?_, ?_, rfl, fun e he => ?_, fun f hf => ?_⟩
  · have hrun := runAll_append cap [] before session
    rw [List.append_nil] at hrun
    rw [hrun]
    rfl
  · rw [runAll_append, runAll, ← hlines, List.append_assoc]
  · have hread : Filter.read fresh.store.registry text =
        ⟨.error e, (Filter.read s.registry text).registry⟩ := by rw [← he]
    rw [(reply_eq cap fresh text).1, runOne_eq, Session.respond_of_rejected hread]
    exact ⟨rfl, rfl⟩
  · have hread : Filter.read fresh.store.registry text =
        ⟨.ok f, (Filter.read s.registry text).registry⟩ := by rw [← hf]
    rw [(reply_eq cap fresh text).1, runOne_eq, Session.respond_of_accepted hread]
    exact ⟨rfl, rfl⟩

/-- An object file with one entry, which has an attribute in an unusual spelling. -/
def soleFile : String :=
  "\x7b\"objects\":[\x7b\"dn\":\"CN=1\",\"attributes\":\x7b\"Cn\":\"Eve\"\x7d\x7d]\x7d"

theorem exists_loadStore_sole :
    ∃ s, (loadStore ⟨"x", ["cn"], none, none⟩ (fun _ => ⟨0⟩) (some soleFile)).result = .ok s := by
  have hok : (loadStore ⟨"x", ["cn"], none, none⟩ (fun _ => ⟨0⟩) (some soleFile)).result.isOk := by
    decide +kernel
  cases hresult : (loadStore ⟨"x", ["cn"], none, none⟩ (fun _ => ⟨0⟩) (some soleFile)).result with
  | error e =>
    rw [hresult] at hok
    exact nomatch hok
  | ok s => exact ⟨s, rfl⟩

/-- Neither a name that a rejected text spells in capitals nor a draw shows in the next answer. -/
theorem runAll_isolated_sole :
    ∃ s, (loadStore ⟨"x", ["cn"], none, none⟩ (fun _ => ⟨0⟩) (some soleFile)).result = .ok s ∧
      let session : Session := { store := s, draws := Draws.ofList [1] }
      let fresh : Session := { store := s, draws := Draws.ofList [] }
      ∃ (earlier lines : List Line) (later : Session) (m : Metrics),
        (runAll none session [.ok "(SN=1", .ok "(_random100<50)", .ok "(|(cn=EVE)(sn=x))"]).lines =
          earlier ++ lines ++ [.metrics later.metrics] ∧
        (runAll none fresh [.ok "(|(cn=EVE)(sn=x))"]).lines = lines ++ [.metrics m] ∧
        (runOne none fresh "(|(cn=EVE)(sn=x))").lines = lines := by
  obtain ⟨s, hs⟩ := exists_loadStore_sole
  have haccepted : ∃ f r, Filter.read .empty "(|(cn=EVE)(sn=x))" = ⟨.ok f, r⟩ ∧
      f.root.hasRandom = false := by decide +kernel
  obtain ⟨_, _, hempty, hrandom⟩ := haccepted
  obtain ⟨f, r, hread, -, hsame⟩ := Filter.exists_read hempty s.registry
  have hchanceless : ∀ g, (Filter.read s.registry "(|(cn=EVE)(sn=x))").outcome = .ok g →
      g.root.hasRandom = false := by
    intro g hg
    rw [hread] at hg
    rw [← Except.ok.inj hg, hsame, hrandom]
  obtain ⟨earlier, lines, later, -, m, -, hrun, hfresh, -, hone⟩ :=
    runAll_isolated hs none (Draws.ofList [1]) (Draws.ofList []) ["(SN=1", "(_random100<50)"]
      hchanceless []
  exact ⟨s, hs, earlier, lines, later, m, hrun, hfresh, (hone f (by rw [hread])).1⟩

end Directory.Command
