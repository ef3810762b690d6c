import Directory.Filter.Printer
import Directory.Filter.Rejection
import Directory.Query.Plan
import Directory.Text.Lines
import Directory.Text.Quoted

/-!
# Explaining queries

- `Query.explain`: says how a filter would be answered.
- `Query.explainRejection`: says why a text is no filter.
-/

namespace Directory.Query

open Text (quoted unlines)

/-- The name of the strategy that a plan leads to. -/
def Plan.strategyName (p : Plan) : String :=
  if p.driving.isNone then "FULL_SCAN"
  else if p.isDirect then "INDEX_DIRECT"
  else "INDEX_VERIFIED"

/-- A candidate in words, without the number of its entries. -/
def Candidate.text (r : Registry) (c : Candidate) : String :=
  r.nameOf c.a ++ " = " ++ quoted c.key

/-- The driver of a plan in words. -/
def Plan.driverText? (r : Registry) (p : Plan) : Option String :=
  p.driving.map fun c => c.text r ++ " (" ++ toString c.size ++ " objects)"

/-- The line of a candidate. -/
def Candidate.line (r : Registry) (c : Candidate) : String :=
  "  - " ++ c.text r ++ ": "
    ++ (if c.indexed then toString c.size ++ " objects" else "not indexed")

/-- The first line of all explanations. -/
def heading : String := "=== EXPLAIN PLAN ==="

/-- Says how a filter would be answered. -/
def explain (s : Store) (f : Filter) : String :=
  let r := s.registry
  let p := plan s f
  unlines <|
    [heading, "Status: ACCEPTED", "Filter: " ++ f.render r, "Strategy: " ++ p.strategyName]
      ++ (p.driverText? r).toList.map ("Driver: " ++ ·)
      ++ (if p.candidates.isEmpty then [] else "Candidates:" :: p.candidates.map (·.line r))
      ++ ["Reason: " ++ p.reason.text, "Objects: " ++ toString s.size]

/-- Says why a text is no filter. -/
def explainRejection (e : Filter.Rejection) : String :=
  unlines [heading, "Status: REJECTED", "Error Code: " ++ e.fault.code, "Reason: " ++ e.reason]

end Directory.Query
