/-!
# Lines

- `Text.unlines`: the text of several lines.
-/

namespace Directory.Text

/-- The text of several lines, each ended by a line feed. -/
def unlines (lines : List String) : String :=
  String.join (lines.map (· ++ "\n"))

end Directory.Text
