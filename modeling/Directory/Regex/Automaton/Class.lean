import Directory.Regex.Automaton.Memory
import Directory.Text.Utf8

/-!
# Automata for classes

An automaton reads bytes, so a class beyond ASCII is a tree of states, one level for each byte. Read
forward, characters with the same first bytes share the states for them; read backward, those with
the same last bytes do.

- `Regex.Room.addTree`, `Regex.Room.addPaths`: the room that a class takes, forward and backward.
-/

namespace Directory.Regex

open Text (CodePoints)
open Text.Utf8 (BytePattern)

namespace Memory

/-- The state from which the patterns lead to `target`, and the memory with it. Patterns that begin
alike stand next to each other. The number bounds the length of a pattern. -/
def tree (target : Nat) : Nat → List BytePattern → Memory → Nat × Memory
  | 0, _, m => (target, m)
  | _, [[]], m => (target, m)
  | length + 1, l, m =>
    let groups := l.splitBy fun p q => p.head? == q.head?
    let (description, m) := groups.foldl (fun (description, m) group =>
      match group.head?.bind List.head? with
      | some (first, last) =>
        let (next, m) := tree target length (group.map List.tail) m
        (next :: last :: first :: description, m)
      | none => (description, m)) ([], m)
    m.share description.reverse groups.length

/-- The state to which the pattern leads from `start` if it is read backward, and the memory with
it. -/
def path (start : Nat) : BytePattern → Memory → Nat × Memory
  | [], m => (start, m)
  | (first, last) :: p, m =>
    let (next, m) := m.share [start, first, last] 0
    path next p m

end Memory

/-- The room after a tree of states that reads the patterns forward. -/
def Room.addTree (r : Room) (l : List BytePattern) : Room :=
  let target := r.states
  (Memory.tree target 4 l (.blank (r.add 1) 10000)).2.room

/-- The room after paths of states that read the patterns backward. -/
def Room.addPaths (r : Room) (l : List BytePattern) : Room :=
  let start := r.states + 1
  let m := l.foldl (fun m p => (Memory.path start p m).2) (.blank (r.add 2) 1000)
  m.room.link l.length

/-- Whether the class has ASCII characters only. -/
def isAscii (s : CodePoints) : Bool :=
  s.ranges.all fun (_, last) => last < 0x80

end Directory.Regex
