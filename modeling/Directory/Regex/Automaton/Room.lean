/-!
# The room that an automaton takes

An automaton is built state by state. A state that leads to several others keeps a list of them.
Regular expressions whose automata take too much room are refused, so only the room is computed.

- `Regex.Room`: the size of an automaton that is being built.
- `Regex.Room.isFull`: whether it takes too much room.
- `Regex.Room.add`, `Regex.Room.link`, `Regex.Room.branch`, `Regex.Room.follow`: how it grows.
-/

namespace Directory.Regex

/-- The direction in which an automaton reads a text. -/
inductive Direction where
  /-- From the first character to the last. -/
  | forward
  /-- From the last character to the first. -/
  | backward
deriving DecidableEq, Repr

/-- The size of an automaton that is being built. -/
structure Room where
  /-- The number of states. It is also the number of the next state. -/
  states : Nat
  /-- The bytes that the lists of states take. -/
  listed : Nat
  /-- Whether the state added last but not linked yet keeps a list. -/
  forked : Bool
deriving DecidableEq, Repr

namespace Room

/-- No state. -/
def empty : Room :=
  ⟨0, 0, false⟩

/-- The bytes that an automaton may take. -/
def limit : Nat :=
  10 * 1024 * 1024

/-- The bytes that the automaton takes. -/
def bytes (r : Room) : Nat :=
  32 * r.states + r.listed

/-- Whether the automaton takes too much room. It stays so when it grows. -/
def isFull (r : Room) : Bool :=
  limit < r.bytes

/-- Further states, the last of which leads to one state. -/
def add (r : Room) (states : Nat) : Room :=
  ⟨r.states + states, r.listed, false⟩

/-- Further entries in lists of states. -/
def link (r : Room) (entries : Nat) : Room :=
  { r with listed := r.listed + 4 * entries }

/-- Further entries in lists of states that are chosen by the next byte. -/
def branch (r : Room) (entries : Nat) : Room :=
  { r with listed := r.listed + 8 * entries }

/-- The last state keeps a list. -/
def fork (r : Room) : Room :=
  { r with forked := true }

/-- The last state is linked to another. -/
def joined (r : Room) : Room :=
  if r.forked then { r.link 1 with forked := false } else r

/-- The last state is linked to the piece that `grow` adds. -/
def follow (r : Room) (grow : Room → Room) : Room :=
  if r.forked then (grow r).link 1 else grow r

end Room

end Directory.Regex
