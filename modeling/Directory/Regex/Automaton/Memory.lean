import Directory.Regex.Automaton.Room

/-!
# Equal states

While an automaton for a class is built, states that lead to the same states are one. The states
built so far are remembered in a table with a fixed number of slots; a state takes the slot that its
description falls on from the one before it, which is then forgotten.

- `Regex.Memory`: an automaton and the states remembered.
- `Regex.Memory.share`: the state with a description, old or new.
-/

namespace Directory.Regex

/-- An automaton and those of its states that are remembered. -/
structure Memory where
  /-- The automaton. -/
  room : Room
  /-- The slots. One that is taken holds the description and the number of a state. -/
  slots : Array (Option (List Nat × Nat))

namespace Memory

/-- An automaton of whose states none is remembered, and so many slots. -/
def blank (room : Room) (slots : Nat) : Memory :=
  ⟨room, Array.replicate slots none⟩

/-- Mixes numbers into 64 bits, each by an exclusive disjunction and a product. -/
def mix (l : List Nat) : UInt64 :=
  l.foldl (fun h n => (h ^^^ n.toUInt64) * 0x100000001B3) 0xCBF29CE484222325

/-- The slot on which a description falls. -/
def slotOf (m : Memory) (description : List Nat) : Nat :=
  (mix description % m.slots.size.toUInt64).toNat

/-- The state in a slot, if it has the description. -/
def find? (m : Memory) (slot : Nat) (description : List Nat) : Option Nat :=
  match m.slots[slot]? with
  | some (some (other, state)) => if other = description then some state else none
  | _ => none

/-- A new state, which takes a slot and lists `entries` states by their bytes. -/
def add (m : Memory) (slot : Nat) (description : List Nat) (entries : Nat) : Memory :=
  ⟨(m.room.add 1).branch entries, m.slots.setIfInBounds slot (some (description, m.room.states))⟩

/-- The number of the state with a description, which is added unless it is remembered. -/
def share (m : Memory) (description : List Nat) (entries : Nat) : Nat × Memory :=
  let slot := m.slotOf description
  match m.find? slot description with
  | some state => (state, m)
  | none => (m.room.states, m.add slot description entries)

end Memory

end Directory.Regex
