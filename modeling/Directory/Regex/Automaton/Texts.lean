import Directory.Regex.Automaton.Room

/-!
# Automata for lists of texts

An alternation of texts is a tree of states in which texts that begin alike share states. A text that
ends at a state comes before all those that go on from there and follow it in the list, so the states
after it are not shared with those before it.

- `Regex.Room.addTexts`: the room that an alternation of texts takes.
-/

namespace Directory.Regex

/-- The texts between those that end here. -/
def stretches : List (List UInt8) → List (List (List UInt8))
  | [] => [[]]
  | [] :: l => [] :: stretches l
  | t :: l =>
    match stretches l with
    | s :: rest => (t :: s) :: rest
    | [] => [[t]]

/-- The texts that begin alike, together. -/
def byFirstByte (l : List (List UInt8)) : List (List (List UInt8)) :=
  (l.mergeSort fun s t => s.head?.getD 0 ≤ t.head?.getD 0).splitBy fun s t => s.head? == t.head?

/-- The texts, of which those that end here before the first that goes on count as one. -/
def endOnce (l : List (List UInt8)) : List (List UInt8) :=
  match l.takeWhile List.isEmpty with
  | [] => l
  | _ => [] :: l.dropWhile List.isEmpty

/-- The room after the states from which the texts go on. The number bounds the length of a text. -/
def Room.addTails : Nat → List (List UInt8) → Room → Room
  | 0, _, r => r
  | length + 1, l, r =>
    if l.all List.isEmpty then r
    else
      let all := stretches (endOnce l)
      let r := all.foldl (fun r stretch =>
        let groups := byFirstByte stretch
        let r := groups.foldl (fun r group => addTails length (group.map List.tail) r) r
        match groups.length with
        | 0 => r
        | 1 => (r.add 1).link 1
        | n => ((r.add 1).branch n).link 1) r
      (r.add 1).link (all.length - 1)

/-- The room after an alternation of texts. -/
def Room.addTexts (l : List (List UInt8)) (r : Room) : Room :=
  Room.addTails (l.foldl (fun n t => max n t.length) 0) l (r.add 1)

end Directory.Regex
