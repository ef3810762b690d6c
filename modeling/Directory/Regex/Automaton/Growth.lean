import Directory.Regex.Expr
import Directory.Regex.Automaton.Class
import Directory.Regex.Automaton.Texts

/-!
# The automata of an expression

An expression is matched by two automata. One reads forward and keeps the ends of the groups, the
other reads backward. An expression is only good if both have room.

- `Regex.Growth`: how an expression enlarges an automaton.
- `Regex.Expr.growth`: the growth that an expression brings.
- `Regex.Expr.room`: the size of one of its automata.
- `Regex.Expr.fits`: whether the expression is good.
-/

namespace Directory.Regex

open Text (CodePoints)
open Text.Utf8 (BytePattern)

/-- How an expression enlarges an automaton. -/
structure Growth where
  /-- The automaton enlarged. -/
  whole : Room → Room
  /-- The automaton enlarged by each of the alternatives of which the expression is made up. -/
  branches : List (Room → Room)

namespace Growth

/-- The growth of an expression that is no alternation. -/
def single (grow : Room → Room) : Growth :=
  ⟨grow, [grow]⟩

/-- The growth that a class brings. Its patterns are computed when they are first needed. -/
def ofClass (d : Direction) (s : CodePoints) : Growth :=
  if isAscii s then
    let n := s.ranges.length
    .single fun r => (r.add 2).branch n
  else
    let l : Thunk (List BytePattern) := ⟨fun _ => Text.Utf8.patterns s⟩
    match d with
    | .forward => .single fun r => r.addTree l.get
    | .backward => .single fun r => r.addPaths l.get

/-- Two pieces one after the other. -/
def inTurn (f g : Room → Room) (r : Room) : Room :=
  let r := f r
  if r.isFull then r else r.follow g

/-- A piece after itself, so many times, until there is no room. -/
def again (grow : Room → Room) : Nat → Room → Room
  | 0, r => r
  | n + 1, r => if r.isFull then r else again grow n (r.follow grow)

/-- A piece so many times. No pieces are one state. -/
def exactly (grow : Room → Room) : Nat → Room → Room
  | 0, r => r.add 1
  | n + 1, r => again grow n (grow r)

/-- A piece that may be left out, so many times, until there is no room. -/
def optional (grow : Room → Room) : Nat → Room → Room
  | 0, r => r
  | n + 1, r => if r.isFull then r else optional grow n ((grow (r.add 1)).joined.link 2)

/-- A repetition of a piece that perhaps reads nothing or fails. -/
def repeated (grow : Room → Room) (mayBeEmpty : Bool) (least : Nat) (most : Option Nat) (r : Room) :
    Room :=
  match least, most with
  | 0, some 1 => ((grow (r.add 1)).joined.add 1).link 2
  | 0, none =>
    if mayBeEmpty then ((grow r).joined.add 3).link 4 else ((grow (r.add 1)).joined.link 1).fork
  | least, none => (((exactly grow least r).joined.add 1).link 1).fork
  | least, some most =>
    let r := exactly grow least r
    if least = most then r else optional grow (most - least) (r.joined.add 1)

/-- A piece that leads to where all alternatives end. -/
def branch (grow : Room → Room) (r : Room) : Room :=
  (grow r).joined.link 1

/-- One of several pieces. The states where they part and where they meet come after the first two. -/
def fork (l : List (Room → Room)) (r : Room) : Room :=
  match l with
  | f :: g :: rest =>
    rest.foldl (fun r grow => if r.isFull then r else branch grow r) ((branch g (branch f r)).add 2)
  | l => l.foldl (fun r grow => branch grow r) r

end Growth

namespace Expr

/-- The text that the expression is. -/
def text? : Expr → Option (List Char)
  | text l => some l
  | _ => none

/-- The bytes of a text in the order in which they are read. -/
def bytesOf (d : Direction) (l : List Char) : List UInt8 :=
  let bytes := l.flatMap String.utf8EncodeChar
  match d with
  | .forward => bytes
  | .backward => bytes.reverse

/-- How the expression enlarges an automaton that reads in the direction `d`. -/
def growth (d : Direction) : Expr → Growth
  | empty => .single (·.add 1)
  | text l =>
    let n := l.foldl (fun n c => n + c.utf8Size) 0
    .single (·.add n)
  | char s => .ofClass d s
  | assertion _ => .single (·.add 1)
  | seq a b =>
    let f := (a.growth d).whole
    let g := (b.growth d).whole
    match d with
    | .forward => .single (Growth.inTurn f g)
    | .backward => .single (Growth.inTurn g f)
  | alt a b =>
    let branches := (a.growth d).whole :: (b.growth d).branches
    let whole := fun r =>
      match (alt a b).branches.mapM text? with
      | some texts => r.addTexts (texts.map (bytesOf d))
      | none => Growth.fork branches r
    ⟨whole, branches⟩
  | times a least most _ =>
    let grow := (a.growth d).whole
    let mayBeEmpty := a.leastLength?.all (· == 0)
    .single (Growth.repeated grow mayBeEmpty least most)
  | group _ a =>
    let grow := (a.growth d).whole
    match d with
    | .forward => .single fun r => (grow (r.add 1)).joined.add 1
    | .backward => .single grow

/-- The size of the automaton that reads in the direction `d`. It begins with a state, and with a loop
over any bytes before that unless matches are tied to the end of the text. -/
def room (d : Direction) (e : Expr) : Room :=
  let anchored :=
    match d with
    | .forward => e.startsAnchored
    | .backward => e.endsAnchored
  let r := if anchored then Room.empty.add 1 else ((Room.empty.add 3).branch 1).link 2
  let grow := (e.growth d).whole
  match d with
  | .forward => (grow (r.add 1)).joined.add 2
  | .backward => (grow r).joined.add 1

/-- Whether the expression is an alternation of so many texts that they are looked up instead. -/
def isLexicon (e : Expr) : Bool :=
  3000 ≤ e.branches.length && e.branches.all (·.text?.isSome)

/-- Whether the automata of the expression have room. -/
def fits (e : Expr) : Bool :=
  e.isLexicon || !((e.room .forward).isFull || (e.room .backward).isFull)

end Expr

end Directory.Regex
