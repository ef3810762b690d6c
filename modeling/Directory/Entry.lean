import Directory.AttackMethod
import Directory.Attribute
import Directory.Guid
import Directory.Value

/-!
# Entries and the edges between them

- `Entry`: an object of the directory with its attribute values and the edges at it.
- `Edge`: one entry can take over another by some method. `Direction` says from which end an edge
  is looked at, and `Link` is what is kept of it there.
- `Draft`: an entry as it is handed to a store, with attributes by name.
-/

namespace Directory

/-- A security identifier. -/
structure Sid where
  /-- The identifier as it is written. -/
  text : String
deriving DecidableEq, Repr

/-- The identifier of nobody. -/
def Sid.null : Sid := ⟨"S-1-0-0"⟩

/-- Whether the identifier is that of nobody. -/
def Sid.isNull (s : Sid) : Bool :=
  s == null

/-- The entry numbered `source` can take over the entry numbered `target`. -/
structure Edge where
  /-- The number of the entry that attacks. -/
  source : Nat
  /-- The number of the entry that is taken over. -/
  target : Nat
  /-- How. -/
  method : AttackMethod
deriving DecidableEq, Repr

/-- The end from which edges are followed. -/
inductive Direction where
  /-- From the attacker to what it can take over. -/
  | canPwn
  /-- From an entry to those who can take it over. -/
  | pwnableBy
deriving DecidableEq, Repr

/-- The entry from which an edge is followed. -/
def Edge.near (d : Direction) (e : Edge) : Nat :=
  match d with
  | .canPwn => e.source
  | .pwnableBy => e.target

/-- The entry to which an edge leads. -/
def Edge.far (d : Direction) (e : Edge) : Nat :=
  match d with
  | .canPwn => e.target
  | .pwnableBy => e.source

/-- An edge as it is kept at one of its ends. -/
structure Link where
  /-- The number of the entry at the other end. -/
  far : Nat
  /-- How the one entry can take over the other. -/
  method : AttackMethod
deriving DecidableEq, Repr

/-- What is kept of an edge at the end from which it is followed. -/
def Edge.link (d : Direction) (e : Edge) : Link :=
  ⟨e.far d, e.method⟩

/-- The edge that is kept at the entry numbered `near`. -/
def Link.edge (d : Direction) (near : Nat) (l : Link) : Edge :=
  match d with
  | .canPwn => ⟨near, l.far, l.method⟩
  | .pwnableBy => ⟨l.far, near, l.method⟩

/-- An object of the directory. Its number in the store is not part of it. -/
structure Entry where
  /-- The distinguished name. -/
  dn : String
  /-- The globally unique identifier. -/
  guid : Guid
  /-- The security identifier, if the object is a principal. -/
  sid : Option Sid
  /-- The attribute values, in the order in which they were given. -/
  values : List (Attribute × Value)
  /-- The edges that start here, in the order in which they were added. -/
  canPwn : List Link := []
  /-- The edges that end here, in the order in which they were added. -/
  pwnableBy : List Link := []
deriving DecidableEq

namespace Entry

/-- The values of one attribute, in the order in which they were given. -/
def valuesOf (e : Entry) (a : Attribute) : List Value :=
  e.values.filterMap fun (b, v) => if b = a then some v else none

/-- Whether the entry has a value of the attribute. -/
def has (e : Entry) (a : Attribute) : Bool :=
  !(e.valuesOf a).isEmpty

/-- The texts of the values of one attribute. -/
def renderedOf (e : Entry) (a : Attribute) : List String :=
  (e.valuesOf a).map Value.rendered

/-- The integer of an attribute, which is that of its first value. -/
def intOf? (e : Entry) (a : Attribute) : Option Int64 :=
  (e.valuesOf a).head?.bind Value.asInt?

/-- The edges at the entry that are followed in a direction. -/
def links (d : Direction) (e : Entry) : List Link :=
  match d with
  | .canPwn => e.canPwn
  | .pwnableBy => e.pwnableBy

/-- The entry with one more edge that is followed in a direction. -/
def addLink (d : Direction) (l : Link) (e : Entry) : Entry :=
  match d with
  | .canPwn => { e with canPwn := e.canPwn ++ [l] }
  | .pwnableBy => { e with pwnableBy := e.pwnableBy ++ [l] }

end Entry

/-- An entry that is not yet part of a store. -/
structure Draft where
  /-- The distinguished name. -/
  dn : String
  /-- The globally unique identifier, if one was given. -/
  guid : Option Guid := none
  /-- The security identifier, if there is one. -/
  sid : Option Sid := none
  /-- The values, each under an attribute name in any letter case. -/
  values : List (String × Value) := []
deriving DecidableEq

end Directory
