import Directory.Entry
import Directory.Store.Error
import Directory.Store.Index

/-!
# Stores

A store holds the entries of a directory, numbered from zero, a table of their names, and indexes of
the attributes that were flagged when it was built. An edge is kept at both of the entries that it
joins.

- `Store`: a finished store. `Store.entry?`, `Store.findByName?`, `Store.edgesAt` look into it.
- `Store.Builder`: a store under construction. `add` and `addEdge` extend it, `build` finishes it.
-/

namespace Directory

open Text (lower)

/-- The entries of a directory, with indexes. -/
structure Store where
  /-- The attribute names known so far. Queries may add to them. -/
  registry : Registry
  /-- The entries. Their numbers are their positions. -/
  entries : List Entry
  /-- The indexes, by ascending attribute. -/
  indexes : List (Attribute × Index)
  /-- The numbers of the entries under their folded distinguished names. -/
  names : Numbering

namespace Store

/-- The number of entries. -/
def size (s : Store) : Nat :=
  s.entries.length

/-- The entry with a number. -/
def entry? (s : Store) (id : Nat) : Option Entry :=
  s.entries[id]?

/-- The number of the entry with a distinguished name, which may be spelt in any letter case. -/
def findByName? (s : Store) (dn : String) : Option Nat :=
  s.names.lookup (lower dn)

/-- The entry with a distinguished name, which may be spelt in any letter case, and its number. -/
def named? (s : Store) (dn : String) : Option (Nat × Entry) :=
  (s.findByName? dn).bind fun id => (s.entry? id).map (id, ·)

/-- The index of an attribute, if it was flagged when the store was built. -/
def index? (s : Store) (a : Attribute) : Option Index :=
  s.indexes.lookup a

/-- The attributes that have an index, in ascending order. -/
def indexed (s : Store) : List Attribute :=
  s.indexes.map (·.1)

/-- The edges followed from an entry, in the order in which they were added. -/
def edgesAt (s : Store) (d : Direction) (id : Nat) : List Edge :=
  match s.entry? id with
  | some e => (e.links d).map (Link.edge d id)
  | none => []

/-! ## Building -/

/-- A store under construction. -/
structure Builder where
  /-- The attribute names known so far. -/
  registry : Registry := Registry.standard
  /-- The entries added so far. -/
  entries : List Entry := []

namespace Builder

/-- Flags an attribute as indexed. -/
def markIndexed (b : Builder) (name : String) : Builder :=
  { b with registry := (b.registry.markIndexed name).2 }

/-- Interns the names of values one after the other. -/
def internValues (r : Registry) : List (String × Value) → List (Attribute × Value) × Registry
  | [] => ([], r)
  | (name, v) :: rest =>
    let (a, r) := r.intern name
    let (values, r) := internValues r rest
    ((a, v) :: values, r)

/-- Gives an attribute a text as its only value unless it has values already. -/
def supply (name text : String) (values : List (Attribute × Value)) (r : Registry) :
    List (Attribute × Value) × Registry :=
  let (a, r) := r.intern name
  (if values.any (·.1 == a) then values else values ++ [(a, .text text)], r)

/-- Adds an entry, which gets the next number. A draft without an identifier gets `spare`. The
names and identifiers of the entry are values of it too, unless the draft gives others. -/
def add (b : Builder) (draft : Draft) (spare : Guid) : Nat × Builder :=
  let guid := draft.guid.getD spare
  let (values, r) := internValues b.registry draft.values
  let (values, r) := supply "distinguishedName" draft.dn values r
  let (values, r) := supply "objectGUID" guid.render values r
  let (values, r) :=
    match draft.sid with
    | some sid => supply "objectSid" sid.text values r
    | none => (values, r)
  (b.entries.length,
    { b with
      registry := r
      entries := b.entries ++ [{ dn := draft.dn, guid, sid := draft.sid, values }] })

/-- Keeps an edge at one of its ends. -/
def keep (b : Builder) (d : Direction) (e : Edge) : Builder :=
  { b with entries := b.entries.modify (e.near d) (Entry.addLink d (e.link d)) }

/-- Keeps an edge between two entries that are already there, first where it starts and then where
it ends. The builder is left as it was if one of them is not there. -/
def join (b : Builder) (e : Edge) : Except Error Unit × Builder :=
  if b.entries.length ≤ e.source then (.error (.unknownEntry e.source), b)
  else if b.entries.length ≤ e.target then (.error (.unknownEntry e.target), b)
  else (.ok (), (b.keep .canPwn e).keep .pwnableBy e)

/-- Adds an edge between two entries that are already there. -/
def addEdge (b : Builder) (e : Edge) : Except Error Builder :=
  match b.join e with
  | (.ok (), b) => .ok b
  | (.error err, _) => .error err

/-- Puts the distinguished names of entries numbered from `id` on into a table. A name that, folded,
is there already is refused. -/
def numberNames (names : Numbering) (id : Nat) : List String → Except Error Numbering
  | [] => .ok names
  | dn :: rest =>
    let key := lower dn
    if (names.lookup key).isSome then .error (.duplicateName dn)
    else numberNames ((key, id) :: names) (id + 1) rest

/-- The index of an attribute over entries numbered from `id` on. -/
def indexFrom (a : Attribute) (x : Index) (id : Nat) : List Entry → Index
  | [] => x
  | e :: rest => indexFrom a ((e.renderedOf a).foldl (fun x v => x.insert v id) x) (id + 1) rest

/-- The finished store. Distinguished names must differ in more than letter case. -/
def build (b : Builder) : Except Error Store :=
  match numberNames [] 0 (b.entries.map Entry.dn) with
  | .error e => .error e
  | .ok names => .ok {
      registry := b.registry
      entries := b.entries
      indexes := b.registry.indexed.map fun a => (a, indexFrom a {} 0 b.entries)
      names }

end Builder

end Store

end Directory
