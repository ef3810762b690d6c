import Directory.Store.Basic
import Directory.Store.Document

/-!
# Loading object files

- `Store.ofDocument`: the store of an object file's contents.
- `Store.load`: the store of an object file's text.

Entries are numbered in the order of the file and put into a table under their names. Edges may lead
to entries further down, so they are added once all entries are there; the first fault in this order
is the one reported.
-/

namespace Directory

open Text (lower)

/-- The identifiers of entries that come without one, by entry number. -/
abbrev Store.Spares := Nat → Guid

namespace Document

/-- The draft of an entry. Its identifier, if it has one, must be well formed. -/
def Record.draft (r : Record) : Except Store.Error Draft := do
  let guid ← match r.guid with
    | none => pure none
    | some text =>
      match Guid.read? text with
      | some guid => pure (some guid)
      | none => throw (.invalidGuid text)
  let values := r.attributes.flatMap fun (name, vs) => vs.map fun v => (name, v)
  return { dn := r.dn, guid, sid := r.sid, values }

/-- Adds entries one after the other. The table of their numbers holds the names of those before
them. -/
def addRecords (spares : Store.Spares) (names : Numbering) (b : Store.Builder) :
    List Record → Except Store.Error (Store.Builder × Numbering)
  | [] => .ok (b, names)
  | r :: rest => do
    let draft ← r.draft
    let (id, b) := b.add draft (spares b.entries.length)
    let key := lower r.dn
    if (names.lookup key).isSome then throw (.duplicateName r.dn)
    addRecords spares ((key, id) :: names) b rest

/-- Adds the edges of the entry numbered `source`. Their targets are looked up in the table. -/
def addEdges (names : Numbering) (source : Nat) (dn : String) (b : Store.Builder) :
    List EdgeRecord → Except Store.Error Store.Builder
  | [] => .ok b
  | e :: rest => do
    let target ← match names.lookup (lower e.target) with
      | some target => pure target
      | none => throw (.unknownTarget dn e.target)
    let method ← match AttackMethod.ofName? e.method.toList with
      | some method => pure method
      | none => throw (.unknownMethod dn e.method)
    addEdges names source dn (← b.addEdge ⟨source, target, method⟩) rest

/-- Adds the edges of entries numbered from `source` on. -/
def addAllEdges (names : Numbering) (source : Nat) (b : Store.Builder) :
    List Record → Except Store.Error Store.Builder
  | [] => .ok b
  | r :: rest => do
    addAllEdges names (source + 1) (← addEdges names source r.dn b r.edges) rest

end Document

/-- The store of an object file's contents. The attributes in `indexed` get an index. -/
def Store.ofDocument (indexed : List String) (spares : Store.Spares) (d : Document) :
    Except Store.Error Store := do
  let b := indexed.foldl Store.Builder.markIndexed {}
  let (b, names) ← Document.addRecords spares [] b d.records
  let b ← Document.addAllEdges names 0 b d.records
  b.build

/-- The store of an object file's text. -/
def Store.load (indexed : List String) (spares : Store.Spares) (text : String) :
    Except Store.Error Store :=
  match Document.read? text with
  | some d => Store.ofDocument indexed spares d
  | none => .error .malformed

end Directory
