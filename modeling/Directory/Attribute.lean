import Directory.Numbering
import Directory.Text.Lower

/-!
# Attributes and their registry

Attributes are numbered in the order in which their names first turn up, and a name in any letter
case means the same attribute. What is known of attributes is kept by number, and a second table
leads from names to numbers.

- `Registry.Tables`: both tables. `Tables.find?` looks a name up; `Tables.register`, `Tables.intern`
  look it up and add it if it is new, and the first also adds flags.
- `Registry.Tables.Agree`: both tables say the same. `Tables.Agree.register`: they still do after a
  name was registered.
- `Registry`: tables that agree.
- `Registry.standard`: the registry that knows the common directory attributes.
-/

namespace Directory

open Text (lower)

/-- An attribute, by its number in a registry. -/
structure Attribute where
  /-- The position in the registry. -/
  id : Nat
deriving DecidableEq, Repr

/-- What is known of an attribute besides its name. -/
structure Attribute.Flags where
  /-- Stores keep an index of its values. -/
  indexed : Bool := false
  /-- Its values identify an entry. -/
  mergeable : Bool := false
deriving DecidableEq, Repr

/-- The union of two sets of flags. -/
instance : Union Attribute.Flags where
  union f g := ⟨f.indexed || g.indexed, f.mergeable || g.mergeable⟩

/-- A name in a registry, in the spelling that was registered first. -/
structure Registration where
  /-- The canonical spelling. -/
  name : String
  /-- The flags registered for the name so far. -/
  flags : Attribute.Flags
deriving DecidableEq, Repr

/-- What is known of attributes, by number and by name. -/
structure Registry.Tables where
  /-- The registrations, in order of arrival. The attribute numbered `i` is the one registered at
  `i`. -/
  registrations : List Registration := []
  /-- The numbers of the attributes under their folded names. -/
  byName : Numbering := []
deriving DecidableEq, Repr

namespace Registry.Tables

/-- The tables without names. -/
def empty : Tables where

/-- The number of attributes. -/
def size (t : Tables) : Nat :=
  t.registrations.length

/-- The attribute of a name, which may be spelt in any letter case. -/
def find? (t : Tables) (name : String) : Option Attribute :=
  (t.byName.lookup (lower name)).map Attribute.mk

/-- Gives an attribute more flags. -/
def addFlags (t : Tables) (a : Attribute) (flags : Attribute.Flags) : Tables :=
  { t with
    registrations := t.registrations.modify a.id fun e => { e with flags := e.flags ∪ flags } }

/-- The attribute of a name, which gains the flags. A new name goes to the end. -/
def register (t : Tables) (name : String) (flags : Attribute.Flags) : Attribute × Tables :=
  match t.find? name with
  | some a => (a, t.addFlags a flags)
  | none =>
    (⟨t.size⟩,
      { registrations := t.registrations ++ [⟨name, flags⟩]
        byName := (lower name, t.size) :: t.byName })

/-- The attribute of a name. A new name goes to the end, without flags. -/
def intern (t : Tables) (name : String) : Attribute × Tables :=
  match t.find? name with
  | some a => (a, t)
  | none => t.register name {}

/-- The attribute of a name, flagged as indexed from now on. -/
def markIndexed (t : Tables) (name : String) : Attribute × Tables :=
  t.register name { indexed := true }

/-- The canonical spelling of an attribute's name. A number without a name is shown as it is. -/
def nameOf (t : Tables) (a : Attribute) : String :=
  match t.registrations[a.id]? with
  | some e => e.name
  | none => "attr#" ++ toString a.id

/-- The flags of an attribute. A number without a name has none. -/
def flagsOf (t : Tables) (a : Attribute) : Attribute.Flags :=
  match t.registrations[a.id]? with
  | some e => e.flags
  | none => {}

/-- The attributes flagged as indexed, in ascending order. -/
def indexed (t : Tables) : List Attribute :=
  (List.range t.size).map Attribute.mk |>.filter fun a => (t.flagsOf a).indexed

/-! ## Agreement -/

/-- The names of the attributes, folded. -/
def keys (t : Tables) : List String :=
  t.registrations.map fun e => lower e.name

/-- Whether names lead to the attributes that are called so. -/
def Agree (t : Tables) : Prop :=
  t.byName.Of t.keys

theorem length_keys (t : Tables) : t.keys.length = t.size :=
  List.length_map _

/-- Flags are no part of names. -/
theorem keys_addFlags (t : Tables) (a : Attribute) (flags : Attribute.Flags) :
    (t.addFlags a flags).keys = t.keys := by
  apply List.ext_getElem?
  intro i
  rw [keys, keys, addFlags, List.getElem?_map, List.getElem?_map, List.getElem?_modify]
  split
  · cases t.registrations[i]? <;> rfl
  · cases t.registrations[i]? <;> rfl

theorem agree_empty : empty.Agree :=
  Numbering.of_nil

/-- A name that is registered goes to the end of both tables or of neither. -/
theorem Agree.register {t : Tables} (h : t.Agree) (name : String) (flags : Attribute.Flags) :
    (t.register name flags).2.Agree := by
  rw [Tables.register]
  split
  · rw [Agree, keys_addFlags]
    exact h
  · rename_i hnone
    have hnew : t.byName.lookup (lower name) = none := Option.map_eq_none_iff.mp hnone
    rw [Agree, keys, List.map_append, ← keys, ← length_keys]
    exact Numbering.Of.concat h hnew

theorem Agree.intern {t : Tables} (h : t.Agree) (name : String) : (t.intern name).2.Agree := by
  rw [Tables.intern]
  split
  · exact h
  · exact h.register name {}

end Registry.Tables

/-! ## Registries -/

/-- The attribute names seen so far: tables that agree. -/
structure Registry extends Registry.Tables where
  /-- Names lead to the attributes that are called so. -/
  agree : toTables.Agree
deriving DecidableEq

namespace Registry

/-- The registry without names. -/
def empty : Registry :=
  ⟨.empty, Tables.agree_empty⟩

/-- The attribute of a name, which gains the flags. A new name goes to the end. -/
def register (r : Registry) (name : String) (flags : Attribute.Flags) : Attribute × Registry :=
  let p := r.toTables.register name flags
  (p.1, ⟨p.2, r.agree.register name flags⟩)

/-- The attribute of a name. A new name goes to the end, without flags. -/
def intern (r : Registry) (name : String) : Attribute × Registry :=
  let p := r.toTables.intern name
  (p.1, ⟨p.2, r.agree.intern name⟩)

/-- The attribute of a name, flagged as indexed from now on. -/
def markIndexed (r : Registry) (name : String) : Attribute × Registry :=
  r.register name { indexed := true }

/-- The attributes that every directory knows. Names that identify an entry can be merged on. -/
def standardNames : List (String × Attribute.Flags) :=
  let identity : Attribute.Flags := { indexed := true, mergeable := true }
  let indexed : Attribute.Flags := { indexed := true }
  [("distinguishedName", identity), ("name", indexed), ("cn", indexed),
   ("sAMAccountName", identity), ("objectGUID", identity), ("objectSid", identity),
   ("objectClass", {}), ("objectCategory", {}), ("userAccountControl", {}), ("memberOf", {}),
   ("member", {}), ("displayName", {}), ("description", {}), ("servicePrincipalName", {})]

/-- The registry that knows the common directory attributes. -/
def standard : Registry :=
  standardNames.foldl (fun r (name, flags) => (r.register name flags).2) empty

end Registry

end Directory
