import Formulary.Yaml.Value

namespace Formulary.Yaml

/-! # Documents

The values of a document.  Collections have numbers by which they refer to
each other, so one of them can be a part of several others or of itself.  A
value is unfolded to a tree for messages.
-/

/-- A value without parts, or the number of a collection. -/
inductive Item where
  | atom (value : Atom)
  | collection (number : Nat)
deriving DecidableEq, Repr, Inhabited

/-- Members keep the order of the text, but numbers in a set that of their slots;
a repeated key keeps its first place and takes its last value. -/
inductive Collection where
  | sequence (items : List Item)
  | mapping (members : List (Atom × Item))
  | set (members : List Atom)
  | pairs (pairs : List (Item × Item))
deriving DecidableEq, Repr

structure Document where
  root : Item
  collections : List Collection
deriving DecidableEq, Repr

namespace Document

def ofAtom (value : Atom) : Document := ⟨.atom value, []⟩

/-- The tree of a value, seen from inside the collections that are `outer`. -/
def unfold (document : Document) (fuel : Nat) (outer : List Nat) (item : Item) : Value :=
  match fuel, item with
  | _, .atom value => .atom value
  | 0, .collection _ => .cycle false
  | fuel + 1, .collection number =>
    let inside := number :: outer
    match document.collections[number]? with
    | none => .cycle false
    | some (.sequence items) =>
      if outer.contains number then .cycle false
      else .sequence (items.map (document.unfold fuel inside))
    | some (.mapping members) =>
      if outer.contains number then .cycle true
      else .mapping (members.map fun member => (member.1, document.unfold fuel inside member.2))
    | some (.set members) => .set members
    | some (.pairs pairs) =>
      if outer.contains number then .cycle false
      else
        .pairs (pairs.map fun pair =>
          (document.unfold fuel inside pair.1, document.unfold fuel inside pair.2))

/-- The tree of a value.  No collection is twice on a way into it, so their
number bounds its depth. -/
def tree (document : Document) (item : Item) : Value :=
  document.unfold (document.collections.length + 1) [] item

def members? (document : Document) : Item → Option (List (Atom × Item))
  | .atom _ => none
  | .collection number =>
    match document.collections[number]? with
    | some (.mapping members) => some members
    | _ => none

end Document

end Formulary.Yaml
