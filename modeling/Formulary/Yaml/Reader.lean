import Formulary.Yaml.Document
import Formulary.Yaml.Merge
import Formulary.Yaml.Slots

namespace Formulary.Yaml

/-! # Reading settings

The values of a document are made from its nodes.  A collection has its number
as soon as its node is met, and is filled in later, in the order in which the
collections were met; the values without parts that stand in it are read then.
So of several errors the one in an outer collection comes first.
-/

structure Building where
  nodes : Nodes
  /-- The values of the nodes that have been met. -/
  known : List (Nat × Item)
  collections : List Collection
  /-- The nodes of the collections that are still to be filled in, with their numbers. -/
  waiting : List (Nat × Nat)

namespace Building

def start (nodes : Nodes) : Building := ⟨nodes, [], [], []⟩

def note (node : Nat) (item : Item) (building : Building) : Item × Building :=
  (item, { building with known := (node, item) :: building.known })

def await (node : Nat) (empty : Collection) (building : Building) : Item × Building :=
  let number := building.collections.length
  { building with
    collections := building.collections ++ [empty]
    waiting := building.waiting ++ [(node, number)] }.note node (.collection number)

def fill (number : Nat) (found : Collection) (building : Building) : Building :=
  { building with collections := building.collections.set number found }

end Building

/-- The text of a node that is tagged as a scalar.  A mapping has the text of
the member whose key is tagged as its value. -/
def Nodes.text (nodes : Nodes) (fuel number : Nat) : Except ReadError Text :=
  match fuel with
  | 0 => .error (.fatal .nestedTooDeeply)
  | fuel + 1 =>
    match nodes.content? number with
    | some (.scalar text) => .ok text
    | some (.mapping members) =>
      match members.find? fun member => nodes.hasTag .value member.1 with
      | some (_, value) => nodes.text fuel value
      | none => .error .malformed
    | _ => .error .malformed

def Nodes.atom (nodes : Nodes) (number : Nat) (node : Node) : Except ReadError Atom := do
  let text ← nodes.text (nodes.length + 1) number
  match node.tag, node.content with
  | .timestamp, .mapping _ => .error (.fatal .mappingAsDate)
  | tag, _ => Scalar.value number tag text

namespace Building

def item (number : Nat) (building : Building) : Except ReadError (Item × Building) :=
  match building.known.lookup number with
  | some found => .ok (found, building)
  | none => do
    let node ← orMalformed building.nodes[number]?
    match node.tag with
    | .seq => return building.await number (.sequence [])
    | .map => return building.await number (.mapping [])
    | .set => return building.await number (.set [])
    | .omap | .pairs => return building.await number (.pairs [])
    | .merge | .value | .unknown => .error .malformed
    | _ => return building.note number (.atom (← building.nodes.atom number node))

def items : List Nat → Building → Except ReadError (List Item × Building)
  | [], building => .ok ([], building)
  | number :: rest, building => do
    let (found, building) ← building.item number
    let (following, building) ← items rest building
    return (found :: following, building)

/-- The value of a node that is a key.  A collection cannot be one. -/
def key (number : Nat) (building : Building) : Except ReadError (Atom × Building) := do
  match ← building.item number with
  | (.atom found, building) => return (found, building)
  | (.collection _, _) => .error .malformed

/-- The members of a mapping, put behind members that are known. -/
def members (found : List (Atom × Item)) :
    List (Nat × Nat) → Building → Except ReadError (List (Atom × Item) × Building)
  | [], building => .ok (found, building)
  | (first, second) :: rest, building => do
    let (key, building) ← building.key first
    let (value, building) ← building.item second
    members (key.insert value found) rest building

/-- The members of a mapping, with those that are merged into it. -/
def mapping (number : Nat) (building : Building) :
    Except ReadError (List (Atom × Item) × Building) := do
  let nodes ← building.nodes.resolveMerges number
  members [] (nodes.members number) { building with nodes := nodes }

/-- The pairs of a sequence of mappings with one member each. -/
def pairs : List Nat → Building → Except ReadError (List (Item × Item) × Building)
  | [], building => .ok ([], building)
  | number :: rest, building =>
    match building.nodes.content? number with
    | some (.mapping [(first, second)]) => do
      let (key, building) ← building.item first
      let (value, building) ← building.item second
      let (following, building) ← pairs rest building
      return ((key, value) :: following, building)
    | _ => .error .malformed

def collection (number : Nat) (building : Building) :
    Except ReadError (Collection × Building) := do
  let node ← orMalformed building.nodes[number]?
  match node.tag, node.content with
  | .seq, .sequence parts =>
    let (found, building) ← building.items parts
    return (.sequence found, building)
  | .map, .mapping _ =>
    let (found, building) ← building.mapping number
    return (.mapping found, building)
  | .set, .mapping _ =>
    let (found, building) ← building.mapping number
    return (.set (Slots.order (found.map Prod.fst)), building)
  | .omap, .sequence parts | .pairs, .sequence parts =>
    let (found, building) ← building.pairs parts
    return (.pairs found, building)
  | _, _ => .error .malformed

def finish (fuel : Nat) (building : Building) : Except ReadError Building :=
  match fuel, building.waiting with
  | _, [] => .ok building
  | 0, _ => .error .malformed
  | fuel + 1, (node, number) :: rest => do
    let (found, building) ← { building with waiting := rest }.collection node
    finish fuel (building.fill number found)

end Building

/-- The values of a document.  Each node is met once, so the number of nodes
bounds that of the collections. -/
def Tree.values (tree : Tree) : Except ReadError Document := do
  let (root, building) ← (Building.start tree.nodes).item tree.root
  let building ← building.finish tree.nodes.length
  return ⟨root, building.collections⟩

/-- The values in a text of settings; a text without a document has the value null. -/
def read (text : Text) : Except ReadError Document := do
  match ← document text with
  | some tree => tree.values
  | none => return .ofAtom .null

/-! ## Readers

What reads settings is an argument of everything that loads them.
-/

/-- Why a text gives no document. -/
inductive Refusal where
  /-- The text is not of the form of settings, as the reader puts it in words of its own. -/
  | malformed (words : Text)
  | fatal (error : Fatal)
deriving DecidableEq, Repr

abbrev Reader := Text → Except Refusal Document

/-- A mark that stands for words. -/
def unworded : Text := "<yaml>"

/-- The reader above, which has no words for what is wrong with a text. -/
def reader : Reader := fun text =>
  (read text).mapError fun
    | .malformed => .malformed unworded
    | .fatal error => .fatal error

end Formulary.Yaml
