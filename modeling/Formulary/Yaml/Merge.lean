import Formulary.Yaml.Node

namespace Formulary.Yaml

/-! # Merging

A mapping takes in the members of others through its members with a merge key.
Members that are merged in stand in front of its own, which therefore take
precedence; of several mappings in one sequence the first takes precedence.  A
mapping that is merged into itself has lost the merge key by then.
-/

namespace Nodes

def content? (nodes : Nodes) (number : Nat) : Option Content :=
  nodes[number]?.map Node.content

/-- The members of a mapping; other nodes have none. -/
def members (nodes : Nodes) (number : Nat) : List (Nat × Nat) :=
  match nodes.content? number with
  | some (.mapping members) => members
  | _ => []

def setMembers (number : Nat) (members : List (Nat × Nat)) (nodes : Nodes) : Nodes :=
  nodes.modify number fun node => { node with content := .mapping members }

def hasTag (tag : Tag) (nodes : Nodes) (number : Nat) : Bool :=
  nodes[number]?.map Node.tag = some tag

/-- A key that is tagged as the value of its mapping is read as a string. -/
def retagKeys (number : Nat) (nodes : Nodes) : Nodes :=
  (nodes.members number).foldl
    (fun nodes member =>
      if nodes.hasTag .value member.1 then
        nodes.modify member.1 fun node => { node with tag := .str }
      else nodes)
    nodes

/-- The first merge key of a mapping: the node under it, and the other members. -/
def takeMerge? (nodes : Nodes) : List (Nat × Nat) → Option (Nat × List (Nat × Nat))
  | [] => none
  | (key, value) :: rest =>
    if nodes.hasTag .merge key then some (value, rest)
    else (takeMerge? nodes rest).map fun (found, others) => (found, (key, value) :: others)

mutual

def merge (fuel number : Nat) (nodes : Nodes) : Except ReadError Nodes :=
  match fuel with
  | 0 => .error .malformed
  | fuel + 1 => do
    let (merged, nodes) ← gather fuel number [] (nodes.retagKeys number)
    return nodes.setMembers number (merged ++ nodes.members number)

/-- Take the merge keys out of a mapping one by one, and gather the members
that they stand for. -/
def gather (fuel number : Nat) (merged : List (Nat × Nat)) (nodes : Nodes) :
    Except ReadError (List (Nat × Nat) × Nodes) :=
  match fuel with
  | 0 => .error .malformed
  | fuel + 1 =>
    match nodes.takeMerge? (nodes.members number) with
    | none => .ok (merged, nodes)
    | some (source, others) => do
      let nodes := nodes.setMembers number others
      match nodes.content? source with
      | some (.mapping _) =>
        let nodes ← merge fuel source nodes
        gather fuel number (merged ++ nodes.members source) nodes
      | some (.sequence items) =>
        let (found, nodes) ← items.foldlM
          (fun (state : List (Nat × Nat) × Nodes) item => do
            match state.2.content? item with
            | some (.mapping _) =>
              let nodes ← merge fuel item state.2
              return (nodes.members item ++ state.1, nodes)
            | _ => .error .malformed)
          ([], nodes)
        gather fuel number (merged ++ found) nodes
      | _ => .error .malformed

end

def memberCount (nodes : Nodes) : Nat :=
  nodes.foldl
    (fun total node =>
      match node.content with
      | .mapping members => total + members.length
      | _ => total)
    0

/-- The nodes after the merge keys of a mapping have been resolved.  Every step
on the way takes a merge key out or follows one. -/
def resolveMerges (number : Nat) (nodes : Nodes) : Except ReadError Nodes :=
  nodes.merge (3 * nodes.memberCount + 3) number

end Nodes

end Formulary.Yaml
