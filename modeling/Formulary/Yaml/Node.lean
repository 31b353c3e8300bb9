import Formulary.Yaml.Token
import Formulary.Yaml.Scalar

namespace Formulary.Yaml

/-! # Nodes

The nodes that tokens write down: scalars, sequences and mappings, each with
its tag.  A node is known by its number, so that an alias is the number of the
node that its anchor names, inside that node as well as behind it.  A text of
settings holds one document at most.
-/

/-- What a node holds; parts are given by their numbers. -/
inductive Content where
  | scalar (text : Text)
  | sequence (items : List Nat)
  | mapping (members : List (Nat × Nat))
deriving DecidableEq, Repr

structure Node where
  tag : Tag
  content : Content
deriving DecidableEq, Repr

/-- The nodes of a document by their numbers. -/
abbrev Nodes := List Node

abbrev TagHandles := List (Text × Text)

def defaultHandles : TagHandles := [("!", "!"), ("!!", Tag.standardLead)]

/-- What is left to be read, and the anchors and nodes so far. -/
structure Reading where
  tokens : List Token
  anchors : List (Text × Nat)
  nodes : Nodes

namespace Reading

def next (reading : Reading) : Option Token := reading.tokens.head?

/-- The reading behind its next token. -/
def drop (reading : Reading) : Reading :=
  { reading with tokens := reading.tokens.drop 1 }

/-- The reading in front of other tokens. -/
def resume (tokens : List Token) (reading : Reading) : Reading :=
  { reading with tokens := tokens }

def add (anchor : Option Text) (node : Node) (reading : Reading) : Nat × Reading :=
  let number := reading.nodes.length
  (number, { reading with
    anchors := (anchor.map fun name => (name, number)).toList ++ reading.anchors
    nodes := reading.nodes ++ [node] })

def fill (number : Nat) (node : Node) (reading : Reading) : Reading :=
  { reading with nodes := reading.nodes.set number node }

/-- Add the node that stands where nothing is written. -/
def addEmpty (reading : Reading) : Nat × Reading :=
  reading.add none ⟨Scalar.implicitTag [], .scalar []⟩

end Reading

def misplaced : List Token → ReadError
  | .failed error :: _ => error
  | _ => .malformed

/-- What stands in front of a node: an anchor and the full name of a tag. -/
structure Properties where
  anchor : Option Text
  tag : Option Text

namespace Properties

/-- The tag of a scalar.  A lone exclamation mark is no tag, but lets the text decide. -/
def scalarTag (properties : Properties) (text : Text) (plain : Bool) : Tag :=
  match properties.tag with
  | none => if plain then Scalar.implicitTag text else .str
  | some tag => if tag = "!" then Scalar.implicitTag text else .ofName tag

def collectionTag (properties : Properties) (default : Tag) : Tag :=
  match properties.tag with
  | none => default
  | some tag => if tag = "!" then default else .ofName tag

end Properties

def fullName (handles : TagHandles) (handle : Option Text) (suffix : Text) :
    Except ReadError Text :=
  match handle with
  | none => .ok suffix
  | some handle => orMalformed ((handles.lookup handle).map (· ++ suffix))

/-- The anchor and the tag in front of a node, in either order, and the tokens behind them. -/
def properties (handles : TagHandles) (tokens : List Token) :
    Except ReadError (Properties × List Token) :=
  match tokens with
  | .anchor anchor :: .tag handle suffix :: rest => do
    return (⟨some anchor, some (← fullName handles handle suffix)⟩, rest)
  | .anchor anchor :: rest => .ok (⟨some anchor, none⟩, rest)
  | .tag _ _ :: .failed error :: _ => .error error
  | .tag handle suffix :: .anchor anchor :: rest => do
    return (⟨some anchor, some (← fullName handles handle suffix)⟩, rest)
  | .tag handle suffix :: rest => do
    return (⟨none, some (← fullName handles handle suffix)⟩, rest)
  | _ => .ok (⟨none, none⟩, tokens)

def checkAnchor (properties : Properties) (reading : Reading) : Except ReadError Unit :=
  match reading.next, properties.anchor with
  | some (.failed error), _ => .error error
  | _, some anchor => if (reading.anchors.lookup anchor).isNone then .ok () else .error .malformed
  | _, none => .ok ()

/-- Where a node stands, which decides which blocks may be written there. -/
inductive Position where
  | block
  /-- A key or value in a block, where the entries of a sequence need not be indented. -/
  | blockMember
  | flow
deriving DecidableEq

/-- The greatest number of nodes around a node. -/
def depthLimit : Nat := 487

/-- Read a sequence from its parts.  It has its number, and its anchor names
it, before they are read. -/
def readSequence (properties : Properties)
    (items : Reading → Except ReadError (List Nat × Reading)) (reading : Reading) :
    Except ReadError (Nat × Reading) := do
  let tag := properties.collectionTag .seq
  let (number, reading) := reading.add properties.anchor ⟨tag, .sequence []⟩
  let (found, reading) ← items reading
  return (number, reading.fill number ⟨tag, .sequence found⟩)

/-- Read a mapping from its parts, in the same way. -/
def readMapping (properties : Properties)
    (members : Reading → Except ReadError (List (Nat × Nat) × Reading)) (reading : Reading) :
    Except ReadError (Nat × Reading) := do
  let tag := properties.collectionTag .map
  let (number, reading) := reading.add properties.anchor ⟨tag, .mapping []⟩
  let (found, reading) ← members reading
  return (number, reading.fill number ⟨tag, .mapping found⟩)

/-- Read a node with an anchor or a tag only. -/
def readMissing (properties : Properties) (reading : Reading) : Except ReadError (Nat × Reading) :=
  if properties.anchor.isSome || properties.tag.isSome then
    .ok (reading.add properties.anchor ⟨properties.scalarTag [] true, .scalar []⟩)
  else .error (misplaced reading.tokens)

/-- The tokens behind the comma in front of an item inside brackets; the first item has none. -/
def afterComma (first : Bool) (reading : Reading) : Except ReadError Reading :=
  match first, reading.tokens with
  | true, _ => .ok reading
  | false, .flowEntry :: rest => .ok (reading.resume rest)
  | false, tokens => .error (misplaced tokens)

mutual

/-- Read the node that the tokens begin with, inside a number of others. -/
def readNode (handles : TagHandles) (fuel depth : Nat) (position : Position)
    (reading : Reading) : Except ReadError (Nat × Reading) :=
  match fuel with
  | 0 => .error .malformed
  | fuel + 1 =>
    if depthLimit < depth then .error (.fatal .nestedTooDeeply)
    else
      match reading.tokens with
      | .alias name :: rest => do
        let node ← orMalformed (reading.anchors.lookup name)
        return (node, reading.resume rest)
      | tokens => do
        let (properties, rest) ← properties handles tokens
        let reading := reading.resume rest
        checkAnchor properties reading
        match reading.next, position with
        | some (.scalar text plain), _ =>
          return reading.drop.add properties.anchor
            ⟨properties.scalarTag text plain, .scalar text⟩
        | some .flowSequenceStart, _ =>
          readSequence properties (readFlowItems handles fuel (depth + 1) true) reading.drop
        | some .flowMappingStart, _ =>
          readMapping properties (readFlowPairs handles fuel (depth + 1) true) reading.drop
        | some .blockEntry, .blockMember =>
          readSequence properties (readEntries handles fuel (depth + 1) false) reading
        | some .blockSequenceStart, .block | some .blockSequenceStart, .blockMember =>
          readSequence properties (readEntries handles fuel (depth + 1) true) reading.drop
        | some .blockMappingStart, .block | some .blockMappingStart, .blockMember =>
          readMapping properties (readMembers handles fuel (depth + 1)) reading.drop
        | _, _ => readMissing properties reading

/-- Read the entries of a block sequence.  One that is `closed` ends with its block. -/
def readEntries (handles : TagHandles) (fuel depth : Nat) (closed : Bool)
    (reading : Reading) : Except ReadError (List Nat × Reading) :=
  match fuel with
  | 0 => .error .malformed
  | fuel + 1 =>
    match reading.tokens with
    | .blockEntry :: rest => do
      let reading := reading.resume rest
      let isEmpty :=
        match reading.next with
        | some .blockEntry | some .blockEnd => true
        | some .key | some .value => !closed
        | _ => false
      let (node, reading) ←
        if isEmpty then pure reading.addEmpty else readNode handles fuel depth .block reading
      let (nodes, reading) ← readEntries handles fuel depth closed reading
      return (node :: nodes, reading)
    | .blockEnd :: rest => .ok ([], if closed then reading.resume rest else reading)
    | tokens => if closed then .error (misplaced tokens) else .ok ([], reading)

def readMembers (handles : TagHandles) (fuel depth : Nat) (reading : Reading) :
    Except ReadError (List (Nat × Nat) × Reading) :=
  match fuel with
  | 0 => .error .malformed
  | fuel + 1 =>
    match reading.tokens with
    | .blockEnd :: rest => .ok ([], reading.resume rest)
    | .key :: rest => do
      let (key, reading) ← readMember handles fuel depth (reading.resume rest)
      let (value, reading) ← readMemberValue handles fuel depth reading
      let (members, reading) ← readMembers handles fuel depth reading
      return ((key, value) :: members, reading)
    | tokens => .error (misplaced tokens)

/-- Read what stands behind a key or value sign in a block; it may be nothing. -/
def readMember (handles : TagHandles) (fuel depth : Nat) (reading : Reading) :
    Except ReadError (Nat × Reading) :=
  match fuel with
  | 0 => .error .malformed
  | fuel + 1 =>
    match reading.next with
    | some .key | some .value | some .blockEnd => .ok reading.addEmpty
    | _ => readNode handles fuel depth .blockMember reading

/-- Read the value of a member, which may be left out together with its sign. -/
def readMemberValue (handles : TagHandles) (fuel depth : Nat) (reading : Reading) :
    Except ReadError (Nat × Reading) :=
  match fuel with
  | 0 => .error .malformed
  | fuel + 1 =>
    match reading.tokens with
    | .value :: rest => readMember handles fuel depth (reading.resume rest)
    | _ => .ok reading.addEmpty

def readFlowItems (handles : TagHandles) (fuel depth : Nat) (first : Bool)
    (reading : Reading) : Except ReadError (List Nat × Reading) :=
  match fuel with
  | 0 => .error .malformed
  | fuel + 1 =>
    match reading.tokens with
    | .flowSequenceEnd :: rest => .ok ([], reading.resume rest)
    | _ => do
      let reading ← afterComma first reading
      match reading.tokens with
      | .flowSequenceEnd :: rest => return ([], reading.resume rest)
      | .key :: rest => do
        let pair (reading : Reading) : Except ReadError (List (Nat × Nat) × Reading) := do
          let (key, reading) ← readFlowPart handles fuel (depth + 1) .flowSequenceEnd reading
          let (value, reading) ← readFlowValue handles fuel (depth + 1) .flowSequenceEnd reading
          return ([(key, value)], reading)
        let (node, reading) ← readMapping ⟨none, none⟩ pair (reading.resume rest)
        let (items, reading) ← readFlowItems handles fuel depth false reading
        return (node :: items, reading)
      | _ => do
        let (node, reading) ← readNode handles fuel depth .flow reading
        let (items, reading) ← readFlowItems handles fuel depth false reading
        return (node :: items, reading)

def readFlowPairs (handles : TagHandles) (fuel depth : Nat) (first : Bool)
    (reading : Reading) : Except ReadError (List (Nat × Nat) × Reading) :=
  match fuel with
  | 0 => .error .malformed
  | fuel + 1 =>
    match reading.tokens with
    | .flowMappingEnd :: rest => .ok ([], reading.resume rest)
    | _ => do
      let reading ← afterComma first reading
      match reading.tokens with
      | .flowMappingEnd :: rest => return ([], reading.resume rest)
      | .key :: rest => do
        let (key, reading) ← readFlowPart handles fuel depth .flowMappingEnd (reading.resume rest)
        let (value, reading) ← readFlowValue handles fuel depth .flowMappingEnd reading
        let (members, reading) ← readFlowPairs handles fuel depth false reading
        return ((key, value) :: members, reading)
      | _ => do
        let (key, reading) ← readNode handles fuel depth .flow reading
        let (value, reading) := reading.addEmpty
        let (members, reading) ← readFlowPairs handles fuel depth false reading
        return ((key, value) :: members, reading)

/-- Read what stands behind a key sign inside brackets; it may be nothing. -/
def readFlowPart (handles : TagHandles) (fuel depth : Nat) (closing : Token)
    (reading : Reading) : Except ReadError (Nat × Reading) :=
  match fuel with
  | 0 => .error .malformed
  | fuel + 1 =>
    if reading.next = some .value ∨ reading.next = some .flowEntry ∨
        reading.next = some closing then
      .ok reading.addEmpty
    else readNode handles fuel depth .flow reading

/-- Read the value of a member inside brackets, which may be left out. -/
def readFlowValue (handles : TagHandles) (fuel depth : Nat) (closing : Token)
    (reading : Reading) : Except ReadError (Nat × Reading) :=
  match fuel with
  | 0 => .error .malformed
  | fuel + 1 =>
    match reading.tokens with
    | .value :: rest =>
      let reading := reading.resume rest
      if reading.next = some .flowEntry ∨ reading.next = some closing then
        .ok reading.addEmpty
      else readNode handles fuel depth .flow reading
    | _ => .ok reading.addEmpty

end

/-- The directives in front of a document, and the handles that they set.  The
version has to be the first, and nothing may be set twice. -/
def readDirectives (version : Bool) (handles : TagHandles) :
    List Token → Except ReadError (TagHandles × List Token)
  | .directive (.version major _) :: rest =>
    if version ∨ major ≠ 1 then .error .malformed else readDirectives true handles rest
  | .directive (.tagHandle handle lead) :: rest =>
    if (handles.lookup handle).isSome then .error .malformed
    else readDirectives version ((handle, lead) :: handles) rest
  | .directive .reserved :: rest => readDirectives version handles rest
  | tokens => .ok (handles, tokens)

/-- Only ends of documents may be left; a second document is an error. -/
def readEnd : List Token → Except ReadError Unit
  | [] => .ok ()
  | .documentEnd :: rest => readEnd rest
  | tokens => do
    let (_, rest) ← readDirectives false [] tokens
    .error (misplaced rest)

/-- The nodes of a document, and the number of the outermost one. -/
structure Tree where
  nodes : Nodes
  root : Nat

def readContent (handles : TagHandles) (tokens : List Token) : Except ReadError Tree := do
  let (root, reading) ←
    readNode handles (4 * tokens.length + 4) 0 .block ⟨tokens, [], []⟩
  readEnd reading.tokens
  return ⟨reading.nodes, root⟩

def emptyTree : Tree :=
  let (root, reading) := (Reading.mk [] [] []).addEmpty
  ⟨reading.nodes, root⟩

/-- The document that tokens write down, if there is one; there must not be two. -/
def readDocument (tokens : List Token) : Except ReadError (Option Tree) :=
  match tokens with
  | [] => .ok none
  | .directive _ :: _ | .documentStart :: _ => do
    let (handles, rest) ← readDirectives false [] tokens
    match rest with
    | .documentStart :: rest =>
      match rest with
      | [] | .directive _ :: _ | .documentStart :: _ | .documentEnd :: _ => do
        readEnd rest
        return some emptyTree
      | _ => return some (← readContent (handles ++ defaultHandles) rest)
    | _ => .error (misplaced rest)
  | _ => do return some (← readContent defaultHandles tokens)

def document (text : Text) : Except ReadError (Option Tree) :=
  readDocument (tokens text)

end Formulary.Yaml
