import Notebook.Yaml.Scalar

/-! The graph of a YAML document, with tags resolved. An alias stands for a node that is there
already, which may be one that is still being read, so a node may be part of itself. -/

set_option autoImplicit false

namespace Notebook.Yaml

inductive Node where
  | scalar (tag text : String)
  | sequence (tag : String) (items : List Nat)
  | mapping (tag : String) (entries : List (Nat × Nat))
deriving Inhabited

def Node.tag : Node → String
  | .scalar t _ => t
  | .sequence t _ => t
  | .mapping t _ => t

structure Graph where
  nodes : Array Node
  root : Nat

structure Reading where
  rest : List Token
  /-- What is wrong with the text after the tokens. -/
  error : Option Error
  handles : List (String × String) := []
  nodes : Array Node := #[]
  anchors : List (String × Nat) := []

abbrev Read := EStateM Error Reading

def look : Read Token := do
  let s ← get
  match s.rest with
  | t :: _ => return t
  | [] => throw (s.error.getD .parser)

def skip : Read Unit := modify fun s => { s with rest := s.rest.tail }

def accept (t : Token) : Read Bool := do
  if (← look) == t then
    skip
    return true
  return false

def expect (t : Token) : Read Unit := do
  if !(← accept t) then throw .parser

def isDirective : Token → Bool
  | .tagDirective .. => true
  | .otherDirective .. => true
  | _ => false

def defaultHandles : List (String × String) := [("!", "!"), ("!!", standardTag "")]

def directives : Nat → Bool → List (String × String) → Read Unit
  | 0, _, _ => throw .parser
  | n + 1, versioned, handles => do
    match ← look with
    | .tagDirective handle meaning =>
      if (handles.lookup handle).isSome then throw .parser
      skip
      directives n versioned ((handle, meaning) :: handles)
    | .otherDirective name major =>
      if name == "YAML" && (versioned || major != 1) then throw .parser
      skip
      directives n (versioned || name == "YAML") handles
    | _ => modify fun s => { s with handles := handles ++ defaultHandles }

/-- The marks before a node: an anchor, a tag, or both in either order. -/
def properties : Read (Option String × Option String) := do
  let resolve (handle : Option String) (suffix : String) : Read String := do
    match handle with
    | none => return suffix
    | some h =>
      match (← get).handles.lookup h with
      | some meaning => return meaning ++ suffix
      | none => throw .parser
  match ← look with
  | .anchor name => do
    skip
    match ← look with
    | .tag handle suffix => do
      skip
      return (some name, some (← resolve handle suffix))
    | _ => return (some name, none)
  | .tag handle suffix => do
    skip
    match ← look with
    | .anchor name => do
      skip
      return (some name, some (← resolve handle suffix))
    | _ => return (none, some (← resolve handle suffix))
  | _ => return (none, none)

def addNode (n : Node) : Read Nat := do
  let i := (← get).nodes.size
  modify fun s => { s with nodes := s.nodes.push n }
  return i

def emptyNode : Read Nat := addNode (.scalar (impliedTag "") "")

def collectionTag (tag : Option String) (name : String) : String :=
  match tag with
  | some t => if t == "!" then standardTag name else t
  | none => standardTag name

def scalarTag (tag : Option String) (isPlain : Bool) (text : String) : String :=
  match tag with
  | none => if isPlain then impliedTag text else standardTag "str"
  | some t => if t == "!" then impliedTag text else t

def claim (anchor : Option String) : Read Unit := do
  match anchor with
  | none => return
  | some a => if ((← get).anchors.lookup a).isSome then throw .composer

def place (anchor : Option String) (n : Node) : Read Nat := do
  claim anchor
  let i ← addNode n
  match anchor with
  | none => return i
  | some a =>
    modify fun s => { s with anchors := (a, i) :: s.anchors }
    return i

def fill (i : Nat) (n : Node) : Read Nat := do
  modify fun s => { s with nodes := s.nodes.setIfInBounds i n }
  return i

mutual

/-- A node; block collections are allowed in block context only, and a sequence without
indentation of its own only as a key or value of a block mapping. -/
def node (fuel : Nat) (block unindented : Bool) : Read Nat := do
  match fuel with
  | 0 => throw .parser
  | fuel + 1 =>
    match ← look with
    | .alias name => do
      skip
      match (← get).anchors.lookup name with
      | some n => return n
      | none => throw .composer
    | _ => do
      let (anchor, tag) ← properties
      let sequenceTag := collectionTag tag "seq"
      let mappingTag := collectionTag tag "map"
      let openSequence := place anchor (.sequence sequenceTag [])
      let openMapping := place anchor (.mapping mappingTag [])
      let t ← look
      if unindented && t == .blockEntry then
        let i ← openSequence
        fill i (.sequence sequenceTag (← looseItems fuel))
      else match t with
        | .scalar text isPlain => do
          skip
          place anchor (.scalar (scalarTag tag isPlain text) text)
        | .flowSequenceStart => do
          skip
          let i ← openSequence
          fill i (.sequence sequenceTag (← flowItems fuel true))
        | .flowMappingStart => do
          skip
          let i ← openMapping
          fill i (.mapping mappingTag (← flowEntries fuel true))
        | .sequenceStart => do
          if !block then throw .parser
          skip
          let i ← openSequence
          fill i (.sequence sequenceTag (← blockItems fuel))
        | .mappingStart => do
          if !block then throw .parser
          skip
          let i ← openMapping
          fill i (.mapping mappingTag (← blockEntries fuel))
        | _ => do
          if anchor.isNone && tag.isNone then throw .parser
          place anchor (.scalar (scalarTag tag true "") "")

def nodeUnless (fuel : Nat) (ends : List Token) (block unindented : Bool) : Read Nat := do
  match fuel with
  | 0 => throw .parser
  | fuel + 1 =>
    if ends.contains (← look) then emptyNode else node fuel block unindented

def looseItems (fuel : Nat) : Read (List Nat) := do
  match fuel with
  | 0 => throw .parser
  | fuel + 1 =>
    if !(← accept .blockEntry) then return []
    let item ← nodeUnless fuel [.blockEntry, .key, .value, .blockEnd] true false
    return item :: (← looseItems fuel)

def blockItems (fuel : Nat) : Read (List Nat) := do
  match fuel with
  | 0 => throw .parser
  | fuel + 1 =>
    if !(← accept .blockEntry) then
      expect .blockEnd
      return []
    let item ← nodeUnless fuel [.blockEntry, .blockEnd] true false
    return item :: (← blockItems fuel)

def blockEntries (fuel : Nat) : Read (List (Nat × Nat)) := do
  match fuel with
  | 0 => throw .parser
  | fuel + 1 =>
    let ends : List Token := [.key, .value, .blockEnd]
    if !(← accept .key) then
      expect .blockEnd
      return []
    let k ← nodeUnless fuel ends true true
    let v ← if ← accept .value then nodeUnless fuel ends true true else emptyNode
    return (k, v) :: (← blockEntries fuel)

def flowItems (fuel : Nat) (first : Bool) : Read (List Nat) := do
  match fuel with
  | 0 => throw .parser
  | fuel + 1 =>
    if ← accept .flowSequenceEnd then return []
    if !first then expect .flowEntry
    if ← accept .key then
      let pair ← addNode (.mapping (standardTag "map") [])
      let k ← nodeUnless fuel [.value, .flowEntry, .flowSequenceEnd] false false
      let v ← if ← accept .value then
          nodeUnless fuel [.flowEntry, .flowSequenceEnd] false false
        else emptyNode
      let pair ← fill pair (.mapping (standardTag "map") [(k, v)])
      return pair :: (← flowItems fuel false)
    else if ← accept .flowSequenceEnd then return []
    else
      let item ← node fuel false false
      return item :: (← flowItems fuel false)

def flowEntries (fuel : Nat) (first : Bool) : Read (List (Nat × Nat)) := do
  match fuel with
  | 0 => throw .parser
  | fuel + 1 =>
    if ← accept .flowMappingEnd then return []
    if !first then expect .flowEntry
    if ← accept .key then
      let k ← nodeUnless fuel [.value, .flowEntry, .flowMappingEnd] false false
      let v ← if ← accept .value then
          nodeUnless fuel [.flowEntry, .flowMappingEnd] false false
        else emptyNode
      return (k, v) :: (← flowEntries fuel false)
    else if ← accept .flowMappingEnd then return []
    else
      let k ← node fuel false false
      let v ← emptyNode
      return (k, v) :: (← flowEntries fuel false)

end

def skipDocumentEnds : Nat → Read Unit
  | 0 => return
  | n + 1 => do if ← accept .documentEnd then skipDocumentEnds n

def content (fuel : Nat) : Read Nat := do
  let t ← look
  if isDirective t || t == .documentStart || t == .documentEnd || t == .finish then
    emptyNode
  else node fuel true false

def document (fuel : Nat) : Read (Option Nat) := do
  let t ← look
  if t == .finish then return none
  let root ← if isDirective t || t == .documentStart then do
      directives fuel false []
      expect .documentStart
      content fuel
    else do
      modify fun s => { s with handles := defaultHandles }
      node fuel true false
  let _ ← accept .documentEnd
  skipDocumentEnds fuel
  if (← look) == .finish then return some root
  directives fuel false []
  expect .documentStart
  throw .composer

def isPermitted (c : Char) : Bool :=
  let n := c.toNat
  c == '\t' || c == '\n' || c == '\r' || (0x20 ≤ n && n ≤ 0x7e) || n == 0x85
    || (0xa0 ≤ n && n ≤ 0xfffd) || 0x10000 ≤ n

/-- The graph of a text; the fuel is more than the nesting and the number of tokens can use up. -/
def read (text : String) : Except Error (Option Graph) :=
  let ts := lex text
  match text.toList.find? fun c => !isPermitted c with
  | some c => .error (.reader c.toNat)
  | none =>
    match (document (2 * ts.tokens.size + 10)).run { rest := ts.tokens.toList, error := ts.error } with
    | .ok root s => .ok (root.map fun root => { nodes := s.nodes, root })
    | .error e _ => .error e

end Notebook.Yaml
