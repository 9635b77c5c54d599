import Notebook.Yaml.Node

/-! The data that a YAML document stands for.

A collection is there as soon as its node is met and gets its parts later, in the order in which
collections were met; so an error in a part of one comes after the errors around it. -/

set_option autoImplicit false

namespace Notebook.Yaml

/-- What is made of a node; the parts of collections are given by their nodes. -/
inductive Made where
  | datum (d : Datum)
  | list (items : List Nat)
  | pairs (entries : List (Nat × Nat))
  | dict (entries : List (Datum × Nat))
  | set (items : List Datum)
deriving Inhabited

structure Making where
  nodes : Array Node
  made : Array (Option Made)
  /-- Collections that wait for their parts. -/
  waiting : List Nat := []

abbrev Make := EStateM Error Making

def nodeAt (i : Nat) : Make Node := do return (← get).nodes[i]?.getD (.scalar "" "")

def setMade (i : Nat) (m : Made) : Make Unit :=
  modify fun s => { s with made := s.made.setIfInBounds i (some m) }

def scalarText : Nat → Node → Make String
  | _, .scalar _ s => return s
  | fuel + 1, .mapping _ entries => do
    match ← entries.findM? fun e => return (← nodeAt e.1).tag == standardTag "value" with
    | some e => scalarText fuel (← nodeAt e.2)
    | none => throw .constructor
  | _, _ => throw .constructor

/-- Entries of a mapping after those that it takes over from others by merge keys. Mappings whose
entries are being looked for are not asked again. -/
def mergedEntries (busy : List Nat) : Nat → Nat → Make (List (Nat × Nat))
  | 0, _ => return []
  | fuel + 1, i => do
    match ← nodeAt i with
    | .mapping _ entries =>
      let merges ← entries.filterM fun e => return (← nodeAt e.1).tag == standardTag "merge"
      let own ← entries.filterM fun e => return (← nodeAt e.1).tag != standardTag "merge"
      if busy.contains i then return own
      let taken ← merges.mapM fun e => do
        match ← nodeAt e.2 with
        | .mapping .. => mergedEntries (i :: busy) fuel e.2
        | .sequence _ items =>
          let groups ← items.mapM fun item => do
            match ← nodeAt item with
            | .mapping .. => mergedEntries (i :: busy) fuel item
            | _ => throw .constructor
          return groups.reverse.flatten
        | .scalar .. => throw .constructor
      return taken.flatten ++ own
    | _ => throw .constructor

def collectionTags : List String := ["seq", "map", "omap", "pairs", "set"].map standardTag

def scalarDatum (tag : String) (text : Option String) (value : String) : Except Error Datum :=
  if tag == standardTag "null" then .ok .none
  else if tag == standardTag "bool" then truth value
  else if tag == standardTag "int" then integer value
  else if tag == standardTag "float" then floating value
  else if tag == standardTag "str" then .ok (.str value)
  else if tag == standardTag "binary" then binary value
  else if tag == standardTag "timestamp" then
    match text with
    | some s => time s
    | none => .error .noTimeText
  else .error .constructor

def scalarTags : List String :=
  ["null", "bool", "int", "float", "str", "binary", "timestamp"].map standardTag

def emptyMade (tag : String) : Made :=
  if tag == standardTag "map" then .dict []
  else if tag == standardTag "set" then .set []
  else if tag == standardTag "seq" then .list []
  else .pairs []

def make (i : Nat) : Make Unit := do
  let s ← get
  if (s.made[i]?.getD none).isNone then
    let n ← nodeAt i
    if collectionTags.contains n.tag then
      modify fun s => { s with waiting := s.waiting ++ [i] }
      setMade i (emptyMade n.tag)
    else if scalarTags.contains n.tag then
      let value ← scalarText s.nodes.size n
      let text := match n with
        | .scalar _ s => some s
        | _ => none
      match scalarDatum n.tag text value with
      | .ok d => setMade i (.datum d)
      | .error e => throw e
    else throw .constructor

def makeKey (i : Nat) : Make Datum := do
  match ← nodeAt i with
  | .scalar t s => if t == standardTag "value" then setMade i (.datum (.str s))
  | _ => pure ()
  make i
  match (← get).made[i]?.getD none with
  | some (.datum d) => return d
  | _ => throw .constructor

def putEntry (es : List (Datum × Nat)) (k : Datum) (v : Nat) : List (Datum × Nat) :=
  if es.any (fun e => e.1.same k) then es.map fun e => if e.1.same k then (e.1, v) else e
  else es ++ [(k, v)]

def mappingParts (i : Nat) : Make (List (Datum × Nat)) := do
  let entries ← mergedEntries [] ((← get).nodes.size + 1) i
  entries.foldlM (fun es (k, v) => do
    let key ← makeKey k
    make v
    return putEntry es key v) []

def pairParts (i : Nat) : Make (List (Nat × Nat)) := do
  match ← nodeAt i with
  | .sequence _ items => items.mapM fun item => do
      match ← nodeAt item with
      | .mapping _ [(k, v)] =>
        make k
        make v
        return (k, v)
      | _ => throw .constructor
  | _ => throw .constructor

/-- Gives a collection its parts. -/
def complete (i : Nat) : Make Unit := do
  let n ← nodeAt i
  if n.tag == standardTag "map" then setMade i (.dict (← mappingParts i))
  else if n.tag == standardTag "set" then setMade i (.set ((← mappingParts i).map (·.1)))
  else if n.tag == standardTag "seq" then
    match n with
    | .sequence _ items =>
      items.forM make
      setMade i (.list items)
    | _ => throw .constructor
  else setMade i (.pairs (← pairParts i))

def completeAll : Nat → Make Unit
  | 0 => return
  | fuel + 1 => do
    match (← get).waiting with
    | [] => return
    | i :: rest =>
      modify fun s => { s with waiting := rest }
      complete i
      completeAll fuel

def datumOf (made : Array (Option Made)) : Nat → Nat → Datum
  | 0, _ => .none
  | depth + 1, i =>
    match made[i]?.getD none with
    | none => .none
    | some (.datum d) => d
    | some (.list items) => .list (items.map (datumOf made depth))
    | some (.pairs es) =>
      .list (es.map fun (k, v) => .list [datumOf made depth k, datumOf made depth v])
    | some (.dict es) => .dict (es.map fun (k, v) => (k, datumOf made depth v))
    | some (.set items) => .set items

def depthOf (made : Array (Option Made)) : (fuel : Nat) → (path : List Nat) → Nat → Nat
  | 0, _, _ => 0
  | fuel + 1, path, i =>
    let deepest (parts : List Nat) := (parts.map (depthOf made fuel (i :: path))).foldl max 0
    if path.contains i then 1
    else match made[i]?.getD none with
      | some (.list items) => 1 + deepest items
      | some (.pairs es) => 2 + max (deepest (es.map (·.1))) (deepest (es.map (·.2)))
      | some (.dict es) => 1 + deepest (es.map (·.2))
      | _ => 1

def Graph.datum (g : Graph) : Except Error Datum :=
  let work : Make Unit := do
    make g.root
    completeAll (g.nodes.size + 1)
  match work.run { nodes := g.nodes, made := Array.replicate g.nodes.size none } with
  | .ok _ s => .ok (datumOf s.made (depthOf s.made (s.nodes.size + 1) [] g.root) g.root)
  | .error e _ => .error e

/-- The data of a text with at most one document. -/
def load (text : String) : Except Error Datum := do
  match ← read text with
  | none => return .none
  | some g => g.datum

end Notebook.Yaml
