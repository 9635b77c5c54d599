import Notebook.Machine.Scope

set_option autoImplicit false

namespace Notebook.Machine

open Notebook.Text

def subjectIsSequence (v : Value) : M Bool := do
  match ← payload v with
  | .list _ | .tuple _ | .range .. => return true
  | _ => return false

def subjectIsMapping (v : Value) : M Bool := do
  match ← payload v with
  | .dict _ | .exports _ => return true
  | _ => return false

def keyOf? (h : Host) (subject key : Value) : M (Option Value) := do
  match ← payload subject, key with
  | .dict es, _ => dictGet? h es key
  | .exports e, .str s => return e.get? s
  | _, _ => return none

def keysOf (h : Host) (subject : Value) : List Value → M (Option (List Value))
  | [] => return some []
  | k :: ks => do
    match ← keyOf? h subject k with
    | none => return none
    | some v => return (← keysOf h subject ks).map (v :: ·)

def restOf (h : Host) (subject : Value) (keys : List Value) : M Value := do
  let entries ← entriesOf h subject
  newDict (← entries.filterM fun (k, _) => do return !(← keys.anyM (sameItem h k)))

def matchesSelf (cls : Ref) : M Bool := do
  let name ← nativeName cls
  return ["bool", "bytearray", "bytes", "dict", "float", "frozenset", "int", "list", "set", "str",
    "tuple", "OrderedDict"].contains name

/-- The attribute names of positional patterns; nothing if the subject itself is matched. -/
def positionalNames (h : Host) (cls : Value) (c : Class) (r : Ref) (count : Nat) :
    M (Option (List String)) := do
  let tooMany (allowed : Nat) : M (Option (List String)) :=
    typeError
      s!"{c.name}() accepts {allowed} positional sub-pattern{plural allowed} ({count} given)"
  match ← getAttr? h cls "__match_args__" with
  | some v =>
    match ← payload v with
    | .tuple items =>
      if items.length < count then return ← tooMany items.length
      let names ← (items.take count).mapM fun x => do
        match ← core x with
        | .str s => pure s
        | w => typeError s!"__match_args__ elements must be strings (got {← typeName w})"
      return some names
    | _ => typeError s!"{c.name}.__match_args__ must be a tuple (got {← typeName v})"
  | none =>
    if ← matchesSelf r then
      if count > 1 then return ← tooMany 1
      return none
    tooMany 0

def attributesOf (h : Host) (v : Value) : List String → M (Option (List Value))
  | [] => return some []
  | n :: ns => do
    let absent ← newOf "object" .plain
    let x ← attrOr h v n (return absent)
    if x.is absent then return none
    return (← attributesOf h v ns).map (x :: ·)

def repeatedName? : List String → Option String
  | [] => none
  | n :: ns => if ns.contains n then some n else repeatedName? ns

/-- The parts of a subject that a class pattern looks at; nothing if the subject is of no such class
or lacks an attribute. -/
def classParts (h : Host) (subject cls : Value) (count : Nat) (names : List String) :
    M (Option (List Value)) := do
  match cls, ← asClass cls with
  | .ref r, some c =>
    if !(← isInstance subject cls) then return none
    if count == 0 then return ← attributesOf h subject names
    match ← positionalNames h cls c r count with
    | none => return (← attributesOf h subject names).map (subject :: ·)
    | some positional =>
      match repeatedName? (positional ++ names) with
      | some n => typeError s!"{c.name}() got multiple sub-patterns for attribute {quote n}"
      | none => attributesOf h subject (positional ++ names)
  | _, _ => typeError "called match pattern must be a class"

/-! Taking sequences apart. -/

def takeItems (h : Host) (it : Value) : Nat → M (List Value)
  | 0 => return []
  | n + 1 => do
    match ← nextItem h it with
    | some v => return v :: (← takeItems h it n)
    | none => return []

def unpackIter (h : Host) (v : Value) : M Value := do
  let isPlain := (← special? v "__iter__").isNone && (← special? v "__getitem__").isNone
  if isPlain && (← nativeIter? v).isNone then
    typeError s!"cannot unpack non-iterable {← typeName v} object"
  iterOf h v

def unpackExact (h : Host) (v : Value) (n : Nat) : M (List Value) := do
  let it ← unpackIter h v
  let items ← takeItems h it n
  if items.length < n then
    valueError s!"not enough values to unpack (expected {n}, got {items.length})"
  match ← nextItem h it with
  | some _ => valueError s!"too many values to unpack (expected {n})"
  | none => return items

def unpackRest (h : Host) (v : Value) (before after : Nat) : M (List Value) := do
  let it ← unpackIter h v
  let items := (← drain h it patience #[]).toList
  if items.length < before + after then
    valueError
      s!"not enough values to unpack (expected at least {before + after}, got {items.length})"
  let middle := (items.drop before).take (items.length - before - after)
  return items.take before ++ [← newList middle] ++ items.drop (items.length - after)

end Notebook.Machine
