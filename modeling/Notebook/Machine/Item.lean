import Notebook.Machine.Iterate

set_option autoImplicit false

namespace Notebook.Machine

open Notebook.Text

def index? (h : Host) (v : Value) : M (Option Int) := do
  match ← core v with
  | .int n => return some n
  | .bool b => return some (if b then 1 else 0)
  | w =>
    match ← special? w "__index__" with
    | some m => return some (← expectIntFrom "__index__" (← callSpecial h m w []))
    | none => return none

def realArg (h : Host) (v : Value) : M Float := do
  match ← special? v "__float__" with
  | some m =>
    match ← callSpecial h m v [] with
    | .float x => return x
    | w => typeError s!"{← typeName v}.__float__ returned non-float (type {← typeName w})"
  | none =>
    match (← core v).num? with
    | some (.int n) => toFloat n
    | some (.float x) => return x
    | _ =>
      match ← index? h v with
      | some n => toFloat n
      | none => typeError s!"must be real number, not {← typeName v}"

def place? (n : Nat) (i : Int) : Option Nat :=
  let j := if i < 0 then i + n else i
  if 0 ≤ j && j < n then some j.toNat else none

structure Span where
  start : Int
  stop : Int
  step : Int

def sliceBound (h : Host) (v : Value) : M (Option Int) := do
  if v.is .none then return none
  match ← index? h v with
  | some n => return some n
  | none => typeError "slice indices must be integers or None or have an __index__ method"

def clamp (low high x : Int) : Int := max low (min high x)

def spanOf (h : Host) (n : Nat) (a b c : Value) : M Span := do
  let step := (← sliceBound h c).getD 1
  if step == 0 then valueError "slice step cannot be zero"
  let len : Int := n
  let (low, high) : Int × Int := if step > 0 then (0, len) else (-1, len - 1)
  let fix (x : Int) : Int := clamp low high (if x < 0 then x + len else x)
  let start := ((← sliceBound h a).map fix).getD (if step > 0 then low else high)
  let stop := ((← sliceBound h b).map fix).getD (if step > 0 then high else low)
  return ⟨start, stop, step⟩

/-- The positions that a slice takes. -/
def Span.places (s : Span) : List Nat :=
  (List.range (rangeLength s.start s.stop s.step)).map fun (i : Nat) =>
    (s.start + s.step * (i : Int)).toNat

def pick {α : Type} (items : Array α) (ps : List Nat) : List α := ps.filterMap fun i => items[i]?

/-- The items of a sequence of native kind, how to make one of the same kind, and what it is called
in messages. -/
structure Sequence where
  items : Array Value
  make : List Value → M Value
  label : String

def joinTexts (vs : List Value) : Value :=
  .str (String.join (vs.map fun
    | .str s => s
    | _ => ""))

def sequence? (v : Value) : M (Option Sequence) := do
  match ← payload v with
  | .list items => return some ⟨items, newList, "list"⟩
  | .tuple items => return some ⟨items.toArray, newTuple, "tuple"⟩
  | .wrapped (.str s) =>
    return some ⟨(s.toList.map fun c => Value.str (String.singleton c)).toArray,
      fun vs => return joinTexts vs, "string"⟩
  | .wrapped (.bytes bs) =>
    return some ⟨(bs.map fun b => Value.int b.toNat).toArray,
      fun vs => return .bytes (vs.map fun
        | .int n => UInt8.ofNat n.toNat
        | _ => 0), "index"⟩
  | _ => return none

def isGeneric (name : String) : Bool :=
  ["list", "dict", "tuple", "set", "frozenset", "type", "enumerate", "OrderedDict", "Future",
    "Task"].contains name

def indexComplaint (label : String) (v : Value) : M String := do
  let t ← typeName v
  match label with
  | "string" => return s!"string indices must be integers, not {quote t}"
  | "index" => return s!"byte indices must be integers or slices, not {t}"
  | l => return s!"{l} indices must be integers or slices, not {t}"

def fitsIndex (k : Value) (i : Int) : M Unit := do
  if i ≥ Int.pow 2 63 || i < -Int.pow 2 63 then
    raise "IndexError" s!"cannot fit {quote (← typeName k)} into an index-sized integer"

def nativeItem (h : Host) (v k : Value) : M Value := do
  match ← sequence? v with
  | some s =>
    match ← payload k with
    | .slice a b c => do s.make (pick s.items (← spanOf h s.items.size a b c).places)
    | _ =>
      match ← index? h k with
      | none => typeError (← indexComplaint s.label k)
      | some i =>
        fitsIndex k i
        match place? s.items.size i with
        | some j => return s.items.getD j .none
        | none =>
          let label := if s.label == "index" then "" else s.label ++ " "
          raise "IndexError" s!"{label}index out of range"
  | none =>
    match ← payload v with
    | .dict es =>
      requireHashable h k
      match ← dictGet? h es k with
      | some x => return x
      | none =>
        match ← special? v "__missing__" with
        | some m => callSpecial h m v [k]
        | none => noKey k
    | .exports e =>
      match k with
      | .str s =>
        match e.get? s with
        | some x => return x
        | none => noKey k
      | _ => noKey k
    | .range a b c =>
      let n := rangeLength a b c
      match ← payload k with
      | .slice p q r =>
        let s ← spanOf h n p q r
        newOf "range" (.range (a + c * s.start) (a + c * s.stop) (c * s.step))
      | _ =>
        match ← index? h k with
        | none => typeError s!"range indices must be integers or slices, not {← typeName k}"
        | some i =>
          match place? n i with
          | some j => return .int (a + c * j)
          | none => raise "IndexError" "range object index out of range"
    | .class c =>
      match ← findDefined "__class_getitem__" c.order with
      | some m => do
        match ← kindOf m with
        | .classMethod f => h.call f [v, k] []
        | _ => h.call m [v, k] []
      | none =>
        if isGeneric c.name then
          let args ← match ← payload k with
            | .tuple items => pure items
            | _ => pure [k]
          newOf "GenericAlias" (.alias v args)
        else typeError s!"type {quote c.name} is not subscriptable"
    | _ => typeError s!"{quote (← typeName v)} object is not subscriptable"

def getItem (h : Host) (v k : Value) : M Value := do
  match ← special? v "__getitem__" with
  | some m => callSpecial h m v [k]
  | none => nativeItem h v k

def replaceSlice (h : Host) (items : Array Value) (a b c : Value) (new : List Value) :
    M (Array Value) := do
  let s ← spanOf h items.size a b c
  if s.step == 1 then
    let stop := max s.start s.stop
    return (items.toList.take s.start.toNat ++ new ++ items.toList.drop stop.toNat).toArray
  let ps := s.places
  if ps.length != new.length then
    valueError s!"attempt to assign sequence of size {new.length} to extended slice of size {ps.length}"
  return (ps.zip new).foldl (fun items (i, v) => items.setIfInBounds i v) items

def nativeSetItem (h : Host) (v k x : Value) : M Unit := do
  match v, ← payload v with
  | .ref r, .list items =>
    match ← payload k with
    | .slice a b c =>
      let isPlain := match ← core c with
        | .none | .int 1 => true
        | _ => false
      let new ← onError "TypeError" (itemsOf h x) fun _ =>
        typeError (if isPlain then "can only assign an iterable"
          else "must assign iterable to extended slice")
      setPayload r (.list (← replaceSlice h items a b c new))
    | _ =>
      match ← index? h k with
      | none => typeError (← indexComplaint "list" k)
      | some i =>
        fitsIndex k i
        match place? items.size i with
        | some j => modifyObj r fun o =>
            match o.payload with
            | .list items => { o with payload := .list (items.setIfInBounds j x) }
            | _ => o
        | none => raise "IndexError" "list assignment index out of range"
  | .ref r, .dict _ =>
    if (← classOf v) == nativeRef "mappingproxy" then
      typeError "'mappingproxy' object does not support item assignment"
    setDictKey h r k x
  | .ref r, .exports e =>
    match k with
    | .str s => setPayload r (.exports (e.assign s x))
    | _ => return
  | _, _ => typeError s!"{quote (← typeName v)} object does not support item assignment"

def setItem (h : Host) (v k x : Value) : M Unit := do
  match ← special? v "__setitem__" with
  | some m => discard (callSpecial h m v [k, x])
  | none => nativeSetItem h v k x

def removeAt {α : Type} (items : Array α) (i : Nat) : Array α :=
  (items.toList.take i ++ items.toList.drop (i + 1)).toArray

def nativeDeleteItem (h : Host) (v k : Value) : M Unit := do
  match v, ← payload v with
  | .ref r, .list items =>
    match ← payload k with
    | .slice a b c =>
      let ps := (← spanOf h items.size a b c).places
      let kept := items.toList.zipIdx.filterMap fun (x, i) => if ps.contains i then none else some x
      setPayload r (.list kept.toArray)
    | _ =>
      match ← index? h k with
      | none => typeError (← indexComplaint "list" k)
      | some i =>
        fitsIndex k i
        match place? items.size i with
        | some j => setPayload r (.list (removeAt items j))
        | none => raise "IndexError" "list assignment index out of range"
  | .ref r, .dict es =>
    if (← classOf v) == nativeRef "mappingproxy" then
      typeError "'mappingproxy' object does not support item deletion"
    requireHashable h k
    match ← findKey h k 0 es.toList with
    | some i => dropEntry r es i
    | none => noKey k
  | .ref r, .exports e =>
    match k with
    | .str s => if e.contains s then setPayload r (.exports (e.remove s)) else noKey k
    | _ => noKey k
  | _, _ =>
    let isSequence := (← nativeLength? v).isSome || (← classOf v) ≥ natives.length
    let verb := if isSequence && (← index? h k).isSome then "doesn't" else "does not"
    typeError s!"{quote (← typeName v)} object {verb} support item deletion"

def deleteItem (h : Host) (v k : Value) : M Unit := do
  match ← special? v "__delitem__" with
  | some m => discard (callSpecial h m v [k])
  | none => nativeDeleteItem h v k

end Notebook.Machine
