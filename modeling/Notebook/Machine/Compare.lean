import Notebook.Machine.Digest
import Notebook.Machine.Text

set_option autoImplicit false

namespace Notebook.Machine

open Notebook.Text Notebook.Tree

def expectInt (v : Value) : M Int := do
  match ← core v with
  | .int n => return n
  | .bool b => return if b then 1 else 0
  | w => typeError s!"{quote (← typeName w)} object cannot be interpreted as an integer"

def expectIntFrom (name : String) (v : Value) : M Int := do
  match (← core v).num? with
  | some (.int n) => return n
  | _ => typeError s!"{name} returned non-int (type {← typeName v})"

def rangeLength (a b c : Int) : Nat :=
  if c > 0 then (if a < b then ((b - a - 1) / c + 1).toNat else 0)
  else if c < 0 then (if a > b then ((a - b - 1) / (-c) + 1).toNat else 0)
  else 0

def nativeLength? (v : Value) : M (Option Nat) := do
  match ← payload v with
  | .wrapped (.str s) => return some s.length
  | .wrapped (.bytes bs) => return some bs.length
  | .list items => return some items.size
  | .tuple items => return some items.length
  | .dict es => return some es.size
  | .set items => return some items.size
  | .range a b c => return some (rangeLength a b c)
  | .exports e => return some e.entries.length
  | .view d _ => return some (← dictEntries d).length
  | _ => return none

def lengthOf (h : Host) (v : Value) : M Nat := do
  match ← special? v "__len__" with
  | some m =>
    let n ← expectInt (← callSpecial h m v [])
    if n < 0 then valueError "__len__() should return >= 0"
    if n ≥ Int.pow 2 63 then
      raise "OverflowError" "cannot fit 'int' into an index-sized integer"
    return n.toNat
  | none =>
    match ← nativeLength? v with
    | some n =>
      if n ≥ Nat.pow 2 63 then
        raise "OverflowError" "Python int too large to convert to C ssize_t"
      return n
    | none => typeError s!"object of type {quote (← typeName v)} has no len()"

def truth (h : Host) (v : Value) : M Bool := do
  match v with
  | .none => return false
  | .bool b => return b
  | .int n => return n != 0
  | .float x => return x != 0
  | .complex re im => return re != 0 || im != 0
  | .str s => return s != ""
  | .bytes bs => return !bs.isEmpty
  | .ref _ =>
    match ← special? v "__bool__" with
    | some m =>
      match ← callSpecial h m v [] with
      | .bool b => return b
      | w => typeError s!"__bool__ should return bool, returned {← typeName w}"
    | none =>
      match ← special? v "__len__" with
      | some _ => return (← lengthOf h v) != 0
      | none =>
        match ← payload v with
        | .wrapped (.int n) => return n != 0
        | .wrapped (.float x) => return x != 0
        | _ => return (← nativeLength? v) != some 0
  | _ => return true

/-- An equality of values of native kinds, from the equality of their parts; nothing if the kinds do
not compare. -/
def nativeEqual (eq : Value → Value → M Bool) (a b : Value) : M (Option Bool) := do
  let eqAll (xs ys : List Value) : M Bool := do
    if xs.length != ys.length then return false
    (xs.zip ys).allM fun (x, y) => if x.is y then return true else eq x y
  let inAll (xs ys : List Value) : M Bool := xs.allM fun x => ys.anyM (eq x)
  match ← core a, ← core b with
  | .str s, .str t => return some (s == t)
  | .bytes s, .bytes t => return some (s == t)
  | .bound s f, .bound t g => return some (s.is t && f.is g)
  | .ref r, .ref s =>
    match (← obj r).payload, (← obj s).payload with
    | .list xs, .list ys => return some (← eqAll xs.toList ys.toList)
    | .tuple xs, .tuple ys => return some (← eqAll xs ys)
    | .dict es, .dict fs =>
      if es.size != fs.size then return some false
      return some (← es.toList.allM fun (k, v) => do
        fs.toList.anyM fun (l, w) => do
          if ← eq k l then (if v.is w then return true else eq v w) else return false)
    | .set xs, .set ys => return some (xs.size == ys.size && (← inAll xs.toList ys.toList))
    | .range a b c, .range d e f =>
      let n := rangeLength a b c
      return some (n == rangeLength d e f && (n == 0 || (a == d && (n == 1 || c == f))))
    | .slice a b c, .slice d e f => return some (← eqAll [a, b, c] [d, e, f])
    | .exception x, .exception y =>
      if (← isA a "Interrupted") && (← isA b "Interrupted") then
        return some (← eqAll x.args y.args)
      return none
    | .exports x, .exports y =>
      if x.entries.length != y.entries.length then return some false
      return some (← x.entries.allM fun (k, v) =>
        match y.get? k with
        | some w => eq v w
        | none => return false)
    | .exports x, .dict fs =>
      if x.entries.length != fs.size then return some false
      return some (← x.entries.allM fun (k, v) => do
        fs.toList.anyM fun (l, w) => do
          if ← eq (.str k) l then eq v w else return false)
    | .view _ .keys, _ | _, .view _ .keys => return none
    | _, _ => return none
  | x, y =>
    match x.num?, y.num? with
    | some m, some n => return some (sameNumber m n)
    | _, _ => return none

def trySpecial (h : Host) (name : String) (self other : Value) : M (Option Value) := do
  match ← special? self name with
  | some m =>
    match ← callSpecial h m self [other] with
    | .notImplemented => return none
    | v => return some v
  | none => return none

def isProperlyDerived (a b : Value) : M Bool := do
  let ca ← classOf a
  let cb ← classOf b
  if ca == cb then return false
  isSubclass ca cb

/-- Tries a special method of one value and the reflected one of the other; a derived class comes
first. -/
def tryBoth (h : Host) (name reflected : String) (a b : Value) : M (Option Value) := do
  match a, b with
  | .ref _, _ | _, .ref _ =>
    if ← isProperlyDerived b a then
      match ← trySpecial h reflected b a with
      | some v => return some v
      | none => trySpecial h name a b
    else
      match ← trySpecial h name a b with
      | some v => return some v
      | none => trySpecial h reflected b a
  | _, _ => return none

def equalFuel (h : Host) : (fuel : Nat) → Value → Value → M Bool
  | 0, _, _ => recursionError " in comparison"
  | fuel + 1, a, b => do
    match ← tryBoth h "__eq__" "__eq__" a b with
    | some v => truth h v
    | none =>
      match ← nativeEqual (equalFuel h fuel) a b with
      | some r => return r
      | none => return a.is b

def equal (h : Host) (a b : Value) : M Bool := equalFuel h nestingLimit a b

def sameItem (h : Host) (a b : Value) : M Bool := if a.is b then return true else equal h a b

/-- How two values of native kinds compare: by an order, which numbers may lack, or by their first
parts that differ. -/
inductive NativeOrder where
  | order (o : Option Ordering)
  | parts (a b : Value)

def listOrder (h : Host) : List Value → List Value → M NativeOrder
  | [], [] => return .order (some .eq)
  | [], _ => return .order (some .lt)
  | _, [] => return .order (some .gt)
  | x :: xs, y :: ys => do
    if ← sameItem h x y then listOrder h xs ys else return .parts x y

def textOrder (s t : String) : Ordering :=
  if s.toList.any isHalfChar || t.toList.any isHalfChar then
    compare (s.toList.map point) (t.toList.map point)
  else compare s t

def nativeOrder (h : Host) (a b : Value) : M (Option NativeOrder) := do
  match ← core a, ← core b with
  | .str s, .str t => return some (.order (some (textOrder s t)))
  | .bytes s, .bytes t => return some (.order (some (compare (s.map (·.toNat)) (t.map (·.toNat)))))
  | .ref r, .ref s =>
    match (← obj r).payload, (← obj s).payload with
    | .list xs, .list ys => return some (← listOrder h xs.toList ys.toList)
    | .tuple xs, .tuple ys => return some (← listOrder h xs ys)
    | _, _ => return none
  | x, y =>
    match x.num?, y.num? with
    | some (.complex ..), _ | _, some (.complex ..) => return none
    | some m, some n => return some (.order (compareReal m n))
    | _, _ => return none

def orderName : CmpOp → String
  | .lt => "__lt__"
  | .ltE => "__le__"
  | .gt => "__gt__"
  | .gtE => "__ge__"
  | .eq => "__eq__"
  | _ => "__ne__"

def reflectedOp : CmpOp → CmpOp
  | .lt => .gt
  | .ltE => .gtE
  | .gt => .lt
  | .gtE => .ltE
  | op => op

def orderSymbol : CmpOp → String
  | .lt => "<"
  | .ltE => "<="
  | .gt => ">"
  | .gtE => ">="
  | .eq => "=="
  | _ => "!="

def holds (op : CmpOp) : Option Ordering → Bool
  | none => false
  | some o =>
    match op with
    | .lt => o == .lt
    | .ltE => o != .gt
    | .gt => o == .gt
    | .gtE => o != .lt
    | .eq => o == .eq
    | _ => o != .eq

def setItems? (v : Value) : M (Option (List Value)) := do
  match ← payload v with
  | .set items => return some items.toList
  | .view d .keys => return some ((← dictEntries d).map (·.1))
  | _ => return none

def orderedFuel (h : Host) : (fuel : Nat) → CmpOp → Value → Value → M Value
  | 0, _, _, _ => recursionError " in comparison"
  | fuel + 1, op, a, b => do
    match ← tryBoth h (orderName op) (orderName (reflectedOp op)) a b with
    | some v => return v
    | none =>
      match ← setItems? a, ← setItems? b with
      | some xs, some ys =>
        let within (xs ys : List Value) : M Bool := xs.allM fun x => ys.anyM (sameItem h x)
        match op with
        | .lt => return .bool (xs.length < ys.length && (← within xs ys))
        | .ltE => return .bool (← within xs ys)
        | .gt => return .bool (ys.length < xs.length && (← within ys xs))
        | _ => return .bool (← within ys xs)
      | _, _ =>
        match ← nativeOrder h a b with
        | some (.order o) => return .bool (holds op o)
        | some (.parts x y) => orderedFuel h fuel op x y
        | none =>
          typeError (s!"'{orderSymbol op}' not supported between instances of " ++
            s!"{quote (← typeName a)} and {quote (← typeName b)}")

def ordered (h : Host) (op : CmpOp) (a b : Value) : M Value := orderedFuel h nestingLimit op a b

def lessThan (h : Host) (a b : Value) : M Bool := do truth h (← ordered h .lt a b)

def compareEqual (h : Host) (op : CmpOp) (a b : Value) : M Value := do
  if op == .eq then
    match ← tryBoth h "__eq__" "__eq__" a b with
    | some v => return v
    | none => return .bool (← equal h a b)
  else
    match ← tryBoth h "__ne__" "__ne__" a b with
    | some v => return v
    | none =>
      match ← tryBoth h "__eq__" "__eq__" a b with
      | some v => return .bool (!(← truth h v))
      | none => return .bool (!(← equal h a b))

/-! Keys. -/

/-- The digest of a value that is no object; what has no order or size goes by its name. -/
def plainDigest : Value → Int
  | .bool b => if b then 1 else 0
  | .int n => digestInt n
  | .float x => (digestFloat? x).getD 0
  | .complex re im => digestComplex ((digestFloat? re).getD 0) ((digestFloat? im).getD 0)
  | .str s => digestText s
  | .bytes bs => digestText (quoteBytes bs)
  | .builtin n => digestText ("builtin " ++ n)
  | .native c n => digestText (c ++ "." ++ n)
  | .bound _ f => plainDigest f
  | .none => 8
  | .notImplemented => 9
  | .ellipsis => 10
  | .ref r => r

def givenDigest (h : Host) (r : Ref) (method : Value) : M Int := do
  match ← core (← callSpecial h method (.ref r) []) with
  | .int n =>
    let d := validDigest (if n.natAbs < Nat.pow 2 63 then n else digestInt n)
    modifyObj r fun o => { o with digest := some d }
    return d
  | .bool b => return if b then 1 else 0
  | _ => typeError "__hash__ method should return an integer"

def digestFuel (h : Host) : (fuel : Nat) → Value → M Int
  | 0, _ => recursionError
  | fuel + 1, v => do
    match v with
    | .ref r =>
      let refuse : M Int := do typeError s!"unhashable type: {quote (← typeName v)}"
      match ← special? v "__hash__" with
      | some m => if m.is .none then refuse else givenDigest h r m
      | none =>
        let o ← obj r
        match o.payload with
        | .list _ | .dict _ | .slice .. | .exports _ => refuse
        | .set items =>
          if (← className o.cls) != "frozenset" then refuse
          else return digestUnordered (← items.toList.mapM (digestFuel h fuel))
        | .tuple items => return digestSequence (← items.mapM (digestFuel h fuel))
        | .class _ => return r
        | .wrapped w =>
          if (← special? v "__eq__").isSome then refuse else return plainDigest w
        | _ => if (← special? v "__eq__").isSome then refuse else return r
    | v => return plainDigest v

def digest (h : Host) (v : Value) : M Int := digestFuel h nestingLimit v

def requireHashable (h : Host) (v : Value) : M Unit := discard (digest h v)

def knownDigest? (v : Value) : M (Option Int) := do
  match v with
  | .ref r =>
    let o ← obj r
    match o.digest, o.payload with
    | some d, _ => return some d
    | none, .wrapped w => return some (plainDigest w)
    | none, _ => return none
  | v => return some (plainDigest v)

def sameKey (h : Host) (a b : Value) : M Bool := do
  if a.is b then return true
  let isGiven (v : Value) : M Bool := do
    match v with
    | .ref r => return (← obj r).digest.isSome
    | _ => return false
  if (← isGiven a) || (← isGiven b) then
    match ← knownDigest? a, ← knownDigest? b with
    | some d, some e => if d == e then equal h a b else return false
    | _, _ => return false
  else equal h a b

def findKey (h : Host) (k : Value) : Nat → List (Value × Value) → M (Option Nat)
  | _, [] => return none
  | i, (l, _) :: es => do
    if ← sameKey h l k then return some i else findKey h k (i + 1) es

def dictGet? (h : Host) (es : Array (Value × Value)) (k : Value) : M (Option Value) := do
  match ← findKey h k 0 es.toList with
  | some i => return es[i]?.map (·.2)
  | none => return none

/-- Sets the value of a key, which keeps its place if it is there. -/
def dictPut (h : Host) (es : Array (Value × Value)) (k v : Value) : M (Array (Value × Value)) := do
  match ← findKey h k 0 es.toList with
  | some i => return es.modify i fun e => (e.1, v)
  | none => return es.push (k, v)

def setDictKey (h : Host) (r : Ref) (k v : Value) : M Unit := do
  requireHashable h k
  match (← obj r).payload with
  | .dict es =>
    putEntries r (← dictPut h es k v)
  | _ => return

def addToSet (h : Host) (items : Array Value) (v : Value) : M (Array Value) := do
  requireHashable h v
  if ← items.toList.anyM fun x => sameKey h x v then return items else return items.push v

def makeDict (h : Host) (entries : List (Value × Value)) (cls : String := "dict") : M Value := do
  let es ← entries.foldlM (fun es (k, v) => do
    requireHashable h k
    dictPut h es k v) #[]
  newOf cls (.dict es)

def makeSet (h : Host) (cls : String) (items : List Value) : M Value := do
  newOf cls (.set (← items.foldlM (addToSet h) #[]))

def noKey {α : Type} (k : Value) : M α := do throwExc (← newException "KeyError" [k])

end Notebook.Machine
