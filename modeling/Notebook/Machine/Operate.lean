import Notebook.Machine.Percent

set_option autoImplicit false

namespace Notebook.Machine

open Notebook.Text Notebook.Tree

def binName : BinOp → String
  | .add => "add"
  | .sub => "sub"
  | .mul => "mul"
  | .matMul => "matmul"
  | .div => "truediv"
  | .mod => "mod"
  | .pow => "pow"
  | .shiftLeft => "lshift"
  | .shiftRight => "rshift"
  | .bitOr => "or"
  | .bitXor => "xor"
  | .bitAnd => "and"
  | .floorDiv => "floordiv"

def binSymbol : BinOp → String
  | .add => "+"
  | .sub => "-"
  | .mul => "*"
  | .matMul => "@"
  | .div => "/"
  | .mod => "%"
  | .pow => "**"
  | .shiftLeft => "<<"
  | .shiftRight => ">>"
  | .bitOr => "|"
  | .bitXor => "^"
  | .bitAnd => "&"
  | .floorDiv => "//"

def repeated {α : Type} (xs : List α) (n : Int) : List α :=
  (List.replicate n.toNat xs).flatten

/-- How often a sequence is repeated by a value; nothing if it stands for no integer. -/
def times? (h : Host) (v : Value) : M (Option Int) := do
  match ← index? h v with
  | some n =>
    if n.natAbs ≥ Nat.pow 2 63 then
      overflow s!"cannot fit {quote (← typeName v)} into an index-sized integer"
    return some n
  | none => return none

/-- How many items the longest sequence has that there is room for. -/
def largest : Nat := Nat.pow 2 33

def noMemory {α : Type} : M α := do throwExc (← newException "MemoryError" [])

def repeat? (v : Value) (n : Int) : M (Option Value) := do
  let size ← match ← payload v with
    | .wrapped (.str s) => pure s.length
    | .wrapped (.bytes bs) => pure bs.length
    | .list items => pure items.size
    | .tuple items => pure items.length
    | _ => pure 0
  if size * n.toNat ≥ Nat.pow 2 63 then
    match ← payload v with
    | .wrapped (.str _) => overflow "repeated string is too long"
    | .wrapped (.bytes _) => overflow "repeated bytes are too long"
    | _ => noMemory
  if size * n.toNat > largest then noMemory
  match ← payload v with
  | .wrapped (.str s) => return some (.str (String.join (List.replicate n.toNat s)))
  | .wrapped (.bytes bs) => return some (.bytes (repeated bs n))
  | .list items => return some (← newList (repeated items.toList n))
  | .tuple items => return some (← newTuple (repeated items n))
  | _ => return none

def isSequence (v : Value) : M Bool := do
  match ← payload v with
  | .wrapped (.str _) | .wrapped (.bytes _) | .list _ | .tuple _ => return true
  | _ => return false

def isType (v : Value) : M Bool := do
  match v, ← payload v with
  | .none, _ => return true
  | _, .class _ | _, .alias .. | _, .union _ => return true
  | _, _ => return false

def members (v : Value) : M (List Value) := do
  match ← payload v with
  | .union ms => return ms
  | _ => return [v]

def setOp (h : Host) (op : BinOp) (xs ys : List Value) : M (Option (List Value)) := do
  let isIn (zs : List Value) (x : Value) : M Bool := zs.anyM fun z => sameKey h z x
  match op with
  | .bitOr => return some (xs ++ (← ys.filterM fun y => do return !(← isIn xs y)))
  | .bitAnd => return some (← xs.filterM (isIn ys))
  | .sub => return some (← xs.filterM fun x => do return !(← isIn ys x))
  | .bitXor =>
    return some ((← xs.filterM fun x => do return !(← isIn ys x))
      ++ (← ys.filterM fun y => do return !(← isIn xs y)))
  | _ => return none

def isSetOp : BinOp → Bool
  | .bitOr | .bitAnd | .sub | .bitXor => true
  | _ => false

def distinctItems (h : Host) (v : Value) : M (List Value) := do
  return (← (← itemsOf h v).foldlM (addToSet h) #[]).toList

def mergedEntries (h : Host) (es fs : List (Value × Value)) : M (Array (Value × Value)) :=
  fs.foldlM (fun acc (k, v) => dictPut h acc k v) es.toArray

def nativeBinary (h : Host) (op : BinOp) (a b : Value) : M (Option Value) := do
  let x ← core a
  let y ← core b
  match ← numberBinary op x y with
  | some v => return some v
  | none =>
    match op, ← payload a, ← payload b with
    | .add, .wrapped (.str s), .wrapped (.str t) => return some (.str (s ++ t))
    | .add, .wrapped (.bytes s), .wrapped (.bytes t) => return some (.bytes (s ++ t))
    | .add, .list s, .list t => return some (← newOf "list" (.list (s ++ t)))
    | .add, .tuple s, .tuple t => return some (← newTuple (s ++ t))
    | .mod, .wrapped (.str s), _ => return some (.str (← percent h s b))
    | .mul, _, _ =>
      if ← isSequence a then
        match ← times? h b with
        | some n => repeat? a n
        | none => return none
      else if ← isSequence b then
        match ← times? h a with
        | some n => repeat? b n
        | none => return none
      else return none
    | .bitOr, .dict es, .dict fs =>
      return some (← newOf "dict" (.dict (← mergedEntries h es.toList fs.toList)))
    | op, p, q =>
      let isSet (p : Payload) : Bool := match p with
        | .set _ | .view _ .keys | .view _ .items => true
        | _ => false
      let isView (p : Payload) : Bool := match p with
        | .view _ .keys | .view _ .items => true
        | _ => false
      if (isSet p && isSet q) || ((isView p || isView q) && isSetOp op) then
        match ← setOp h op (← distinctItems h a) (← distinctItems h b) with
        | some zs =>
          let cls ← match p with
            | .set _ => do className (← classOf a)
            | _ => pure "set"
          return some (← newOf (if cls == "frozenset" then cls else "set") (.set zs.toArray))
        | none => return none
      else if op == .bitOr && (← isType a) && (← isType b) && !(a.is .none && b.is .none) then
        let all ← (return (← members a) ++ (← members b) : M (List Value))
        return some (← newOf "UnionType" (.union all))
      else return none

def refuseOperands {α : Type} (op : BinOp) (symbol : String) (a b : Value) : M α := do
  let ta ← typeName a
  let tb ← typeName b
  let concat (kind : String) : M α := typeError s!"can only concatenate {kind} (not \"{tb}\") to {kind}"
  match op, ← payload a, ← isSequence a, ← isSequence b with
  | .add, .wrapped (.str _), _, _ => concat "str"
  | .add, .list _, _, _ => concat "list"
  | .add, .tuple _, _, _ => concat "tuple"
  | .add, .wrapped (.bytes _), _, _ => typeError s!"can't concat {tb} to bytes"
  | .mul, _, true, _ => typeError s!"can't multiply sequence by non-int of type {quote tb}"
  | .mul, _, _, true => typeError s!"can't multiply sequence by non-int of type {quote ta}"
  | _, _, _, _ =>
    let symbol := if symbol == "**" then "** or pow()" else symbol
    let isPrint := a.is (.builtin "print") && symbol == ">>"
    let hint := if isPrint then ". Did you mean \"print(<message>, file=<output_stream>)\"?" else ""
    typeError (s!"unsupported operand type(s) for {symbol}: {quote ta} and {quote tb}" ++ hint)

def wholeOf (v : Value) : M (Option Int) := do
  match (← core v).num? with
  | some (.int n) => return some n
  | _ => return none

def definesOperator (name : String) (v : Value) : M Bool := do
  if (← special? v ("__" ++ name ++ "__")).isSome then return true
  return (← special? v ("__r" ++ name ++ "__")).isSome

/-- Whether the native operator of a value comes before the reflected one of another value whose
class does not derive from its own. -/
def goesFirst (name : String) (a b : Value) : M Bool := do
  match ← core a with
  | .float _ | .complex .. => return true
  | .bool _ => return (← wholeOf b).isSome
  | .str _ => return name == "mod"
  | _ => return false

/-- An operator that programs may define: a class that derives from that of the first operand and
has a reflected operator of its own comes first, and two values of one class are never reflected. -/
def tryOperator (h : Host) (name : String) (a b : Value) (native : M (Option Value)) :
    M (Option Value) := do
  let direct := "__" ++ name ++ "__"
  let reflected := "__r" ++ name ++ "__"
  match a, b with
  | .ref _, _ | _, .ref _ =>
    let isDerived ← isProperlyDerived b a
    let mine ← special? a reflected
    let yours ← special? b reflected
    let isOverloaded := match yours, mine with
      | some f, some g => !f.is g
      | some _, none => true
      | none, _ => false
    if (← classOf a) == (← classOf b) then
      orElse (trySpecial h direct a b) native
    else if ← definesOperator name a then
      if isDerived && isOverloaded then
        orElse (trySpecial h reflected b a) (orElse (trySpecial h direct a b) native)
      else if (← special? a direct).isSome then
        orElse (trySpecial h direct a b) (orElse (trySpecial h reflected b a) native)
      else orElse native (trySpecial h reflected b a)
    else if !isDerived && (← goesFirst name a b) then
      orElse native (trySpecial h reflected b a)
    else orElse (trySpecial h reflected b a) native
  | _, _ => native
where
  orElse (first second : M (Option Value)) : M (Option Value) := do
    match ← first with
    | some v => return some v
    | none => second

def binaryWith (h : Host) (op : BinOp) (symbol : String) (a b : Value) : M Value := do
  match ← tryOperator h (binName op) a b (nativeBinary h op a b) with
  | some v => return v
  | none => refuseOperands op symbol a b

def binary (h : Host) (op : BinOp) (a b : Value) : M Value := binaryWith h op (binSymbol op) a b

def extendList (h : Host) (r : Ref) (v : Value) : M Unit := do
  let new ← itemsOf h v
  modifyObj r fun o =>
    match o.payload with
    | .list items => { o with payload := .list (items ++ new.toArray) }
    | _ => o

def pairOf (h : Host) (v : Value) (i : Nat) : M (Value × Value) := do
  let items ← match ← attempt (itemsOf h v) with
    | .ok items => pure items
    | .error e =>
      if ← isError e "TypeError" then
        typeError s!"cannot convert dictionary update sequence element #{i} to a sequence"
      throw (.raised e)
  match items with
  | [k, x] => return (k, x)
  | items =>
    valueError s!"dictionary update sequence element #{i} has length {items.length}; 2 is required"

def entriesOf (h : Host) (v : Value) : M (List (Value × Value)) := do
  match ← payload v with
  | .dict es => return es.toList
  | .exports e => return e.entries.map fun (k, x) => (.str k, x)
  | _ =>
    match ← getAttr? h v "keys" with
    | some keys => do
      let ks ← itemsOf h (← h.call keys [] [])
      ks.mapM fun k => do return (k, ← getItem h v k)
    | none => (← itemsOf h v).zipIdx.mapM fun (x, i) => pairOf h x i

/-- Goes through the entries of a mapping, or of a sequence of pairs, one after the other. -/
def forEntries (h : Host) (v : Value) (put : Value → Value → M Unit) : M Unit := do
  match ← payload v with
  | .dict es => es.toList.forM fun (k, x) => put k x
  | .exports e => e.entries.forM fun (k, x) => put (.str k) x
  | _ =>
    match ← getAttr? h v "keys" with
    | some keys =>
      let ks ← itemsOf h (← h.call keys [] [])
      ks.forM fun k => do put k (← getItem h v k)
    | none =>
      (← itemsOf h v).zipIdx.forM fun (x, i) => do
        let (k, y) ← pairOf h x i
        put k y

def updateDict (h : Host) (r : Ref) (entries : List (Value × Value)) : M Unit :=
  entries.forM fun (k, v) => setDictKey h r k v

/-- Puts the entries of a mapping or of a sequence of pairs into a dictionary. -/
def updateFrom (h : Host) (r : Ref) (v : Value) : M Unit := forEntries h v (setDictKey h r)

/-- An operation that may change its first operand in place. -/
def update (h : Host) (op : BinOp) (a b : Value) : M Value := do
  match ← trySpecial h ("__i" ++ binName op ++ "__") a b with
  | some v => return v
  | none =>
    match a, op, ← payload a with
    | .ref r, .add, .list _ =>
      match ← tryOperator h "add" a b (return none) with
      | some v => return v
      | none =>
        extendList h r b
        return a
    | .ref r, .mul, .list items =>
      match ← tryOperator h "mul" a b (return none) with
      | some v => return v
      | none =>
        match ← times? h b with
        | some n =>
          if items.size * n.toNat > largest then noMemory
          setPayload r (.list (repeated items.toList n).toArray)
          return a
        | none => refuseOperands op "*=" a b
    | .ref r, op, .set xs =>
      if (← className (← classOf a)) == "frozenset" then binaryWith h op (binSymbol op ++ "=") a b
      else
        match ← setItems? b with
        | some ys =>
          match ← setOp h op xs.toList ys with
          | some zs =>
            setPayload r (.set zs.toArray)
            return a
          | none => binaryWith h op (binSymbol op ++ "=") a b
        | none => binaryWith h op (binSymbol op ++ "=") a b
    | .ref r, .bitOr, .dict _ =>
      updateFrom h r b
      return a
    | _, _, _ => binaryWith h op (binSymbol op ++ "=") a b

def unaryName : UnaryOp → String
  | .invert => "__invert__"
  | .plus => "__pos__"
  | .minus => "__neg__"
  | .not => "__not__"

def unarySymbol : UnaryOp → String
  | .invert => "~"
  | .plus => "+"
  | .minus => "-"
  | .not => "not"

def unary (h : Host) (op : UnaryOp) (a : Value) : M Value := do
  if op == .not then return .bool (!(← truth h a))
  match ← special? a (unaryName op) with
  | some m => callSpecial h m a []
  | none =>
    match numberUnary op (← core a) with
    | some v => return v
    | none => typeError s!"bad operand type for unary {unarySymbol op}: {quote (← typeName a)}"

def compare (h : Host) (op : CmpOp) (a b : Value) : M Value := do
  match op with
  | .eq | .notEq => compareEqual h op a b
  | .is => return .bool (a.is b)
  | .isNot => return .bool (!a.is b)
  | .in => return .bool (← contains h b a)
  | .notIn => return .bool (!(← contains h b a))
  | op => ordered h op a b

end Notebook.Machine
