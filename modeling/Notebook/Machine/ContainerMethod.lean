import Notebook.Machine.Args

set_option autoImplicit false

namespace Notebook.Machine

open Notebook.Text

/-! Sorting. -/

def mergeRuns {α : Type} (less : α → α → M Bool) : List α → List α → M (List α)
  | [], ys => return ys
  | xs, [] => return xs
  | x :: xs, y :: ys => do
    if ← less y x then return y :: (← mergeRuns less (x :: xs) ys)
    else return x :: (← mergeRuns less xs (y :: ys))
termination_by xs ys => xs.length + ys.length

def mergePairs {α : Type} (less : α → α → M Bool) : List (List α) → M (List (List α))
  | a :: b :: rest => do return (← mergeRuns less a b) :: (← mergePairs less rest)
  | rest => return rest

def mergeAll {α : Type} (less : α → α → M Bool) : (fuel : Nat) → List (List α) → M (List α)
  | 0, runs => return runs.flatten
  | fuel + 1, runs =>
    match runs with
    | [] => return []
    | [a] => return a
    | runs => do mergeAll less fuel (← mergePairs less runs)

def runUp {α : Type} (less : α → α → M Bool) (last : α) : List α → List α → M (List α × List α)
  | [], run => return (run.reverse, [])
  | x :: xs, run => do
    if ← less x last then return (run.reverse, x :: xs) else runUp less x xs (x :: run)

/-- The rest of a run that goes strictly down, after its last item; it is turned round. -/
def runDown {α : Type} (less : α → α → M Bool) (last : α) : List α → List α → M (List α × List α)
  | [], run => return (run, [])
  | x :: xs, run => do
    if ← less x last then runDown less x xs (x :: run) else return (run, x :: xs)

/-- The items at the start that are in order already, and the others. -/
def firstRun {α : Type} (less : α → α → M Bool) : List α → M (List α × List α)
  | x :: y :: rest => do
    if ← less y x then runDown less y rest [y, x] else runUp less y rest [y, x]
  | xs => return (xs, [])

/-- Where an item belongs between two positions of a run: after those that are not greater. -/
def placeIn {α : Type} (less : α → α → M Bool) (run : Array α) (x : α) :
    (fuel low high : Nat) → M Nat
  | 0, low, _ => return low
  | fuel + 1, low, high => do
    if low ≥ high then return low
    let middle := low + (high - low) / 2
    match run[middle]? with
    | some y =>
      if ← less x y then placeIn less run x fuel low middle
      else placeIn less run x fuel (middle + 1) high
    | none => return low

/-- Puts items into a run one after the other; `note` hears how all items stand after each. -/
def insertInto {α : Type} (less : α → α → M Bool) (note : Array α → M Unit) :
    Array α → List α → M (Array α)
  | run, [] => return run
  | run, x :: xs => do
    let i ← placeIn less run x (run.size + 1) 0 run.size
    let run := run.insertIdxIfInBounds i x
    note (run ++ xs.toArray)
    insertInto less note run xs

/-- How long a run is made at least: all of a short list, and half the length of a longer one over
and over, rounded up. -/
def shortestRun : (fuel n : Nat) → Nat
  | 0, n => n
  | fuel + 1, n => if n < 64 then n else shortestRun fuel (n / 2 + n % 2)

def orderedRuns {α : Type} (less : α → α → M Bool) (note : Array α → M Unit) (least : Nat) :
    (fuel : Nat) → List α → M (List (List α))
  | 0, xs => return [xs]
  | fuel + 1, xs => do
    if xs.isEmpty then return []
    let (run, rest) ← firstRun less xs
    let more := least - run.length
    note (run ++ rest).toArray
    let whole ← insertInto less (fun now => note (now ++ (rest.drop more).toArray)) run.toArray
      (rest.take more)
    return whole.toList :: (← orderedRuns less note least fuel (rest.drop more))

/-- Sorts without exchanging equal items, by runs that are in order and by insertion; `note` hears
how the items stand. -/
def sortBy {α : Type} (less : α → α → M Bool) (note : Array α → M Unit) (xs : List α) :
    M (List α) := do
  let n := xs.length
  let runs ← orderedRuns less (if n < 64 then note else fun _ => return ()) (shortestRun n n) (n + 1) xs
  mergeAll less (n + 1) runs

/-- Sorts values by a key, downward if asked; `note` hears how they stand when a comparison is next.
-/
def sortValues (h : Host) (items : List Value) (keywords : Names)
    (note : List Value → M Unit := fun _ => return ()) : M (List Value) := do
  let key := (keywords.lookup "key").getD .none
  let reverse ← truth h ((keywords.lookup "reverse").getD (.bool false))
  let keyed ← items.mapM fun v => do
    if key.is .none then return (v, v) else return (← h.call key [v] [], v)
  let turned {α : Type} (xs : List α) : List α := if reverse then xs.reverse else xs
  let sorted_ ← sortBy (fun a b => lessThan h a.1 b.1)
    (fun now => note (turned (now.toList.map (·.2)))) (turned keyed)
  return turned (sorted_.map (·.2))

/-! Lists. -/

def setList (r : Ref) (items : List Value) : M Unit := setPayload r (.list items.toArray)

def pushList (r : Ref) (v : Value) : M Unit :=
  modifyObj r fun o =>
    match o.payload with
    | .list items => { o with payload := .list (items.push v) }
    | _ => o

/-- Sorts a list in place. The list is empty meanwhile, and a failure leaves it as far as it came.
-/
def sortList (h : Host) (r : Ref) (items : List Value) (keywords : Names) : M Unit := do
  let progress ← alloc { cls := nativeRef "list", payload := .list items.toArray }
  setList r []
  let outcome ← attempt (sortValues h items keywords (setList progress))
  let isTouched := match (← obj r).payload with
    | .list now => !now.isEmpty
    | _ => false
  match outcome with
  | .ok sorted_ =>
    setList r sorted_
    if isTouched then valueError "list modified during sort"
  | .error e =>
    setPayload r (← obj progress).payload
    throw (.raised e)

def indexOf (h : Host) (v : Value) : List Value → Nat → M (Option Nat)
  | [], _ => return none
  | x :: xs, i => do if ← sameItem h x v then return some i else indexOf h v xs (i + 1)

def countOf (h : Host) (v : Value) (items : List Value) : M Nat := do
  return (← items.filterM fun x => sameItem h x v).length

def searchItems (h : Host) (kind : String) (items : List Value) (args : List Value) : M Value := do
  let args ← someArgs "index" 1 3 args
  let s ← spanOf h items.length (argAt args 1) (argAt args 2) .none
  let part := (items.drop s.start.toNat).take (s.stop - s.start).toNat
  match ← indexOf h (argAt args 0) part s.start.toNat with
  | some i => return .int i
  | none =>
    if kind == "tuple" then valueError "tuple.index(x): x not in tuple"
    valueError s!"{← repr h (argAt args 0)} is not in list"

def listMethod (h : Host) (r : Ref) (items : Array Value) (name : String) (args : List Value)
    (keywords : Names) : M Value := do
  let full := "list." ++ name
  if name != "sort" then refuseKeywords full keywords
  match name with
  | "append" =>
    pushList r (← oneArg full args)
    return .none
  | "clear" =>
    zeroArgs full args
    setList r []
    return .none
  | "copy" =>
    zeroArgs full args
    newOf "list" (.list items)
  | "count" => return .int (← countOf h (← oneArg full args) items.toList)
  | "extend" =>
    extendList h r (← oneArg full args)
    return .none
  | "index" => searchItems h "list" items.toList args
  | "insert" =>
    let args ← someArgs name 2 2 args
    let i ← intArg h (argAt args 0)
    let n : Int := items.size
    let j := (clamp 0 n (if i < 0 then i + n else i)).toNat
    setList r (items.toList.take j ++ argAt args 1 :: items.toList.drop j)
    return .none
  | "pop" =>
    let args ← someArgs name 0 1 args
    let i ← if args.isEmpty then pure (-1) else intArg h (argAt args 0)
    if items.isEmpty then raise "IndexError" "pop from empty list"
    match place? items.size i with
    | some j =>
      setPayload r (.list (removeAt items j))
      return items.getD j .none
    | none => raise "IndexError" "pop index out of range"
  | "remove" =>
    match ← indexOf h (← oneArg full args) items.toList 0 with
    | some i =>
      setPayload r (.list (removeAt items i))
      return .none
    | none => valueError "list.remove(x): x not in list"
  | "reverse" =>
    zeroArgs full args
    setPayload r (.list items.reverse)
    return .none
  | "sort" =>
    if !args.isEmpty then typeError "sort() takes no positional arguments"
    knownKeywords "sort" ["key", "reverse"] keywords
    sortList h r items.toList keywords
    return .none
  | _ => newIter "list_reverseiterator" (.backward r items.size)

def tupleMethod (h : Host) (items : List Value) (name : String) (args : List Value) : M Value := do
  match name with
  | "count" => return .int (← countOf h (← oneArg "tuple.count" args) items)
  | _ => searchItems h "tuple" items args

def rangeMethod (h : Host) (a b c : Int) (name : String) (args : List Value) : M Value := do
  let v ← oneArg ("range." ++ name) args
  let at_ ← rangePlace? h a b c v
  match name, at_ with
  | "count", some _ => return .int 1
  | "count", none => return .int 0
  | _, some i => return .int i
  | _, none => valueError s!"{← repr h v} is not in range"

/-! Dictionaries. -/

def keywordEntries (keywords : Names) : List (Value × Value) :=
  keywords.map fun (k, v) => (.str k, v)

def dictMethod (h : Host) (r : Ref) (es : Array (Value × Value)) (name : String) (args : List Value)
    (keywords : Names) : M Value := do
  let full := "dict." ++ name
  if name != "update" then refuseKeywords full keywords
  match name with
  | "get" =>
    let args ← someArgs name 1 2 args
    requireHashable h (argAt args 0)
    return (← dictGet? h es (argAt args 0)).getD (argAt args 1)
  | "keys" =>
    zeroArgs full args
    newOf "dict_keys" (.view r .keys)
  | "values" =>
    zeroArgs full args
    newOf "dict_values" (.view r .values)
  | "items" =>
    zeroArgs full args
    newOf "dict_items" (.view r .items)
  | "pop" =>
    let args ← someArgs name 1 2 args
    requireHashable h (argAt args 0)
    match ← findKey h (argAt args 0) 0 es.toList with
    | some i =>
      dropEntry r es i
      return (es.getD i (.none, .none)).2
    | none => if args.length == 2 then return argAt args 1 else noKey (argAt args 0)
  | "popitem" =>
    zeroArgs full args
    match es.back? with
    | some (k, v) =>
      dropLast r es
      newTuple [k, v]
    | none => noKey (.str "popitem(): dictionary is empty")
  | "setdefault" =>
    let args ← someArgs name 1 2 args
    requireHashable h (argAt args 0)
    match ← dictGet? h es (argAt args 0) with
    | some v => return v
    | none =>
      setDictKey h r (argAt args 0) (argAt args 1)
      return argAt args 1
  | "update" =>
    let args ← someArgs name 0 1 args
    match args with
    | [v] => updateFrom h r v
    | _ => pure ()
    updateDict h r (keywordEntries keywords)
    return .none
  | "clear" =>
    zeroArgs full args
    clearEntries r
    return .none
  | "copy" =>
    zeroArgs full args
    newOf "dict" (.dict es)
  | _ => entriesBack r .keys

/-! The shared namespace. -/

def exportsKey (v : Value) : M String := do
  match ← core v with
  | .str s => return s
  | _ => return ""

def exportsMethod (h : Host) (r : Ref) (e : Exports Value) (name : String) (args : List Value)
    (keywords : Names) : M Value := do
  let store (e : Exports Value) : M Value := do
    setPayload r (.exports e)
    return .none
  let need (n : Nat) (names : List String) : M Unit := do
    if args.length < n then
      let missing := names.drop args.length
      typeError
        (s!"ExportNamespace.{name}() missing {missing.length} required positional " ++
          s!"argument{plural missing.length}: {enumeration missing}")
    if args.length > names.length && name != "pop" && name != "setdefault" && name != "get" then
      typeError
        (s!"ExportNamespace.{name}() takes {names.length + 1} positional " ++
          s!"argument{plural (names.length + 1)} but {args.length + 1} were given")
  match name with
  | "assign" =>
    need 2 ["name", "value"]
    store (e.assign (← exportsKey (argAt args 0)) (argAt args 1))
  | "remove" =>
    need 1 ["name"]
    store (e.remove (← exportsKey (argAt args 0)))
  | "get" =>
    need 1 ["key"]
    return (e.get? (← exportsKey (argAt args 0))).getD (optional_ args keywords 1 "default")
  | "snapshot" =>
    need 0 []
    namesDict e.entries
  | "clear" =>
    need 0 []
    store e.clear
  | "pop" =>
    need 1 ["key"]
    match e.pop? (← exportsKey (argAt args 0)) with
    | some (v, e) =>
      discard (store e)
      return v
    | none => if args.length > 1 then return argAt args 1 else noKey (argAt args 0)
  | "popitem" =>
    match e.popFirst? with
    | some ((k, v), e) =>
      discard (store e)
      newTuple [.str k, v]
    | none => throwExc (← newException "KeyError" [])
  | "setdefault" =>
    need 1 ["key"]
    let (v, e) := e.setDefault (← exportsKey (argAt args 0)) (argAt args 1)
    discard (store e)
    return v
  | "update" =>
    let entries ← match args with
      | [v] => entriesOf h v
      | _ => pure []
    let named ← entries.mapM fun (k, v) => do return (← exportsKey k, v)
    store (e.update (named ++ keywords))
  | "keys" => newIter "dict_keyiterator" (.items (e.names.map .str))
  | "values" => newIter "dict_valueiterator" (.items (e.entries.map (·.2)))
  | _ =>
    let pairs ← e.entries.mapM fun (k, v) => newTuple [.str k, v]
    newIter "dict_itemiterator" (.items pairs)
where
  optional_ (args : List Value) (keywords : Names) (i : Nat) (name : String) : Value :=
    (args[i]? <|> keywords.lookup name).getD .none

/-! Sets. -/

def setMethod (h : Host) (r : Ref) (items : Array Value) (name : String) (args : List Value) :
    M Value := do
  let cls ← className (← obj r).cls
  let make (vs : List Value) : M Value :=
    newOf (if cls == "frozenset" then cls else "set") (.set vs.toArray)
  let store (vs : List Value) : M Value := do
    setPayload r (.set vs.toArray)
    return .none
  let full := "set." ++ name
  let others : M (List (List Value)) := args.mapM (itemsOf h)
  let fold (op : Tree.BinOp) : M (List Value) := do
    (← others).foldlM (fun acc ys => do
      let ys ← match ← makeSet h "set" ys with
        | .ref s => do
          match (← obj s).payload with
          | .set zs => pure zs.toList
          | _ => pure []
        | _ => pure []
      return (← setOp h op acc ys).getD acc) items.toList
  let isIn (zs : List Value) (x : Value) : M Bool := zs.anyM fun z => sameKey h z x
  match name with
  | "add" =>
    let new ← addToSet h items (← oneArg full args)
    store new.toList
  | "discard" | "remove" =>
    let v ← oneArg full args
    requireHashable h v
    match ← findKey h v 0 (items.toList.map fun x => (x, .none)) with
    | some i => store (removeAt items i).toList
    | none => if name == "remove" then noKey v else return .none
  | "pop" =>
    match items.toList with
    | [] => noKey (.str "pop from an empty set")
    | v :: vs =>
      discard (store vs)
      return v
  | "clear" => store []
  | "copy" => make items.toList
  | "union" => do make (← fold .bitOr)
  | "intersection" => do make (← fold .bitAnd)
  | "difference" => do make (← fold .sub)
  | "symmetric_difference" => do make (← fold .bitXor)
  | "update" => do store (← fold .bitOr)
  | "intersection_update" => do store (← fold .bitAnd)
  | "difference_update" => do store (← fold .sub)
  | "symmetric_difference_update" => do store (← fold .bitXor)
  | "issubset" => do
    let ys ← itemsOf h (← oneArg full args)
    return .bool (← items.toList.allM (isIn ys))
  | "issuperset" => do
    let ys ← itemsOf h (← oneArg full args)
    return .bool (← ys.allM (isIn items.toList))
  | _ => do
    let ys ← itemsOf h (← oneArg full args)
    return .bool (!(← ys.anyM (isIn items.toList)))

end Notebook.Machine
