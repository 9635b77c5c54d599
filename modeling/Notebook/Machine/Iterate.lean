import Notebook.Machine.Compare

set_option autoImplicit false

namespace Notebook.Machine

open Notebook.Text

/-- More rounds than any program takes. -/
def patience : Nat := 1000000000000

/-! Suspended executions. -/

def flavorName : Code.Flavor → String
  | .coroutine => "coroutine"
  | .asyncGenerator => "async generator"
  | _ => "generator"

def setGenerator (r : Ref) (g : Generator) : M Unit := setPayload r (.generator g)

/-- An exception that ends iterations may not leave a suspended function unnoticed. -/
def guardStop (g : Generator) (exc : Value) : M Value := do
  let stops ← isError exc "StopIteration"
  let stopsAsync ← isError exc "StopAsyncIteration"
  if stops || (stopsAsync && g.flavor == .asyncGenerator) then
    let what := if stops then "StopIteration" else "StopAsyncIteration"
    newOf "RuntimeError" (.exception
      { args := [.str s!"{flavorName g.flavor} raised {what}"], cause := exc, context := exc
        isContextHidden := true })
  else return exc

/-- Runs a suspended function up to its next suspension or its end. -/
def runFrame (h : Host) (r : Ref) (g : Generator) (frame : Frame) (input : Option Input) :
    M Progress := do
  let outer := (← read).handled
  setGenerator r { g with frame := none, isRunning := true, isStarted := true }
  M.change fun w => { w with handled := frame.handled.getD outer }
  let result ← attempt (h.enter frame input)
  let inner := (← read).handled
  M.change fun w => { w with handled := outer }
  let ended := { g with frame := none, isRunning := false, isStarted := true }
  match result with
  | .ok (.returned v) =>
    setGenerator r ended
    return .returned v
  | .ok (.yielded v frame own) =>
    let handled := if inner.is outer then none else some inner
    setGenerator r { ended with frame := some { frame with handled } }
    return .yielded v own
  | .error exc =>
    setGenerator r ended
    let exc' ← guardStop g exc
    throw (.raised exc')

def resumeGenerator (h : Host) (r : Ref) (g : Generator) (input : Input) : M Progress := do
  if g.isRunning then valueError s!"{flavorName g.flavor} already executing"
  match g.frame, input with
  | none, input =>
    if g.flavor == .coroutine then raise "RuntimeError" "cannot reuse already awaited coroutine"
    match input with
    | .send _ => return .returned .none
    | .throw e => throwExc e
  | some frame, .send v =>
    if g.isStarted then runFrame h r g frame (some (.send v))
    else if v.is .none then runFrame h r g frame none
    else typeError s!"can't send non-None value to a just-started {flavorName g.flavor}"
  | some frame, .throw e =>
    if g.isStarted then runFrame h r g frame (some (.throw e))
    else
      setGenerator r { g with frame := none, isStarted := true }
      throwExc e

/-- A step of an asynchronous generator. A step that closes it swallows the exception it throws. -/
def resumeStep (h : Host) (r gen : Ref) (first : Input) (isStarted : Bool) (input : Input) :
    M Progress := do
  let given := if isStarted then input else match input with
    | .throw e => .throw e
    | .send _ => first
  let closes ← match first with
    | .throw e => isError e "GeneratorExit"
    | .send _ => pure false
  let finish (started ended : Bool) : M Unit := setPayload r (.step gen first started ended)
  match (← obj gen).payload with
  | .generator g =>
    if closes && g.frame.isNone && !g.isRunning then
      finish true true
      return .returned .none
    match ← attempt (resumeGenerator h gen g given) with
    | .ok (.returned _) =>
      finish true true
      if closes then return .returned .none
      throwExc (← newException "StopAsyncIteration" [])
    | .ok (.yielded v true) =>
      finish true true
      if closes then raise "RuntimeError" "async generator ignored GeneratorExit"
      return .returned v
    | .ok (.yielded v false) =>
      finish true false
      return .yielded v false
    | .error e =>
      finish true true
      if closes && ((← isError e "GeneratorExit") || (← isError e "StopAsyncIteration")) then
        return .returned .none
      throw (.raised e)
  | _ => return .returned .none

/-- The exception of a cancelled future. The one that ended it is given once; after that there is a
new one each time. -/
def cancelledError (id : Loop.FutureId) : M Value := do
  let w ← read
  match w.cancelErrors.lookup id with
  | some e =>
    M.change fun w => { w with cancelErrors := w.cancelErrors.filter (·.1 != id) }
    return e
  | none =>
    match w.cancelNotes.lookup id with
    | none | some .none => newException "CancelledError" []
    | some note => newException "CancelledError" [note]

def futureResult (id : Loop.FutureId) : M Value := do
  match (← read).loops.outcome id with
  | .result v => return v
  | .failed e => throw (.raised e)
  | .cancelled => throwExc (← cancelledError id)
  | .pending => throwExc (← newException "InvalidStateError" [.str "Result is not set."])

def newFuture : M Loop.FutureId := .changeLoops (·.create) .create

def futureId (r : Ref) : M Loop.FutureId := do
  match (← obj r).payload with
  | .future id => return id
  | _ => return 0

def resumeAwaiting (r future : Ref) (isStarted : Bool) (input : Input) : M Progress := do
  match input with
  | .throw e => throw (.raised e)
  | .send _ =>
    let id ← futureId future
    if (← read).loops.isDone id then return .returned (← futureResult id)
    if isStarted then raise "RuntimeError" "await wasn't used with future"
    setPayload r (.awaiting future true)
    return .yielded (.ref future) false

def delayOf (v : Value) : M Float := do
  match (← core v).num? with
  | some n => n.toFloat
  | none => typeError s!"'<=' not supported between instances of {quote (← typeName v)} and 'int'"

def resumeSleep (r : Ref) (delay result : Value) (stage : Pause) (input : Input) : M Progress := do
  let goTo (stage : Pause) : M Unit := setPayload r (.sleep delay result stage)
  match stage, input with
  | .past, _ => raise "RuntimeError" "cannot reuse already awaited coroutine"
  | _, .throw e =>
    goTo .past
    throw (.raised e)
  | .ahead, .send _ =>
    let seconds ← delayOf delay
    if seconds ≤ 0 then
      goTo .giving
      return .yielded .none false
    let id ← M.changeLoops (·.sleep seconds) fun l => .sleep l seconds
    let future ← alloc { cls := nativeRef "Future", payload := .future id }
    goTo (.waiting future)
    return .yielded (.ref future) false
  | .giving, .send _ =>
    goTo .past
    return .returned result
  | .waiting future, .send _ =>
    goTo .past
    discard (futureResult (← futureId future))
    return .returned result

def resumeNative? (h : Host) (r : Ref) (input : Input) : M (Option Progress) := do
  match (← obj r).payload with
  | .generator g => return some (← resumeGenerator h r g input)
  | .step gen first isStarted isDone =>
    if isDone then raise "RuntimeError" "cannot reuse already awaited __anext__()/asend()"
    return some (← resumeStep h r gen first isStarted input)
  | .awaiting future isStarted => return some (← resumeAwaiting r future isStarted input)
  | .sleep delay result stage => return some (← resumeSleep r delay result stage input)
  | _ => return none

def stopValue (exc : Value) : M Value := do
  match ← payload exc with
  | .exception e => return argAt e.args 0
  | _ => return .none

/-! Iterators. -/

def setIter (r : Ref) (it : Iter) : M Unit := setPayload r (.iter it)

/-- The next items of several iterators; nothing when one is at its end, together with how many gave
an item before it. -/
def nextAll (next : Value → M (Option Value)) : List Value → M (Except Nat (List Value))
  | [] => return .ok []
  | it :: its => do
    match ← next it with
    | none => return .error 0
    | some v =>
      match ← nextAll next its with
      | .ok vs => return .ok (v :: vs)
      | .error n => return .error (n + 1)

def nextAccepted (next : Value → M (Option Value)) (accepts : Value → M Bool) (it : Value) :
    (fuel : Nat) → M (Option Value)
  | 0 => throw .exhausted
  | fuel + 1 => do
    match ← next it with
    | none => return none
    | some v => if ← accepts v then return some v else nextAccepted next accepts it fuel

def dictItem (part : DictPart) (e : Value × Value) : M Value :=
  match part with
  | .keys => return e.1
  | .values => return e.2
  | .items => newTuple [e.1, e.2]

def firstWith (next : Value → M (Option Value)) (n : Nat) : List Value → M (Option Nat)
  | [] => return none
  | it :: its => do if (← next it).isSome then return some n else firstWith next (n + 1) its

def zipComplaint (n : Nat) (isShorter : Bool) : String :=
  let rest := if n == 1 then "argument 1" else s!"arguments 1-{n}"
  s!"zip() argument {n + 1} is " ++ (if isShorter then "shorter" else "longer") ++ s!" than {rest}"

def numberedItem (h : Host) (r : Ref) (v : Value) (i : Int) (rest : Iter) : M (Option Value) := do
  match ← special? v "__getitem__" with
  | none => return none
  | some m =>
    match ← attempt (callSpecial h m v [.int i]) with
    | .ok x =>
      setIter r rest
      return some x
    | .error e =>
      if (← isError e "IndexError") || (← isError e "StopIteration") then
        setIter r (.items [])
        return none
      throw (.raised e)

def stepIter (h : Host) (next : Value → M (Option Value)) (r : Ref) (it : Iter) :
    M (Option Value) := do
  match it with
  | .list l i =>
    match (← obj l).payload with
    | .list items =>
      match items[i]? with
      | some v =>
        setIter r (.list l (i + 1))
        return some v
      | none =>
        setIter r (.items [])
        return none
    | _ => return none
  | .backward l left =>
    match (← obj l).payload, left with
    | .list items, n + 1 =>
      setIter r (if n < items.size then .backward l n else .items [])
      return items[n]?
    | _, _ => return none
  | .items [] => return none
  | .items (v :: vs) =>
    setIter r (.items vs)
    return some v
  | .dict d part place due size =>
    let es ← dictEntries d
    if some es.length != size then
      setIter r (.dict d part place due none)
      raise "RuntimeError" "dictionary changed size during iteration"
    let gaps := (← obj d).gaps
    let i := entriesBefore gaps place
    match es[i]?, due with
    | some _, 0 =>
      setIter r (.items [])
      raise "RuntimeError" "dictionary keys changed during iteration"
    | some e, due + 1 =>
      setIter r (.dict d part (placeOf gaps i + 1) due size)
      return some (← dictItem part e)
    | none, _ =>
      setIter r (.items [])
      return none
  | .dictBack d part place size =>
    let es ← dictEntries d
    if some es.length != size then
      setIter r (.dictBack d part place none)
      raise "RuntimeError" "dictionary changed size during iteration"
    let gaps := (← obj d).gaps
    let n := entriesBefore gaps place
    match es[n - 1]? with
    | some e =>
      if n == 0 then
        setIter r (.items [])
        return none
      setIter r (.dictBack d part (placeOf gaps (n - 1)) size)
      return some (← dictItem part e)
    | none =>
      setIter r (.items [])
      return none
  | .members s i size =>
    match (← obj s).payload with
    | .set items =>
      if some items.size != size then
        setIter r (.members s i none)
        raise "RuntimeError" "Set changed size during iteration"
      setIter r (if i < items.size then .members s (i + 1) size else .items [])
      return items[i]?
    | _ => return none
  | .range _ 0 _ => return none
  | .range n (left + 1) step =>
    setIter r (.range (n + step) left step)
    return some (.int n)
  | .numbered v i => numberedItem h r v i (.numbered v (i + 1))
  | .countdown _ 0 => return none
  | .countdown v (left + 1) => numberedItem h r v left (.countdown v left)
  | .enumerate inner n =>
    match ← next inner with
    | none => return none
    | some v =>
      setIter r (.enumerate inner (n + 1))
      return some (← newTuple [.int n, v])
  | .zip [] _ => return none
  | .zip inners strict =>
    match ← nextAll next inners with
    | .ok vs => return some (← newTuple vs)
    | .error n =>
      if strict then
        if n > 0 then valueError (zipComplaint n true)
        match ← firstWith next 1 inners.tail with
        | some k => valueError (zipComplaint k false)
        | none => pure ()
      return none
  | .map f inners =>
    match ← nextAll next inners with
    | .ok vs => return some (← h.call f vs [])
    | .error _ => return none
  | .filter f inner =>
    let accepts (v : Value) : M Bool := do
      match f with
      | .none => truth h v
      | f => do truth h (← h.call f [v] [])
    nextAccepted next accepts inner patience
  | .calls f sentinel =>
    let v ← h.call f [] []
    if ← equal h v sentinel then
      setIter r (.items [])
      return none
    return some v

def nextFuel (h : Host) : (fuel : Nat) → Value → M (Option Value)
  | 0, _ => recursionError
  | fuel + 1, v => do
    match ← special? v "__next__" with
    | some m => onError "StopIteration" (some <$> callSpecial h m v []) fun _ => return none
    | none =>
      match v with
      | .ref r =>
        match (← obj r).payload with
        | .iter it => stepIter h (nextFuel h fuel) r it
        | .generator g =>
          if g.flavor != .generator then
            typeError s!"{quote (← typeName v)} object is not an iterator"
          match ← resumeGenerator h r g (.send .none) with
          | .yielded x _ => return some x
          | .returned _ => return none
        | .awaiting .. =>
          match ← resumeNative? h r (.send .none) with
          | some (.yielded x _) => return some x
          | _ => return none
        | _ => typeError s!"{quote (← typeName v)} object is not an iterator"
      | v => typeError s!"{quote (← typeName v)} object is not an iterator"

def nextItem (h : Host) (it : Value) : M (Option Value) := nextFuel h 300 it

def dictIterName : DictPart → String
  | .keys => "dict_keyiterator"
  | .values => "dict_valueiterator"
  | .items => "dict_itemiterator"

def dictBackName : DictPart → String
  | .keys => "dict_reversekeyiterator"
  | .values => "dict_reversevalueiterator"
  | .items => "dict_reverseitemiterator"

def entriesBack (d : Ref) (part : DictPart) : M Value := do
  let size := (← dictEntries d).length
  newIter (dictBackName part) (.dictBack d part (size + (← obj d).gaps.length) (some size))

def nativeIter? (v : Value) : M (Option Value) := do
  match ← payload v, v with
  | .wrapped (.str s), _ =>
    return some (← newIter "str_iterator" (.items (s.toList.map fun c => .str (String.singleton c))))
  | .wrapped (.bytes bs), _ =>
    return some (← newIter "bytes_iterator" (.items (bs.map fun b => .int b.toNat)))
  | .list _, .ref r => return some (← newIter "list_iterator" (.list r 0))
  | .tuple items, _ => return some (← newIter "tuple_iterator" (.items items))
  | .dict es, .ref r =>
    return some (← newIter "dict_keyiterator" (.dict r .keys 0 es.size (some es.size)))
  | .set items, .ref r => return some (← newIter "set_iterator" (.members r 0 (some items.size)))
  | .range a b c, _ => return some (← newIter "range_iterator" (.range a (rangeLength a b c) c))
  | .exports e, _ => return some (← newIter "dict_keyiterator" (.items (e.names.map .str)))
  | .view d part, _ =>
    let size := (← dictEntries d).length
    return some (← newIter (dictIterName part) (.dict d part 0 size (some size)))
  | .iter _, _ => return some v
  | .awaiting .., _ => return some v
  | .generator g, _ => return if g.flavor == .generator then some v else none
  | _, _ => return none

def iterOf (h : Host) (v : Value) : M Value := do
  match ← special? v "__iter__" with
  | some m =>
    if m.is .none then typeError s!"{quote (← typeName v)} object is not iterable"
    let it ← callSpecial h m v []
    let isIterator ← match it with
      | .ref r => do
        match (← obj r).payload with
        | .iter _ => pure true
        | .generator g => pure (g.flavor == .generator)
        | _ => pure (← special? it "__next__").isSome
      | _ => pure false
    if isIterator then return it
    typeError s!"iter() returned non-iterator of type {quote (← typeName it)}"
  | none =>
    match ← nativeIter? v with
    | some it => return it
    | none =>
      if (← special? v "__getitem__").isSome then newIter "iterator" (.numbered v 0)
      else typeError s!"{quote (← typeName v)} object is not iterable"

def drain (h : Host) (it : Value) : (fuel : Nat) → Array Value → M (Array Value)
  | 0, _ => throw .exhausted
  | fuel + 1, acc => do
    match ← nextItem h it with
    | some v => drain h it fuel (acc.push v)
    | none => return acc

def nativeItems? (v : Value) : M (Option (List Value)) := do
  if (← special? v "__iter__").isSome then return none
  match ← payload v with
  | .list items => return some items.toList
  | .tuple items => return some items
  | .set items => return some items.toList
  | .dict es => return some (es.toList.map (·.1))
  | _ => return none

def itemsOf (h : Host) (v : Value) : M (List Value) := do
  match ← nativeItems? v with
  | some items => return items
  | none => return (← drain h (← iterOf h v) patience #[]).toList

def rangeIndex? (a b c n : Int) : Option Int :=
  if c != 0 && (n - a).emod c == 0 && (if c > 0 then a ≤ n && n < b else b < n && n ≤ a) then
    some ((n - a) / c)
  else none

def rangePlace? (h : Host) (a b c : Int) (v : Value) : M (Option Int) := do
  match ← core v with
  | .ref _ =>
    let found ← (List.range (rangeLength a b c)).findM? fun (i : Nat) =>
      equal h (.int (a + c * (i : Int))) v
    return found.map fun i => (i : Int)
  | w =>
    match w.num? with
    | some (.int n) => return rangeIndex? a b c n
    | some (.float x) =>
      if x.isFinite && x.floor == x then return rangeIndex? a b c (Decimal.truncate x)
      return none
    | some (.complex x im) =>
      if im == 0 && x.isFinite && x.floor == x then return rangeIndex? a b c (Decimal.truncate x)
      return none
    | none => return none

def hasRun (part : List UInt8) : List UInt8 → Bool
  | [] => part.isEmpty
  | b :: bs => part.isPrefixOf (b :: bs) || hasRun part bs

def nativeContains (h : Host) (container item : Value) : M Bool := do
  match ← payload container with
  | .wrapped (.str s) =>
    match ← core item with
    | .str t => return (s.splitOn t).length > 1 || t == ""
    | w => typeError s!"'in <string>' requires string as left operand, not {← typeName w}"
  | .wrapped (.bytes bs) =>
    match ← core item with
    | .bytes part => return hasRun part bs
    | w =>
      match w.num? with
      | some (.int n) =>
        if n < 0 || n > 255 then valueError "byte must be in range(0, 256)"
        return bs.any (·.toNat == n.toNat)
      | _ => typeError s!"a bytes-like object is required, not {quote (← typeName w)}"
  | .dict es =>
    requireHashable h item
    return (← findKey h item 0 es.toList).isSome
  | .exports e =>
    match item with
    | .str s => return e.contains s
    | _ => return false
  | .range a b c => return (← rangePlace? h a b c item).isSome
  | .view d .keys =>
    requireHashable h item
    return (← findKey h item 0 (← dictEntries d)).isSome
  | .set items =>
    requireHashable h item
    items.toList.anyM fun x => sameKey h x item
  | _ =>
    let isPlain := (← special? container "__iter__").isNone
      && (← special? container "__getitem__").isNone
    if isPlain && (← nativeIter? container).isNone then
      typeError s!"argument of type {quote (← typeName container)} is not iterable"
    let it ← match ← attempt (iterOf h container) with
      | .ok it => pure it
      | .error e => do
        if ← isError e "TypeError" then
          typeError s!"argument of type {quote (← typeName container)} is not iterable"
        throw (.raised e)
    return (← nextAccepted (nextItem h) (fun x => sameItem h x item) it patience).isSome

def contains (h : Host) (container item : Value) : M Bool := do
  match ← special? container "__contains__" with
  | some .none => typeError s!"{quote (← typeName container)} object is not a container"
  | some m => truth h (← callSpecial h m container [item])
  | none => nativeContains h container item

/-! Awaiting. -/

def isIterator (v : Value) : M Bool := do
  if (← special? v "__next__").isSome then return true
  match ← payload v with
  | .generator g => return g.flavor == .generator
  | .iter _ | .awaiting .. | .step .. => return true
  | _ => return false

def checkAwaited (v : Value) : M Value := do
  match ← payload v with
  | .generator g =>
    if g.flavor == .coroutine then typeError "__await__() returned a coroutine"
  | .sleep .. => typeError "__await__() returned a coroutine"
  | _ => pure ()
  if !(← isIterator v) then
    typeError s!"__await__() returned non-iterator of type {quote (← typeName v)}"
  return v

def awaitablePlain (h : Host) (v : Value) : M Value := do
  let refuse : M Value := do
    typeError s!"object {← typeName v} can't be used in 'await' expression"
  match v with
  | .ref r =>
    match (← obj r).payload with
    | .generator g => if g.flavor == .coroutine then return v else refuse
    | .sleep .. => return v
    | .step .. => return v
    | .future _ => newOf "iterator" (.awaiting r false)
    | _ =>
      match ← special? v "__await__" with
      | some m => do checkAwaited (← callSpecial h m v [])
      | none => refuse
  | _ => refuse

def awaitable (h : Host) (v : Value) : M Value := do
  match ← payload v with
  | .stepOr step default => do
    newOf "anext_awaitable" (.stepOr (← awaitablePlain h step) default)
  | _ => awaitablePlain h v

def resumePlain (h : Host) (v : Value) (input : Input) : M Progress := do
  let native ← match v with
    | .ref r => resumeNative? h r input
    | _ => pure none
  match native with
  | some p => return p
  | none =>
    let viaMethod (name : String) (args : List Value) : M Progress := do
      match ← attempt (do h.call (← getAttr h v name) args []) with
      | .ok x => return .yielded x false
      | .error e =>
        if ← isError e "StopIteration" then return .returned (← stopValue e)
        throw (.raised e)
    match input with
    | .send .none =>
      match ← special? v "__next__" with
      | some m =>
        match ← attempt (callSpecial h m v []) with
        | .ok x => return .yielded x false
        | .error e =>
          if ← isError e "StopIteration" then return .returned (← stopValue e)
          throw (.raised e)
      | none =>
        match ← nextItem h v with
        | some x => return .yielded x false
        | none => return .returned .none
    | .send x => viaMethod "send" [x]
    | .throw e =>
      match ← getAttr? h v "throw" with
      | some _ => viaMethod "throw" [e]
      | none => throw (.raised e)

def resumeAny (h : Host) (v : Value) (input : Input) : M Progress := do
  match ← payload v with
  | .stepOr step default =>
    match ← attempt (resumePlain h step input) with
    | .ok p => return p
    | .error e =>
      if ← isError e "StopAsyncIteration" then return .returned default
      throw (.raised e)
  | _ => resumePlain h v input

def delegateOf (h : Host) (v : Value) : M Value := do
  match ← payload v with
  | .generator g =>
    if g.flavor == .coroutine then
      typeError "cannot 'yield from' a coroutine object in a non-coroutine generator"
    return v
  | _ => iterOf h v

end Notebook.Machine
