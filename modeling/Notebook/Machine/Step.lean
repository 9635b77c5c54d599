import Notebook.Machine.Match

set_option autoImplicit false

namespace Notebook.Machine

open Notebook.Text
open Notebook.Code (Instr)

inductive Next where
  | go (frame : Frame)
  | done (v : Value)
  /-- Gives a value away and waits; `own` tells whether by a yield of the unit itself. -/
  | wait (v : Value) (frame : Frame) (own : Bool)

/-! Exceptions. -/

def asException (h : Host) (v : Value) (complaint : String) : M Value := do
  match v, ← asClass v with
  | .ref r, some _ =>
    if ← isSubclass r (nativeRef "BaseException") then
      let e ← h.call v [] []
      if ← isA e "BaseException" then return e
      typeError
        (s!"calling {← repr h v} should have returned an instance of BaseException, not " ++
          (← repr h (.ref (← classOf e))))
    typeError complaint
  | _, _ => if ← isA v "BaseException" then return v else typeError complaint

def setCause (exc cause : Value) : M Unit := do
  match exc with
  | .ref r =>
    modifyObj r fun o =>
      match o.payload with
      | .exception e => { o with payload := .exception { e with cause, isContextHidden := true } }
      | _ => o
  | _ => return

def raiseValue {α : Type} (h : Host) (v : Value) (cause : Option Value) : M α := do
  let exc ← asException h v "exceptions must derive from BaseException"
  match cause with
  | none => pure ()
  | some .none => setCause exc .none
  | some c => do setCause exc (← asException h c "exception causes must derive from BaseException")
  throwExc exc

def handlerClasses (v : Value) : M (List Ref) := do
  let refuse : M (List Ref) :=
    typeError "catching classes that do not inherit from BaseException is not allowed"
  let all ← match ← payload v with
    | .tuple vs => pure vs
    | _ => pure [v]
  match ← classRefs? all with
  | none => refuse
  | some rs =>
    if ← rs.allM fun r => isSubclass r (nativeRef "BaseException") then return rs else refuse

def catches (exc classes : Value) : M Bool := do
  let cls ← classOf exc
  (← handlerClasses classes).anyM (isSubclass cls)

def groupCatches (classes : Value) : M (Value → M Bool) := do
  let refs ← handlerClasses classes
  if ← refs.anyM (isSubclass · (nativeRef "BaseExceptionGroup")) then
    typeError "catching ExceptionGroup with except* is not allowed. Use except instead."
  return fun exc => do
    let cls ← classOf exc
    refs.anyM (isSubclass cls)

def setHandled (v : Value) : M Unit := .change fun w => { w with handled := v }

/-! Context managers. -/

def boundSpecial (h : Host) (v : Value) (name complaint : String) : M Value := do
  match ← special? v name with
  | some m => bind h name m v (← classOf v)
  | none => typeError complaint

def managerMethods (h : Host) (v : Value) (entry exit kind : String) : M (Value × Value) := do
  let base := s!"{quote (← typeName v)} object does not support the {kind} protocol"
  let enter ← boundSpecial h v entry base
  let leave ← boundSpecial h v exit s!"{base} (missed {exit} method)"
  return (enter, leave)

/-- The arguments that tell the end of a context about an exception. -/
def exitArgs (exc : Value) : M (List Value) := do
  return [.ref (← classOf exc), exc, ← newOf "traceback" .plain]

/-! Suspension. -/

def awaitedFrom (f : Frame) : Option String :=
  match f.code.instrs.getD (f.pc - 2) .pop with
  | .enterAsyncWith => some "__aenter__"
  | .callExit | .exitWithException => some "__aexit__"
  | _ => none

def awaitableHere (h : Host) (f : Frame) (v : Value) : M Value := do
  match awaitedFrom f with
  | none => awaitable h v
  | some method =>
    match ← attempt (awaitable h v) with
    | .ok w => return w
    | .error e =>
      if (← isError e "TypeError") && (← special? v "__await__").isNone then
        typeError
          (s!"'async with' received an object from {method} that does not implement __await__: " ++
            (← typeName v))
      throw (.raised e)

def asyncIter (h : Host) (v : Value) : M Value := do
  match ← payload v with
  | .generator g => if g.flavor == .asyncGenerator then return v
  | _ => pure ()
  match ← special? v "__aiter__" with
  | none => typeError s!"'async for' requires an object with __aiter__ method, got {← typeName v}"
  | some m =>
    let it ← callSpecial h m v []
    let isNative ← match ← payload it with
      | .generator g => pure (g.flavor == .asyncGenerator)
      | _ => pure false
    if isNative || (← special? it "__anext__").isSome then return it
    typeError
      s!"'async for' received an object from __aiter__ that does not implement __anext__: {← typeName it}"

def asyncNext (h : Host) (v : Value) : M Value := do
  match v, ← payload v with
  | .ref r, .generator _ => newOf "async_generator_asend" (.step r (.send .none) false false)
  | _, _ =>
    match ← special? v "__anext__" with
    | none => typeError s!"'async for' requires an iterator with __anext__ method, got {← typeName v}"
    | some m =>
      let step ← callSpecial h m v []
      match ← attempt (awaitable h step) with
      | .ok w => return w
      | .error e =>
        if (← isError e "TypeError") then
          typeError s!"'async for' received an invalid object from __anext__: {← typeName step}"
        throw (.raised e)

def afterDelegate (f : Frame) : Progress → Next
  | .returned v => .go ({ (f.drop 1).push v with pc := f.pc + 1 })
  | .yielded v _ => .wait v f false

/-! Calls. -/

def calleeLabel (h : Host) (v : Value) : M String := do
  match ← getAttr? h v "__qualname__" with
  | some (.str name) =>
    match ← getAttr? h v "__module__" with
    | some (.str m) => return if m == "builtins" then name ++ "()" else m ++ "." ++ name ++ "()"
    | _ => return name ++ "()"
  | _ => str h v

def spreadArgs (h : Host) (callee v : Value) : M (List Value) := do
  let isPlain := (← special? v "__iter__").isNone && (← special? v "__getitem__").isNone
  if isPlain && (← nativeIter? v).isNone then
    typeError s!"{← calleeLabel h callee} argument after * must be an iterable, not {← typeName v}"
  itemsOf h v

def spreadKeywords (h : Host) (v : Value) : M Names := do
  (← entriesOf h v).mapM fun (k, x) => do
    match ← core k with
    | .str s => return (s, x)
    | _ => typeError "keywords must be strings"

def mergeKeywords (h : Host) (callee : Value) (r : Ref) (v : Value) : M Unit := do
  let isMapping ← match ← payload v with
    | .dict _ | .exports _ => pure true
    | _ => do pure (← getAttr? h v "keys").isSome
  if !isMapping then
    typeError s!"{← calleeLabel h callee} argument after ** must be a mapping, not {← typeName v}"
  (← entriesOf h v).forM fun (k, x) => do
    if (← findKey h k 0 (← dictEntries r)).isSome then
      match ← core k with
      | .str s =>
        typeError s!"{← calleeLabel h callee} got multiple values for keyword argument {quote s}"
      | _ => typeError "keywords must be strings"
    setDictKey h r k x

def callHere (h : Host) (f : Frame) (callee : Value) (args : List Value) (keywords : Names) :
    M Value := do
  if args.isEmpty && keywords.isEmpty then
    match ← callHere? f callee with
    | some v => return v
    | none => h.call callee [] []
  else h.call callee args keywords

def newFunction (f : Frame) (unit : Nat) (defaults : List Value) (keywordDefaults annotations : Names)
    (captures : List Nat) : M Value := do
  let code := f.program.units.getD unit default
  let fn : Function :=
    { program := f.program, code, name := code.name, qualifiedName := code.qualifiedName
      globals := f.globals, defaults, keywordDefaults, captured := captures.map (cellRef f) }
  let attrs ← if annotations.isEmpty then pure []
    else do pure [("__annotations__", ← namesDict annotations)]
  return .ref (← alloc { cls := nativeRef "function", payload := .function fn, attrs })

def storeHint (h : Host) (f : Frame) (name : String) (v : Value) : M Unit := do
  match f.names with
  | none => return
  | some r =>
    let hints ← match ← own? r "__annotations__" with
      | some d => pure d
      | none => do
        let d ← newDict []
        setOwn r "__annotations__" d
        pure d
    setItem h hints (.str name) v

def importAll (h : Host) (f : Frame) (module : Value) : M Unit := do
  let names ← match ← getAttr? h module "__all__", module with
    | some all, _ => do
      (← itemsOf h all).filterMapM fun v => do
        match ← core v with
        | .str s => return some s
        | _ => return none
    | none, .ref r => do
      pure (((← obj r).attrs.map (·.1)).filter fun n => !n.startsWith "_")
    | none, _ => pure []
  names.forM fun n => do
    let v ← getAttr h module n
    setOwn (f.names.getD f.globals) n v

/-! Containers. -/

def pairs : List Value → List (Value × Value)
  | k :: v :: rest => (k, v) :: pairs rest
  | _ => []

def extendBy (h : Host) (r : Ref) (v : Value) : M Unit := do
  let isPlain := (← special? v "__iter__").isNone && (← special? v "__getitem__").isNone
  if isPlain && (← nativeIter? v).isNone then
    typeError s!"Value after * must be an iterable, not {← typeName v}"
  extendList h r v

def addItem (h : Host) (r : Ref) (v : Value) : M Unit := do
  match (← obj r).payload with
  | .set items => do setPayload r (.set (← addToSet h items v))
  | _ => return

def updateMapping (h : Host) (r : Ref) (v : Value) : M Unit := do
  match ← payload v with
  | .dict _ | .exports _ => pure ()
  | _ =>
    if (← getAttr? h v "keys").isNone then
      typeError s!"{quote (← typeName v)} object is not a mapping"
  updateDict h r (← entriesOf h v)

def Frame.refAt (f : Frame) (depth : Nat) : Ref :=
  match f.peek depth with
  | .ref r => r
  | _ => 0

def pushOptional (vs : Option (List Value)) : M Value := do
  match vs with
  | some items => newTuple items
  | none => return .none

/-! The instructions. -/

def stepAccess (h : Host) (f : Frame) : Instr → M (Option Frame)
  | .loadFast i => do return some (f.push (← loadFast f i))
  | .storeFast i =>
    let (v, f) := f.pop
    return some (f.setSlot i (some v))
  | .deleteFast i => do
    discard (loadFast f i)
    return some (f.setSlot i none)
  | .loadCell i => do return some (f.push (← loadCell f i))
  | .storeCell i => do
    let (v, f) := f.pop
    setPayload (cellRef f i) (.cell (some v))
    return some f
  | .deleteCell i => do
    discard (loadCell f i)
    setPayload (cellRef f i) (.cell none)
    return some f
  | .loadClassCell i name => do
    let found ← match f.names with
      | some r => own? r name
      | none => pure none
    match found with
    | some v => return some (f.push v)
    | none => return some (f.push (← loadCell f i))
  | .loadName n => do return some (f.push (← loadNamed f n))
  | .storeName n => do
    let (v, f) := f.pop
    setOwn (f.names.getD f.globals) n v
    return some f
  | .deleteName n => do
    dropNamed (f.names.getD f.globals) n
    return some f
  | .loadGlobal n => do return some (f.push (← loadGlobal f n))
  | .storeGlobal n => do
    let (v, f) := f.pop
    setOwn f.globals n v
    return some f
  | .deleteGlobal n => do
    dropNamed f.globals n
    return some f
  | .loadAttr n => do
    let (v, f) := f.pop
    return some (f.push (← getAttr h v n))
  | .storeAttr n => do
    let (o, f) := f.pop
    let (v, f) := f.pop
    setAttr h o n v
    return some f
  | .deleteAttr n => do
    let (o, f) := f.pop
    deleteAttr h o n
    return some f
  | .loadItem => do
    let (k, f) := f.pop
    let (o, f) := f.pop
    return some (f.push (← getItem h o k))
  | .storeItem => do
    let (k, f) := f.pop
    let (o, f) := f.pop
    let (v, f) := f.pop
    setItem h o k v
    return some f
  | .deleteItem => do
    let (k, f) := f.pop
    let (o, f) := f.pop
    deleteItem h o k
    return some f
  | _ => return none

def stepBuild (h : Host) (f : Frame) : Instr → M (Option Frame)
  | .binary op => do
    let (b, f) := f.pop
    let (a, f) := f.pop
    return some (f.push (← binary h op a b))
  | .update op => do
    let (b, f) := f.pop
    let (a, f) := f.pop
    return some (f.push (← update h op a b))
  | .unary op => do
    let (a, f) := f.pop
    return some (f.push (← unary h op a))
  | .compare op => do
    let (b, f) := f.pop
    let (a, f) := f.pop
    return some (f.push (← compare h op a b))
  | .buildTuple n => do
    let (vs, f) := f.popMany n
    return some (f.push (← newTuple vs))
  | .buildList n => do
    let (vs, f) := f.popMany n
    return some (f.push (← newList vs))
  | .buildSet n => do
    let (vs, f) := f.popMany n
    return some (f.push (← makeSet h "set" vs))
  | .buildDict n => do
    let (vs, f) := f.popMany (2 * n)
    return some (f.push (← makeDict h (pairs vs)))
  | .buildText n => do
    let (vs, f) := f.popMany n
    return some (f.push (joinTexts vs))
  | .buildSlice hasStep => do
    let (c, f) := if hasStep then f.pop else (.none, f)
    let (b, f) := f.pop
    let (a, f) := f.pop
    return some (f.push (← newOf "slice" (.slice a b c)))
  | .listAppend d => do
    let (v, f) := f.pop
    pushList (f.refAt d) v
    return some f
  | .listExtend d => do
    let (v, f) := f.pop
    extendBy h (f.refAt d) v
    return some f
  | .listToTuple => do
    let (v, f) := f.pop
    return some (f.push (← newTuple (← itemsOf h v)))
  | .setAdd d => do
    let (v, f) := f.pop
    addItem h (f.refAt d) v
    return some f
  | .setUpdate d => do
    let (v, f) := f.pop
    (← itemsOf h v).forM (addItem h (f.refAt d))
    return some f
  | .dictAdd d => do
    let (v, f) := f.pop
    let (k, f) := f.pop
    setDictKey h (f.refAt d) k v
    return some f
  | .dictUpdate d => do
    let (v, f) := f.pop
    updateMapping h (f.refAt d) v
    return some f
  | .dictMerge d => do
    let (v, f) := f.pop
    mergeKeywords h (f.peek (d + 2)) (f.refAt d) v
    return some f
  | .format conversion hasSpec => do
    let (spec, f) := if hasSpec then f.pop else (.str "", f)
    let (v, f) := f.pop
    match spec with
    | .str s => return some (f.push (.str (← formatValue h conversion v s)))
    | _ => return some (f.push (.str (← formatValue h conversion v "")))
  | .unpack n => do
    let (v, f) := f.pop
    return some (f.pushAll (← unpackExact h v n))
  | .unpackRest before after => do
    let (v, f) := f.pop
    return some (f.pushAll (← unpackRest h v before after))
  | .isSequence => do
    let (v, f) := f.pop
    return some (f.push (.bool (← subjectIsSequence v)))
  | .isMapping => do
    let (v, f) := f.pop
    return some (f.push (.bool (← subjectIsMapping v)))
  | .getLength => do
    let (v, f) := f.pop
    return some (f.push (.int (← lengthOf h v)))
  | .matchKeys => do
    let (keys, f) := f.pop
    let (v, f) := f.pop
    return some (f.push (← pushOptional (← keysOf h v (← itemsOf h keys))))
  | .matchRest => do
    let (keys, f) := f.pop
    let (v, f) := f.pop
    return some (f.push (← restOf h v (← itemsOf h keys)))
  | .matchClass count names => do
    let (cls, f) := f.pop
    let (v, f) := f.pop
    return some (f.push (← pushOptional (← classParts h v cls count names)))
  | _ => return none

def stepDefine (h : Host) (f : Frame) : Instr → M (Option Frame)
  | .call count keywords => do
    let (vs, f) := f.popMany count
    let (callee, f) := f.pop
    let positional := count - keywords.length
    let v ← callHere h f callee (vs.take positional) (keywords.zip (vs.drop positional))
    return some (f.push v)
  | .callSpread hasKeywords => do
    let (kw, f) := if hasKeywords then f.pop else (.none, f)
    let (vs, f) := f.pop
    let (callee, f) := f.pop
    let args ← spreadArgs h callee vs
    let keywords ← if hasKeywords then spreadKeywords h kw else pure []
    return some (f.push (← callHere h f callee args keywords))
  | .makeFunction unit defaults keywordDefaults annotated captures => do
    let (notes, f) := f.popMany annotated.length
    let (kws, f) := f.popMany keywordDefaults.length
    let (ds, f) := f.popMany defaults
    let v ← newFunction f unit ds (keywordDefaults.zip kws) (annotated.zip notes) captures
    return some (f.push v)
  | .loadBuildClass => return some (f.push (.builtin "__build_class__"))
  | .storeHint name => do
    let (v, f) := f.pop
    storeHint h f name v
    return some f
  | .captureClass i => return some (f.push (.ref (cellRef f i)))
  | .loadAssertionError => return some (f.push (.ref (nativeRef "AssertionError")))
  | .importModule name level names => do
    return some (f.push (← importStatement name level names))
  | .importName name => do
    return some (f.push (← importFrom h (f.peek 1) name))
  | .importAll => do
    let (v, f) := f.pop
    importAll h f v
    return some f
  | _ => return none

/-- Instructions for exceptions, contexts, iteration and suspension. -/
def stepFlow (h : Host) (f : Frame) : Instr → M Next
  | .jump t => return .go (f.jump t)
  | .jumpIfFalse t => do
    let (v, f) := f.pop
    return .go (if ← truth h v then f else f.jump t)
  | .jumpIfTrue t => do
    let (v, f) := f.pop
    return .go (if ← truth h v then f.jump t else f)
  | .jumpIfFalseOrPop t => do
    return .go (if ← truth h (f.peek 1) then f.drop 1 else f.jump t)
  | .jumpIfTrueOrPop t => do
    return .go (if ← truth h (f.peek 1) then f.jump t else f.drop 1)
  | .getIter => do
    let (v, f) := f.pop
    return .go (f.push (← iterOf h v))
  | .forIter t => do
    match ← nextItem h (f.peek 1) with
    | some v => return .go (f.push v)
    | none => return .go ((f.drop 1).jump t)
  | .return => return .done f.pop.1
  | .raise 0 => do
    match (← read).handled with
    | .none => raise "RuntimeError" "No active exception to reraise"
    | e => throw (.raised e)
  | .raise 1 => raiseValue h (f.peek 1) none
  | .raise _ => raiseValue h (f.peek 2) (some (f.peek 1))
  | .setup t => return .go { f with guards := ⟨t, f.stack.length⟩ :: f.guards }
  | .setupBelow t => return .go { f with guards := ⟨t, f.stack.length - 1⟩ :: f.guards }
  | .endRegion => return .go { f with guards := f.guards.tail }
  | .enterHandler => do
    let (exc, f) := f.pop
    let before := (← read).handled
    setHandled exc
    return .go ((f.push before).push exc)
  | .leaveHandler => do
    let (v, f) := f.pop
    setHandled v
    return .go f
  | .reraise => throw (.raised (f.peek 1))
  | .matchException => do
    let (classes, f) := f.pop
    return .go (f.push (.bool (← catches (f.peek 1) classes)))
  | .matchGroup => do
    let (classes, f) := f.pop
    let (rest, f) := f.pop
    let (part, rest) ← takeGroup (← groupCatches classes) rest
    if !part.is .none then setHandled part
    return .go (((f.push rest).push part).push (.bool (!part.is .none)))
  | .mergeGroup => do
    let (left, f) := f.pop
    let (whole, f) := f.pop
    return .go (f.push (← mergeGroup whole (← itemsOf h left)))
  | .enterWith => do
    let (v, f) := f.pop
    let (enter, leave) ← managerMethods h v "__enter__" "__exit__" "context manager"
    let entered ← h.call enter [] []
    return .go ((f.push leave).push entered)
  | .enterAsyncWith => do
    let (v, f) := f.pop
    let (enter, leave) ← managerMethods h v "__aenter__" "__aexit__" "asynchronous context manager"
    let entered ← h.call enter [] []
    return .go ((f.push leave).push entered)
  | .callExit => do
    let (exit, f) := f.pop
    return .go (f.push (← h.call exit [.none, .none, .none] []))
  | .exitWithException => do
    let v ← h.call (f.peek 3) (← exitArgs (f.peek 1)) []
    return .go (f.push v)
  | .getAwaitable => do
    let (v, g) := f.pop
    return .go (g.push (← awaitableHere h f v))
  | .getDelegate => do
    let (v, f) := f.pop
    return .go (f.push (← delegateOf h v))
  | .getAsyncIter => do
    let (v, f) := f.pop
    return .go (f.push (← asyncIter h v))
  | .getAsyncNext => do return .go (f.push (← asyncNext h (f.peek 1)))
  | .endAsyncFor => do
    if ← isError (f.peek 1) "StopAsyncIteration" then return .go (f.drop 2)
    throw (.raised (f.peek 1))
  | .yield =>
    let (v, f) := f.pop
    return .wait v { f with pc := f.pc - 1 } true
  | .delegate => do
    let (v, f) := f.pop
    let f := { f with pc := f.pc - 1 }
    return afterDelegate f (← resumeAny h (f.peek 1) (.send v))
  | _ => return .go f

/-- Executes an instruction; the frame stands at the next one already. -/
def step (h : Host) (f : Frame) (i : Instr) : M Next := do
  match i with
  | .const c => return .go (f.push (constant c))
  | .pop => return .go (f.drop 1)
  | .copy d => return .go (f.push (f.peek d))
  | .swap d => return .go (f.swap d)
  | .loadFast .. | .storeFast .. | .deleteFast .. | .loadCell .. | .storeCell .. | .deleteCell ..
  | .loadClassCell .. | .loadName .. | .storeName .. | .deleteName .. | .loadGlobal ..
  | .storeGlobal .. | .deleteGlobal .. | .loadAttr .. | .storeAttr .. | .deleteAttr .. | .loadItem
  | .storeItem | .deleteItem => return .go ((← stepAccess h f i).getD f)
  | .call .. | .callSpread .. | .makeFunction .. | .loadBuildClass | .storeHint .. | .captureClass ..
  | .loadAssertionError | .importModule .. | .importName .. | .importAll =>
    return .go ((← stepDefine h f i).getD f)
  | _ =>
    match ← stepBuild h f i with
    | some f => return .go f
    | none => stepFlow h f i

end Notebook.Machine
