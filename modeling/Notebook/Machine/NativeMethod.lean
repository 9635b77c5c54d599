import Notebook.Machine.Numeric

set_option autoImplicit false

namespace Notebook.Machine

open Notebook.Text Notebook.Decimal

/-! Special methods. -/

def operators : List Tree.BinOp :=
  [.add, .sub, .mul, .matMul, .div, .mod, .pow, .shiftLeft, .shiftRight, .bitOr, .bitXor, .bitAnd,
    .floorDiv]

/-- The operator that a method stands for, and which of its operands the object is. -/
inductive Side where
  | left
  | right
  | both

def binOf (name : String) : Option (Tree.BinOp × Side) :=
  let find (mark : String) (side : Side) :=
    (operators.find? fun op => name == "__" ++ mark ++ binName op ++ "__").map (·, side)
  (find "" .left).orElse fun _ => (find "r" .right).orElse fun _ => find "i" .both

def cmpOf : String → Option Tree.CmpOp
  | "__lt__" => some .lt
  | "__le__" => some .ltE
  | "__gt__" => some .gt
  | "__ge__" => some .gtE
  | _ => none

def nativeCompare (h : Host) (op : Tree.CmpOp) (a b : Value) : M Value := do
  match ← nativeOrder h a b with
  | some (.order o) => return .bool (holds op o)
  | some (.parts x y) => ordered h op x y
  | none => return .notImplemented

def ownDigest (h : Host) (r : Ref) : M Int := do
  match (← obj r).payload with
  | .wrapped w => return plainDigest w
  | .tuple items => return digestSequence (← items.mapM (digest h))
  | _ => return r

/-- The text of a value by what it is, whatever the program says. -/
def ownRepr (h : Host) (v : Value) : M String := nativeRepr (repr h) (fun _ => false) v

def ownStr (h : Host) (v : Value) : M String := do
  match v with
  | .ref r =>
    let o ← obj r
    match o.payload with
    | .exception e => nativeMessage h (str h) o.cls e
    | .wrapped (.str s) => return s
    | _ => repr h v
  | v => str h v

/-- An operator called as a method. Joining and repeating a sequence refuse what they do not take,
and the other operators leave it to the other operand. -/
def operatorMethod (h : Host) (op : Tree.BinOp) (side : Side) (self other : Value) : M Value := do
  let refuse (a b : Value) : M Value := do
    match op with
    | .add => if ← isSequence self then refuseOperands op "+" a b else return .notImplemented
    | .mul =>
      if ← isSequence self then
        let _ ← intArg h other
      return .notImplemented
    | _ => return .notImplemented
  match side with
  | .left =>
    match ← nativeBinary h op self other with
    | some v => return v
    | none => refuse self other
  | .right =>
    match ← nativeBinary h op other self with
    | some v => return v
    | none => refuse other self
  | .both => update h op self other

/-- How many arguments a special method takes besides its object, for those that count them alike.
-/
def arity? (name : String) : Option Nat :=
  if ["__repr__", "__str__", "__hash__", "__len__", "__iter__", "__next__", "__neg__", "__pos__",
      "__abs__", "__bool__", "__invert__", "__int__", "__float__", "__index__", "__await__",
      "__aiter__", "__anext__"].contains name then some 0
  else if ["__eq__", "__ne__", "__getitem__", "__contains__", "__getattribute__", "__delattr__",
      "__delitem__"].contains name || (cmpOf name).isSome then some 1
  else
    match binOf name with
    | some (.pow, _) | none => none
    | some _ => some 1

/-- A special method that values of several native classes have; nothing for other names. -/
def specialMethod? (h : Host) (name : String) (self : Value) (args : List Value) (keywords : Names) :
    M (Option Value) := do
  let first := argAt args 0
  let give (v : Value) : M (Option Value) := return some v
  match name with
  | "__init__" =>
    match self with
    | .ref r => fillNative h r args keywords
    | _ => pure ()
    give .none
  | "__repr__" => give (.str (← ownRepr h self))
  | "__str__" => give (.str (← ownStr h self))
  | "__eq__" =>
    if self.is first then return some (.bool true)
    match ← nativeEqual (equal h) self first with
    | some b => give (.bool b)
    | none => give .notImplemented
  | "__ne__" =>
    if self.is first then return some (.bool false)
    match ← nativeEqual (equal h) self first with
    | some b => give (.bool (!b))
    | none => give .notImplemented
  | "__hash__" =>
    match self with
    | .ref r => do give (.int (← ownDigest h r))
    | v => give (.int (plainDigest v))
  | "__setattr__" =>
    match ← core first with
    | .str n => do
      setAttrPlain self n (argAt args 1)
      give .none
    | _ => typeError "attribute name must be string"
  | "__delattr__" =>
    match ← core first with
    | .str n => do
      deleteAttrPlain self n
      give .none
    | _ => typeError "attribute name must be string"
  | "__getattribute__" =>
    match ← core first with
    | .str n =>
      match ← findAttr? h self n with
      | some v => give v
      | none => noAttr self n
    | _ => typeError "attribute name must be string"
  | "__format__" =>
    match ← core first with
    | .str s => do give (.str (← format h (← core self) s))
    | _ => typeError "__format__() argument must be str"
  | "__len__" =>
    match ← nativeLength? self with
    | some n => give (.int n)
    | none => typeError s!"object of type {quote (← typeName self)} has no len()"
  | "__getitem__" => do give (← nativeItem h self first)
  | "__setitem__" =>
    nativeSetItem h self first (argAt args 1)
    give .none
  | "__delitem__" =>
    nativeDeleteItem h self first
    give .none
  | "__contains__" => do give (.bool (← nativeContains h self first))
  | "__iter__" | "__aiter__" =>
    match self, ← payload self with
    | .ref r, .future _ => do give (← newOf "iterator" (.awaiting r false))
    | _, _ =>
      match ← nativeIter? self with
      | some it => give it
      | none => give self
  | "__neg__" => return numberUnary .minus (← core self)
  | "__pos__" => return numberUnary .plus (← core self)
  | "__invert__" => return numberUnary .invert (← core self)
  | "__abs__" => do give (← absOf h (← core self))
  | "__round__" => do give (← roundOf h ((← core self) :: args) [])
  | "__trunc__" => do give (← roundedBy h "trunc" id [← core self])
  | "__floor__" => do give (← roundedBy h "floor" Float.floor [← core self])
  | "__ceil__" => do give (← roundedBy h "ceil" Float.ceil [← core self])
  | "__reversed__" => do give (← makeReversed h [self])
  | "__divmod__" | "__rdivmod__" =>
    let isBoth := (← core self).num?.isSome && (← core first).num?.isSome
    if !isBoth then give .notImplemented
    else if name == "__divmod__" then give (← divmodOf h [← core self, ← core first])
    else give (← divmodOf h [← core first, ← core self])
  | "__bool__" => do give (.bool (← truth h (← core self)))
  | "__int__" | "__index__" => do give (← makeInt h [← core self])
  | "__float__" => do give (← makeFloat h [← core self])
  | _ =>
    match binOf name, cmpOf name with
    | some (op, side), _ => do give (← operatorMethod h op side self first)
    | _, some op => do give (← nativeCompare h op self first)
    | none, none => return none

/-! Numbers, bytes, slices. -/

def intMethod (n : Int) (name : String) (args : List Value) : M Value := do
  zeroArgs ("int." ++ name) args
  match name with
  | "bit_length" => return .int (bitLength n.natAbs)
  | "bit_count" => return .int ((Nat.toDigits 2 n.natAbs).filter (· == '1')).length
  | "as_integer_ratio" => newTuple [.int n, .int 1]
  | _ => return .int n

def floatMethod (x : Float) (name : String) (args : List Value) : M Value := do
  zeroArgs ("float." ++ name) args
  match name with
  | "is_integer" => return .bool (x.isFinite && x.floor == x)
  | "as_integer_ratio" =>
    match Binary.ofFloat x with
    | .finite negative m e =>
      let (p, q) := if e ≥ 0 then (m * Nat.pow 2 e.toNat, 1) else (m, Nat.pow 2 (-e).toNat)
      let g := Nat.gcd p q
      let p : Int := (p / g : Nat)
      newTuple [.int (if negative then -p else p), .int ((q / g : Nat) : Int)]
    | .infinite _ => overflow "cannot convert Infinity to integer ratio"
    | .nan => valueError "cannot convert NaN to integer ratio"
  | _ => return .float x

def hexOf (bs : List UInt8) : String :=
  String.join (bs.map fun b => String.ofList (hexDigits 2 b.toNat))

def bytesMethod (bs : List UInt8) (name : String) (args : List Value) (keywords : Names) :
    M Value := do
  match name with
  | "hex" => return .str (hexOf bs)
  | _ =>
    let (encoding, errors) ← codecArgs name args keywords
    decodeBytes bs encoding errors

/-! Suspended functions. -/

def thrown (h : Host) (name : String) (args : List Value) : M Value := do
  let args ← someArgs name 1 3 args
  let first := argAt args 0
  let second := argAt args 1
  if !(argAt args 2).is .none && !(← isA (argAt args 2) "traceback") then
    typeError "throw() third argument must be a traceback object"
  let isErrorClass ← match first, ← asClass first with
    | .ref c, some _ => isSubclass c (nativeRef "BaseException")
    | _, _ => pure false
  let isReady ← match first with
    | .ref c => do isSubclass (← classOf second) c
    | _ => pure false
  if isErrorClass then
    if isReady then return second
    match second, ← payload second with
    | .none, _ => h.call first [] []
    | _, .tuple items => h.call first items []
    | v, _ => h.call first [v] []
  else if ← isA first "BaseException" then
    if !second.is .none then typeError "instance exception may not have a separate value"
    return first
  else
    typeError ("exceptions must be classes or instances deriving from BaseException, not " ++
      (← typeName first))

def stopIteration {α : Type} (v : Value) : M α := do
  throwExc (← newException "StopIteration" (if v.is .none then [] else [v]))

def asYield : Progress → M Value
  | .yielded v _ => return v
  | .returned v => stopIteration v

def closeGenerator (h : Host) (r : Ref) (g : Generator) : M Value := do
  if g.isRunning then valueError s!"{flavorName g.flavor} already executing"
  match g.frame, g.isStarted with
  | none, _ => return .none
  | some _, false =>
    setGenerator r { g with frame := none, isStarted := true }
    return .none
  | some _, true =>
    match ← attempt (resumeGenerator h r g (.throw (← newException "GeneratorExit" []))) with
    | .ok (.returned _) => return .none
    | .ok (.yielded ..) => raise "RuntimeError" s!"{flavorName g.flavor} ignored GeneratorExit"
    | .error e =>
      if (← isError e "GeneratorExit") || (← isError e "StopIteration") then return .none
      throw (.raised e)

def generatorMethod (h : Host) (r : Ref) (g : Generator) (name : String) (args : List Value) :
    M Value := do
  let kind := generatorKind g.flavor
  let step (input : Input) : M Value :=
    newOf "async_generator_asend" (.step r input false false)
  match name with
  | "send" => do asYield (← resumeGenerator h r g (.send (← oneArg (kind ++ ".send") args)))
  | "throw" => do asYield (← resumeGenerator h r g (.throw (← thrown h "throw" args)))
  | "close" => closeGenerator h r g
  | "__next__" => do asYield (← resumeGenerator h r g (.send .none))
  | "asend" => do step (.send (← oneArg (kind ++ ".asend") args))
  | "athrow" => do step (.throw (← thrown h "athrow" args))
  | "aclose" => do step (.throw (← newException "GeneratorExit" []))
  | "__anext__" => step (.send .none)
  | _ => return .ref r

/-! Futures. -/

def invalidState {α : Type} (message : String) : M α := raise "InvalidStateError" message

def failure (h : Host) (v : Value) : M Value := do
  let exc ← match v, ← asClass v with
    | .ref c, some _ =>
      if ← isSubclass c (nativeRef "BaseException") then h.call v [] [] else pure v
    | _, _ => pure v
  unless ← isA exc "BaseException" do typeError "invalid exception object"
  if (← classOf exc) == nativeRef "StopIteration" then
    typeError ("StopIteration interacts badly with generators " ++
      "and cannot be raised into a Future")
  return exc

def supportsSetting (v : Value) (name : String) : M Unit := do
  if ← isA v "Task" then raise "RuntimeError" s!"Task does not support {name} operation"

def settleFuture (id : Loop.FutureId) (o : Loop.Outcome Value Value) : M Unit :=
  .changeLoops (fun l => ((), l.settleOwn id o)) fun l => .settleOwn l id o

def futureMethod (h : Host) (r : Ref) (id : Loop.FutureId) (name : String) (args : List Value)
    (keywords : Names) : M Value := do
  let outcome := (← read).loops.outcome id
  match name with
  | "cancel" =>
    let n := args.length + keywords.length
    if n > 1 then typeError s!"cancel() takes at most 1 argument ({n} given)"
    knownKeywords "cancel" ["msg"] keywords
    let note := optional args keywords 0 "msg" .none
    M.change fun w =>
      let targets := w.loops.cancelTargets (w.loops.futures.size + 1) id
      { w with
        cancelNotes := targets.map (·, note) ++ w.cancelNotes.filter fun n => !targets.contains n.1 }
    match ← M.changeLoops (·.cancel id) fun l => .cancel l id with
    | .tooDeep => recursionError " while calling a Python object"
    | answer => return .bool (answer = .taken)
  | "cancelled" => return .bool ((← read).loops.isCancelled id)
  | "done" => return .bool outcome.isDone
  | "result" => futureResult id
  | "exception" =>
    match outcome with
    | .result _ => return .none
    | .failed e => return e
    | .cancelled => throwExc (← cancelledError id)
    | .pending => invalidState "Exception is not set."
  | "set_result" =>
    supportsSetting (.ref r) name
    if outcome.isDone then invalidState "invalid state"
    settleFuture id (.result (argAt args 0))
    return .none
  | "set_exception" =>
    supportsSetting (.ref r) name
    if outcome.isDone then invalidState "invalid state"
    let exc ← failure h (← oneArg "_asyncio.Future.set_exception" args)
    settleFuture id (.failed exc)
    return .none
  | "cancelling" | "uncancel" => return .int 0
  | _ => newOf "iterator" (.awaiting r false)

/-! Any method. -/

def refuseReceiver {α : Type} (cls name : String) (self : Value) : M α := do
  typeError (s!"descriptor {quote name} for {quote cls} objects doesn't apply to a " ++
    s!"{quote (← typeName self)} object")

def exceptionMethod (h : Host) (r : Ref) (e : Exception) (name : String) (args : List Value) :
    M Value := do
  match name with
  | "split" | "subgroup" | "derive" => groupMethod h (.ref r) e name args
  | "add_note" =>
    let note ← oneArg "BaseException.add_note" args
    match ← core note with
    | .str _ => pure ()
    | w => typeError s!"note must be a str, not {quote (← typeName w)}"
    match ← own? r "__notes__" with
    | some (.ref l) => pushList l note
    | _ => setOwn r "__notes__" (← newList [note])
    return .none
  | "with_traceback" =>
    let trace ← oneArg "BaseException.with_traceback" args
    if !trace.is .none && !(← isA trace "traceback") then
      typeError "__traceback__ must be a traceback or None"
    return .ref r
  | _ => return .ref r

def propertyMethod (get set delete : Value) (name : String) (args : List Value) : M Value := do
  let f := argAt args 0
  match name with
  | "getter" => newOf "property" (.property f set delete)
  | "setter" => newOf "property" (.property get f delete)
  | _ => newOf "property" (.property get set f)

def payloadMethod (h : Host) (cls name : String) (self : Value) (args : List Value)
    (keywords : Names) : M Value := do
  match self, ← payload self with
  | _, .wrapped (.str s) => textMethod h s name args keywords
  | _, .wrapped (.int n) => intMethod n name args
  | _, .wrapped (.bool b) => intMethod (if b then 1 else 0) name args
  | _, .wrapped (.float x) => floatMethod x name args
  | _, .wrapped (.complex re im) => return .complex re (-im)
  | _, .wrapped (.bytes bs) => bytesMethod bs name args keywords
  | .ref r, .list items => listMethod h r items name args keywords
  | _, .tuple items => tupleMethod h items name args
  | .ref r, .dict es => dictMethod h r es name args keywords
  | .ref r, .set items => setMethod h r items name args
  | _, .range a b c => rangeMethod h a b c name args
  | _, .slice a b c =>
    let n ← intArg h (← oneArg "slice.indices" args)
    let s ← spanOf h n.toNat a b c
    newTuple [.int s.start, .int s.stop, .int s.step]
  | .ref r, .exports e => exportsMethod h r e name args keywords
  | .ref r, .generator g => generatorMethod h r g name args
  | .ref r, .future id => futureMethod h r id name args keywords
  | .ref r, .exception e => exceptionMethod h r e name args
  | _, .property g s d => propertyMethod g s d name args
  | _, .class c =>
    match name with
    | "mro" => newList (c.order.map .ref)
    | _ =>
      match self with
      | .ref r => instantiate h r c args keywords
      | _ => h.call self args keywords
  | _, .iter _ =>
    match ← nextItem h self with
    | some v => return v
    | none => stopIteration .none
  | _, .sleep .. =>
    match name with
    | "close" => return .none
    | _ => return self
  | .ref r, .function _ =>
    match name with
    | "__get__" =>
      let object := argAt args 0
      return if object.is .none then .ref r else .bound object (.ref r)
    | _ => h.call self args keywords
  | _, .loader _ => h.call self args keywords
  | _, .stream isError =>
    match name, args with
    | "write", [v] =>
      match ← core v with
      | .str s =>
        if isError then writeErr s else writeOut s
        return .int s.length
      | w => typeError s!"string argument expected, got {quote (← typeName w)}"
    | _, _ => return .none
  | _, _ => refuseReceiver cls name self

def dictFromKeys (h : Host) (args : List Value) : M Value := do
  let args ← someArgs "fromkeys" 1 2 args
  let keys ← itemsOf h (argAt args 0)
  makeDict h (keys.map fun k => (k, argAt args 1))

/-- Whether a method found in a native class takes objects of the class of a value. -/
def accepts (cls : String) (self : Value) : M Bool := do
  match ← asClass self with
  | some _ => return cls == "type" || cls == "object"
  | none => isA self cls

def callMethod (h : Host) (cls name : String) (self : Value) (args : List Value) (keywords : Names) :
    M Value := do
  if !(← accepts cls self) then refuseReceiver cls name self
  match arity? name with
  | some n =>
    if args.length != n then typeError s!"expected {n} argument{plural n}, got {args.length}"
    if !keywords.isEmpty then typeError s!"wrapper {name}() takes no keyword arguments"
  | none => pure ()
  match ← specialMethod? h name self args keywords with
  | some v => return v
  | none => payloadMethod h cls name self args keywords

def callNative (h : Host) (cls name : String) (args : List Value) (keywords : Names) : M Value := do
  match name, args with
  | "__new__", .ref r :: rest =>
    match ← class? r with
    | some c =>
      if r < natives.length then constructNative h c.name rest keywords
      else if (← findDefined "__new__" c.order).isSome && (← nativeName r) == "object" then
        return .ref (← alloc { cls := r })
      else newInstance h r rest keywords
    | none => typeError "object.__new__(X): X is not a type object"
  | "__init_subclass__", _ => return .none
  | "fromkeys", _ :: rest => dictFromKeys h rest
  | "maketrans", args => makeTable h args
  | _, [] => typeError s!"unbound method {cls}.{name}() needs an argument"
  | _, self :: rest => callMethod h cls name self rest keywords

end Notebook.Machine
