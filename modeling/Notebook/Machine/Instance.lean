import Notebook.Machine.Construct

set_option autoImplicit false

namespace Notebook.Machine

open Notebook.Text

def isFinal (name : String) : Bool :=
  ["bool", "NoneType", "ellipsis", "NotImplementedType", "function", "builtin_function_or_method",
    "method", "range", "slice", "generator", "coroutine", "async_generator", "memoryview",
    "GenericAlias", "UnionType"].contains name

/-- What an object is by a native class that its class derives from. -/
def payloadOf (v : Value) : M Payload := do
  match v with
  | .ref r => return (← obj r).payload
  | v => return .wrapped v

/-! Making classes. -/

def checkLayouts (bases : List Ref) : M Unit := do
  let names ← bases.mapM nativeName
  let layouts := (names.map fun n => if derives n "BaseException" then "BaseException" else n).eraseDups
  let layouts := layouts.filter (· != "object")
  let best := layouts.find? fun n => layouts.all (derives n)
  if !layouts.isEmpty && best.isNone then typeError "multiple bases have instance lay-out conflict"

def duplicate? : List Ref → Option Ref
  | [] => none
  | r :: rs => if rs.contains r then some r else duplicate? rs

def checkBases (bases : List Ref) : M Unit := do
  match duplicate? bases with
  | some r => typeError s!"duplicate base class {← className r}"
  | none => pure ()
  bases.forM fun b => do
    let name ← className b
    if b < natives.length && isFinal name then
      typeError s!"type {quote name} is not an acceptable base type"
  checkLayouts bases

def isClassFact (name : String) : Bool := ["__module__", "__qualname__"].contains name

def textNamed (attrs : Names) (name default : String) : String :=
  match attrs.lookup name with
  | some (.str s) => s
  | _ => default

/-- Methods that get the class, or nothing, in place of an object. -/
def implicitKind (name : String) (v : Value) : M Value := do
  match ← kindOf v with
  | .function =>
    if name == "__init_subclass__" || name == "__class_getitem__" then
      newOf "classmethod" (.classMethod v)
    else if name == "__new__" then newOf "staticmethod" (.staticMethod v)
    else return v
  | _ => return v

def tellNames (h : Host) (cls : Value) (attrs : Names) : M Unit :=
  attrs.forM fun (n, v) => do
    match ← special? v "__set_name__" with
    | some m => discard (callSpecial h m v [cls, .str n])
    | none => return

def tellBases (h : Host) (r : Ref) (c : Class) (keywords : Names) : M Unit := do
  match ← findDefined "__init_subclass__" (c.order.drop 1) with
  | some m =>
    match ← kindOf m with
    | .classMethod f => discard (h.call f [.ref r] keywords)
    | _ => discard (h.call m [] keywords)
  | none =>
    if !keywords.isEmpty then
      typeError s!"{c.qualifiedName}.__init_subclass__() takes no keyword arguments"

def slotNames (h : Host) (attrs : Names) (v : Value) : M (List String) := do
  let names ← match ← core v with
    | .str s => pure [s]
    | _ => do
      (← itemsOf h v).mapM fun x => do
        match ← core x with
        | .str s => return s
        | w => typeError s!"__slots__ items must be strings, not {quote (← typeName w)}"
  match names.find? fun n => (attrs.lookup n).isSome with
  | some n => valueError s!"{quote n} in __slots__ conflicts with class variable"
  | none => return names

/-- A new class; a cell that its methods know it by is filled before anything is told of it. -/
def makeClass (h : Host) (kind : Ref) (name : String) (bases : List Ref) (attrs : Names)
    (cell : Option Ref) (keywords : Names) : M Value := do
  let bases := if bases.isEmpty then [nativeRef "object"] else bases
  checkBases bases
  let r ← alloc { cls := kind }
  match ← resolutionOrder r bases with
  | none =>
    let names ← bases.mapM className
    typeError ("Cannot create a consistent method resolution\norder (MRO) for bases " ++
      joinWith comma names)
  | some order =>
    let slots ← match attrs.lookup "__slots__" with
      | some v => do pure (some (← slotNames h attrs v))
      | none => pure none
    let c : Class :=
      { name, qualifiedName := textNamed attrs "__qualname__" name
        module := textNamed attrs "__module__" "__cell__", bases, order, slots }
    let attrs ← (attrs.filter fun a => !isClassFact a.1).mapM fun (n, v) => do
      return (n, ← implicitKind n v)
    modifyObj r fun o => { o with payload := .class c, attrs }
    match cell with
    | some k => setPayload k (.cell (some (.ref r)))
    | none => pure ()
    tellNames h (.ref r) attrs
    tellBases h r c keywords
    return .ref r

def classRefs? : List Value → M (Option (List Ref))
  | [] => return some []
  | .ref r :: vs => do
    match ← class? r, ← classRefs? vs with
    | some _, some rs => return some (r :: rs)
    | _, _ => return none
  | _ => return none

def typeOf3 (h : Host) (kind : Ref) (name bases attrs : Value) (keywords : Names) : M Value := do
  match ← core name, ← payload bases, ← payload attrs with
  | .str n, .tuple bs, .dict es =>
    match ← classRefs? bs with
    | some rs =>
      let named := es.toList.filterMap fun (k, v) => match k with
        | .str s => some (s, v)
        | _ => none
      makeClass h kind n rs named none keywords
    | none => typeError "bases must be types"
  | .str _, .tuple _, _ =>
    typeError s!"type.__new__() argument 3 must be dict, not {← typeName attrs}"
  | .str _, _, _ => typeError s!"type.__new__() argument 2 must be tuple, not {← typeName bases}"
  | _, _, _ => typeError s!"type.__new__() argument 1 must be str, not {← typeName name}"

def callType (h : Host) (kind : Ref) (args : List Value) (keywords : Names) : M Value := do
  match args with
  | [v] => return .ref (← classOf v)
  | [n, bs, d] => typeOf3 h kind n bs d keywords
  | _ => typeError "type() takes 1 or 3 arguments"

/-! Objects. -/

def fillNative (h : Host) (r : Ref) (args : List Value) (keywords : Names) : M Unit := do
  let cls := (← obj r).cls
  let name ← nativeName cls
  match (← obj r).payload with
  | .exception e =>
    setPayload r (.exception { e with args })
    exceptionKeywords r name keywords
  | .list _ | .set _ | .dict _ => do
    setPayload r (← payloadOf (← constructNative h name args keywords))
  | .plain =>
    if !args.isEmpty || !keywords.isEmpty then
      if (← special? (.ref r) "__init__").isSome then
        typeError "object.__init__() takes exactly one argument (the instance to initialize)"
      if (← special? (.ref r) "__new__").isNone then
        typeError s!"{← className cls}() takes no arguments"
  | _ => return

def newInstance (h : Host) (r : Ref) (args : List Value) (keywords : Names) : M Value := do
  let order ← orderOf r
  let hasInit := (← findDefined "__init__" order).isSome
  let hasNew := (← findDefined "__new__" order).isSome
  let name ← nativeName r
  let place (p : Payload) : M Value := do return .ref (← alloc { cls := r, payload := p })
  if derives name "BaseException" then
    let members ← if derives name "BaseExceptionGroup" then membersOf h name args else pure []
    if !hasInit then checkExceptionArgs name args
    let v ← place (.exception { exceptionOf name args with members })
    match v with
    | .ref x => if !hasInit then exceptionKeywords x name keywords
    | _ => pure ()
    return v
  match name with
  | "object" =>
    if (!args.isEmpty || !keywords.isEmpty) && !hasInit then
      if hasNew then typeError "object.__new__() takes exactly one argument (the type to instantiate)"
      typeError s!"{← className r}() takes no arguments"
    place .plain
  | "type" => callType h r args keywords
  | "list" | "dict" | "set" | "OrderedDict" | "ExportNamespace" =>
    let (args, keywords) := if hasInit then ([], []) else (args, keywords)
    place (← payloadOf (← constructNative h name args keywords))
  | _ => do place (← payloadOf (← constructNative h name args keywords))

def initialize_ (h : Host) (v : Value) (args : List Value) (keywords : Names) : M Unit := do
  match ← special? v "__init__" with
  | some m =>
    let out ← match ← kindOf m with
      | .function => h.call m (v :: args) keywords
      | .staticMethod f => h.call f args keywords
      | _ => h.call m args keywords
    if !out.is .none then
      typeError s!"__init__() should return None, not {quote (← typeName out)}"
  | none => return

def instantiate (h : Host) (r : Ref) (c : Class) (args : List Value) (keywords : Names) : M Value := do
  if r < natives.length then
    if c.name == "type" then callType h r args keywords else constructNative h c.name args keywords
  else
    let made ← match ← findDefined "__new__" c.order with
      | some m =>
        let f ← match ← kindOf m with
          | .staticMethod f => pure f
          | _ => pure m
        h.call f (.ref r :: args) keywords
      | none => newInstance h r args keywords
    if ← isSubclass (← classOf made) r then initialize_ h made args keywords
    return made

/-! Class statements. -/

def kindFor (bases : List Value) (keywords : Names) : M Value := do
  match keywords.lookup "metaclass", bases with
  | some m, _ => return m
  | none, [] => return .ref (nativeRef "type")
  | none, b :: _ => do
    let kinds ← bases.mapM classOf
    let first ← classOf b
    let best ← kinds.findM? fun k => kinds.allM fun l => isSubclass k l
    match best with
    | some k => return .ref k
    | none =>
      if kinds.all (· == first) then return .ref first
      typeError ("metaclass conflict: the metaclass of a derived class must be a (non-strict) " ++
        "subclass of the metaclasses of all its bases")

def buildClass (h : Host) (args : List Value) (keywords : Names) : M Value := do
  match args with
  | .ref f :: .str name :: bases =>
    match (← obj f).payload with
    | .function fn =>
      let kind ← kindFor bases keywords
      let keywords := keywords.filter (·.1 != "metaclass")
      let holder ← alloc { cls := nativeRef "dict" }
      let frame ← makeFrame fn (Array.replicate fn.code.slots.size none)
      let cell ← match ← h.enter { frame with names := some holder } none with
        | .returned (.ref k) => pure (some k)
        | _ => pure none
      let attrs := (← obj holder).attrs
      match kind, ← classRefs? bases with
      | .ref k, some rs =>
        if k == nativeRef "type" then makeClass h k name rs attrs cell keywords
        else
          let made ← h.call kind [.str name, ← newTuple bases, ← namesDict attrs] keywords
          match cell with
          | some c => setPayload c (.cell (some made))
          | none => pure ()
          return made
      | _, _ => h.call kind [.str name, ← newTuple bases, ← namesDict attrs] keywords
    | _ => typeError "__build_class__: func must be a function"
  | _ => typeError "__build_class__: not enough arguments"

end Notebook.Machine
