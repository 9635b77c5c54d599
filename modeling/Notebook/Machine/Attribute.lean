import Notebook.Cell.Builtin
import Notebook.Machine.Heap
import Notebook.Machine.Method
import Notebook.Text.Quoted

/-! Attributes: where they are found, and how functions found in a class are bound to its objects.
-/

set_option autoImplicit false

namespace Notebook.Machine

open Notebook.Text

def findInOrder (name : String) : List Ref → M (Option Value)
  | [] => return none
  | c :: cs => do
    let o ← obj c
    match o.attrs.lookup name with
    | some v => return some v
    | none =>
      match o.payload with
      | .class k =>
        if c < natives.length && hasMethod k.name name then return some (.native k.name name)
        else findInOrder name cs
      | _ => findInOrder name cs

/-- An attribute that a program gives to one of the classes of an order. -/
def findDefined (name : String) : List Ref → M (Option Value)
  | [] => return none
  | c :: cs => do
    match (← obj c).attrs.lookup name with
    | some v => return some v
    | none => findDefined name cs

def special? (v : Value) (name : String) : M (Option Value) :=
  match v with
  | .ref r => do findDefined name (← orderOf (← obj r).cls)
  | _ => return none

inductive Kind where
  | function
  | staticMethod (f : Value)
  | classMethod (f : Value)
  | property (get set delete : Value)
  /-- An object that a program lets act when it is read, set or deleted through another. -/
  | descriptor (get set delete : Option Value)
  | other

def kindOf (attr : Value) : M Kind := do
  match attr with
  | .native _ "__new__" | .native _ "maketrans" => return .staticMethod attr
  | .native _ "__init_subclass__" | .native _ "fromkeys" | .native _ "from_bytes"
  | .native _ "fromhex" => return .classMethod attr
  | .native .. => return .function
  | .ref r =>
    match (← obj r).payload with
    | .function _ => return .function
    | .staticMethod f => return .staticMethod f
    | .classMethod f => return .classMethod f
    | .property g s d => return .property g s d
    | .class _ => return .other
    | _ =>
      let get ← special? attr "__get__"
      let set ← special? attr "__set__"
      let delete ← special? attr "__delete__"
      if get.isSome || set.isSome || delete.isSome then return .descriptor get set delete
      return .other
  | _ => return .other

def callSpecial (h : Host) (method self : Value) (args : List Value) : M Value := do
  match ← kindOf method with
  | .function => h.call method (self :: args) []
  | .staticMethod f => h.call f args []
  | .classMethod f => do h.call f (.ref (← classOf self) :: args) []
  | _ => h.call method args []

def qualifiedClassName (cls : Ref) : M String := do
  return ((← class? cls).map (·.qualifiedName)).getD ""

def propertyError {α : Type} (name : String) (cls : Ref) (role : String) : M α := do
  let owner ← qualifiedClassName cls
  raise "AttributeError" s!"property {quote name} of {quote owner} object has no {role}"

def bind (h : Host) (name : String) (attr self : Value) (cls : Ref) : M Value := do
  match ← kindOf attr with
  | .function => return .bound self attr
  | .staticMethod f => return f
  | .classMethod f => return .bound (.ref cls) f
  | .property get _ _ =>
    if get.is .none then propertyError name cls "getter"
    h.call get [self] []
  | .descriptor (some get) _ _ => callSpecial h get attr [self, .ref cls]
  | .descriptor none _ _ => return attr
  | .other => return attr

def namesDict (ns : Names) : M Value := newDict (ns.map fun n => (.str n.1, n.2))

def docOf (d : Option String) : Value := (d.map Value.str).getD .none

def argAt (args : List Value) (i : Nat) : Value := args[i]?.getD .none

def exceptionAttr (cls : Ref) (e : Exception) (name : String) : M (Option Value) := do
  let derivesFrom (c : String) : M Bool := isSubclass cls (nativeRef c)
  match name with
  | "args" => return some (← newTuple e.args)
  | "__cause__" => return some e.cause
  | "__context__" => return some e.context
  | "__suppress_context__" => return some (.bool e.isContextHidden)
  | "__traceback__" =>
    if e.traces.isEmpty then return some .none
    return some (← newOf "traceback" .plain)
  | "value" => return if ← derivesFrom "StopIteration" then some (argAt e.args 0) else none
  | "code" =>
    if ← derivesFrom "SystemExit" then
      match e.args with
      | [] => return some .none
      | [v] => return some v
      | vs => return some (← newTuple vs)
    else return none
  | "name" =>
    return if (← derivesFrom "ImportError") || (← derivesFrom "NameError")
        || (← derivesFrom "AttributeError") then some .none else none
  | "path" => return if ← derivesFrom "ImportError" then some .none else none
  | "obj" => return if ← derivesFrom "AttributeError" then some .none else none
  | "msg" =>
    return if (← derivesFrom "ImportError") || (← derivesFrom "SyntaxError") then
      some (argAt e.args 0) else none
  | "errno" | "strerror" | "filename" | "filename2" | "lineno" | "offset" | "text" | "end_lineno"
  | "end_offset" | "print_file_and_line" =>
    let system := ["errno", "strerror", "filename", "", "filename2"]
    let source := ["filename", "lineno", "offset", "text", "end_lineno", "end_offset"]
    if system.contains name && (← derivesFrom "OSError") then
      let i := (system.idxOf? name).getD 0
      return some (if e.args.length ≥ 2 then argAt (e.args ++ e.files) i else .none)
    else if name != "errno" && name != "strerror" && name != "filename2"
        && (← derivesFrom "SyntaxError") then
      match ← payload (argAt e.args 1), source.idxOf? name with
      | .tuple items, some i => return some (argAt items i)
      | _, _ => return some .none
    else return none
  | "exceptions" =>
    if ← derivesFrom "BaseExceptionGroup" then return some (← newTuple e.members) else return none
  | "message" => return if ← derivesFrom "BaseExceptionGroup" then some (argAt e.args 0) else none
  | "encoding" | "object" | "start" | "end" | "reason" =>
    if e.args.length == 5 && (← derivesFrom "UnicodeError") then
      let i := (["encoding", "object", "start", "end", "reason"].idxOf? name).getD 0
      return some (argAt e.args i)
    return none
  | _ => return none

def functionAttr (f : Function) (name : String) : M (Option Value) := do
  match name with
  | "__name__" => return some (.str f.name)
  | "__qualname__" => return some (.str f.qualifiedName)
  | "__doc__" => return some (docOf f.code.doc)
  | "__module__" => return some (((← obj f.globals).attrs.lookup "__name__").getD .none)
  | "__defaults__" =>
    if f.defaults.isEmpty then return some .none
    return some (← newTuple f.defaults)
  | "__kwdefaults__" =>
    if f.keywordDefaults.isEmpty then return some .none
    return some (← namesDict f.keywordDefaults)
  | "__annotations__" => return some (← newDict [])
  | _ => return none

/-- The documentation and the name of a function that every program knows. -/
def builtinAttr (name attr : String) : Option Value :=
  match attr with
  | "__name__" => some (.str name)
  | "__qualname__" => some (.str name)
  | "__module__" => some (.str "builtins")
  | "__doc__" =>
    some (((Cell.builtins.find? fun b => b.name == name).map fun b => Value.str b.documentation).getD
      .none)
  | _ => none

def payloadAttr (v : Value) (cls : Ref) (name : String) : M (Option Value) := do
  match v with
  | .builtin b => return builtinAttr b name
  | .native _ b => return builtinAttr b name
  | .bound self f =>
    match name with
    | "__self__" => return some self
    | "__func__" => return some f
    | _ =>
      match f with
      | .native _ b => return builtinAttr b name
      | .ref r =>
        match (← obj r).payload with
        | .function f => functionAttr f name
        | _ => return none
      | _ => return none
  | _ =>
    match ← payload v, name with
    | .exception e, _ => exceptionAttr cls e name
    | .function f, _ => functionAttr f name
    | .generator g, "__name__" => return some (.str g.name)
    | .generator g, "__qualname__" => return some (.str g.qualifiedName)
    | .generator g, "gi_running" | .generator g, "cr_running" | .generator g, "ag_running" =>
      return some (.bool g.isRunning)
    | .generator g, "gi_frame" | .generator g, "cr_frame" | .generator g, "ag_frame" =>
      if g.frame.isNone && !g.isRunning then return some .none
      return some (← newOf "frame" .plain)
    | .generator _, "gi_yieldfrom" | .generator _, "cr_await" | .generator _, "ag_await" =>
      return some .none
    | .slice a _ _, "start" => return some a
    | .slice _ b _, "stop" => return some b
    | .slice _ _ c, "step" => return some c
    | .range a _ _, "start" => return some (.int a)
    | .range _ b _, "stop" => return some (.int b)
    | .range _ _ c, "step" => return some (.int c)
    | .property g _ _, "fget" => return some g
    | .loader dir, "dirname" => return some (.str dir)
    | .exports e, "data" => return some (← namesDict e.entries)
    | .cell (some w), "cell_contents" => return some w
    | .wrapped (.complex re _), "real" => return some (.float re)
    | .wrapped (.complex _ im), "imag" => return some (.float im)
    | .wrapped (.float x), "real" => return some (.float x)
    | .wrapped (.float _), "imag" => return some (.float 0)
    | .wrapped (.int n), "real" => return some (.int n)
    | .wrapped (.int _), "imag" => return some (.int 0)
    | .wrapped (.int n), "numerator" => return some (.int n)
    | .wrapped (.int _), "denominator" => return some (.int 1)
    | .wrapped (.bool b), "real" => return some (.int (if b then 1 else 0))
    | _, _ => return none

def classRecord (r : Ref) (c : Class) : M Value := do
  let attrs := (← obj r).attrs
  let isFirst := c.order.all fun k => k == r || k < natives.length
  let given (name : String) (v : M Value) : M Names := do
    if (attrs.lookup name).isSome then return [] else return [(name, ← v)]
  let own (name : String) : M Names := given name (newOf "getset_descriptor" (.slot name c.name))
  let places ← if isFirst && c.slots.isNone && r ≥ natives.length then do
      pure ((← own "__dict__") ++ (← own "__weakref__"))
    else pure []
  let doc ← given "__doc__" (return .none)
  let hash ← if (attrs.lookup "__eq__").isSome then given "__hash__" (return .none) else pure []
  let all := ("__module__", Value.str c.module) :: attrs ++ places ++ doc ++ hash
  newOf "mappingproxy" (.dict (entriesOfNames all))

def classAttr (r : Ref) (c : Class) (name : String) : M (Option Value) := do
  match name with
  | "__name__" => return some (.str c.name)
  | "__qualname__" => return some (.str c.qualifiedName)
  | "__module__" => return some (.str c.module)
  | "__bases__" => return some (← newTuple (c.bases.map .ref))
  | "__base__" => return some (c.bases.head?.elim .none .ref)
  | "__mro__" => return some (← newTuple (c.order.map .ref))
  | "__class__" => return some (.ref (nativeRef "type"))
  | "__dict__" => return some (← classRecord r c)
  | "__doc__" => return some .none
  | "__annotations__" => return some (← newDict [])
  | "mro" => return some (.bound (.ref r) (.native "type" "mro"))
  | _ => return none

def boundInOrder (h : Host) (order : List Ref) (self : Value) (cls : Ref) (name : String) :
    M (Option Value) := do
  match ← findInOrder name order with
  | some a => return some (← bind h name a self cls)
  | none => return none

def attrOfClass? (h : Host) (r : Ref) (c : Class) (name : String) : M (Option Value) := do
  match name, ← findDefined name c.order with
  | "__dict__", _ | "__name__", _ | "__qualname__", _ | "__module__", _ => classAttr r c name
  | _, some a =>
    match ← kindOf a with
    | .staticMethod f => return some f
    | .classMethod f => return some (.bound (.ref r) f)
    | .descriptor (some get) _ _ => return some (← callSpecial h get a [.none, .ref r])
    | _ => return some a
  | _, none =>
    match ← classAttr r c name with
    | some v => return some v
    | none =>
      match ← findInOrder name c.order with
      | some a =>
        match a, ← kindOf a with
        | .native _ "__init_subclass__", _ => return some a
        | _, .classMethod f => return some (.bound (.ref r) f)
        | _, _ => return some a
      | none =>
        let kind := (← obj r).cls
        boundInOrder h (← orderOf kind) (.ref r) kind name

/-- The part of an order after a class. -/
def after (start : Ref) (order : List Ref) : List Ref := (order.dropWhile (· != start)).drop 1

def slotsOf (cls : Ref) : M (Option (List String)) := do
  let own := (← orderOf cls).filter (· ≥ natives.length)
  let slots ← own.mapM fun c => do return (← class? c).bind (·.slots)
  if own.isEmpty || slots.any (·.isNone) then return none
  let names := slots.flatMap (·.getD [])
  return if names.contains "__dict__" then none else some names

def findAttr? (h : Host) (v : Value) (name : String) : M (Option Value) := do
  let cls ← classOf v
  match v, ← payload v with
  | .ref r, .class c => attrOfClass? h r c name
  | _, .super start self =>
    let (order, cls) ← match self, ← asClass self with
      | .ref r, some c =>
        if c.order.contains start then pure (c.order, r)
        else do
          let kind ← classOf self
          pure (← orderOf kind, kind)
      | _, _ => do
        let cls ← classOf self
        pure (← orderOf cls, cls)
    match ← findInOrder name (after start order) with
    | some a => return some (← bind h name a self cls)
    | none => return none
  | _, _ =>
    if name == "__class__" then return some (.ref cls)
    let found ← findInOrder name (← orderOf cls)
    let goesFirst ← match found with
      | some a => do
        match ← kindOf a with
        | .property .. => pure true
        | .descriptor _ set delete => pure (set.isSome || delete.isSome)
        | _ => pure false
      | none => pure false
    match found, goesFirst with
    | some a, true => return some (← bind h name a v cls)
    | _, _ =>
      let own ← match v with
        | .ref r => own? r name
        | _ => pure none
      match own, v with
      | some w, _ => return some w
      | none, _ =>
        if name == "__dict__" then
          match v with
          | .ref r =>
            if (← slotsOf cls).isSome then return none
            return some (← recordOf r)
          | _ => return none
        match found with
        | some a => return some (← bind h name a v cls)
        | none =>
          match ← payloadAttr v cls name with
          | some w => return some w
          | none =>
            if name == "__doc__" then return some .none
            if name == "__module__" then return (← class? cls).map fun c => Value.str c.module
            return none

/-- What a program or module does about attributes that are not there. -/
def fallback? (v : Value) : M (Option (Bool × Value)) := do
  match ← special? v "__getattr__" with
  | some g => return some (true, g)
  | none =>
    match v, ← payload v with
    | .ref r, .module _ => return (← own? r "__getattr__").map (false, ·)
    | _, _ => return none

def getAttr? (h : Host) (v : Value) (name : String) : M (Option Value) := do
  let look : M (Option Value) := do
    match ← special? v "__getattribute__" with
    | some g => return some (← callSpecial h g v [.str name])
    | none => findAttr? h v name
  match ← fallback? v with
  | none => look
  | some (isBound, g) =>
    match ← onError "AttributeError" look (fun _ => return none) with
    | some w => return some w
    | none =>
      if isBound then return some (← callSpecial h g v [.str name])
      else return some (← h.call g [.str name] [])

/-- The name that a module goes by. -/
def moduleName (v : Value) (name : String) : M String := do
  let own ← match v with
    | .ref r => own? r "__name__"
    | _ => pure none
  match own with
  | some (.str n) => return n
  | _ => return name

def noAttrMessage (v : Value) (name : String) : M String := do
  match ← payload v with
  | .class c => return s!"type object {quote c.name} has no attribute {quote name}"
  | .module m => return s!"module {quote (← moduleName v m)} has no attribute {quote name}"
  | _ => return s!"{quote (← typeName v)} object has no attribute {quote name}"

def noAttr {α : Type} (v : Value) (name : String) : M α := do
  let exc ← newException "AttributeError" [.str (← noAttrMessage v name)]
  match exc with
  | .ref r =>
    setOwn r "name" (.str name)
    setOwn r "obj" v
  | _ => pure ()
  throwExc exc

def getAttr (h : Host) (v : Value) (name : String) : M Value := do
  match ← getAttr? h v name with
  | some w => return w
  | none => noAttr v name

def keepsAttrs (v : Value) : M Bool := do
  match v with
  | .ref r =>
    let o ← obj r
    match o.payload with
    | .module _ | .function _ | .exception _ | .exports _ | .loader _ => return true
    | .class _ => return r ≥ natives.length
    | _ => return o.cls ≥ natives.length
  | _ => return false

def refuseNativeClass {α : Type} (c : Class) (name : String) : M α :=
  typeError s!"cannot set {quote name} attribute of immutable type {quote c.name}"

/-- Changes what an attribute of a function or class is by itself; tells whether it did. -/
def setPayloadAttr (r : Ref) (name : String) (w : Value) : M Bool := do
  let o ← obj r
  match o.payload, name, w with
  | .function f, "__name__", .str s =>
    setPayload r (.function { f with name := s })
    return true
  | .function f, "__qualname__", .str s =>
    setPayload r (.function { f with qualifiedName := s })
    return true
  | .class c, "__name__", .str s =>
    setPayload r (.class { c with name := s })
    return true
  | .class c, "__qualname__", .str s =>
    setPayload r (.class { c with qualifiedName := s })
    return true
  | .class c, "__module__", .str s =>
    setPayload r (.class { c with module := s })
    return true
  | .exception e, "__cause__", w =>
    if !w.is .none && !(← isA w "BaseException") then
      typeError "exception cause must be None or derive from BaseException"
    setPayload r (.exception { e with cause := w, isContextHidden := true })
    return true
  | .exception e, "__context__", w =>
    if !w.is .none && !(← isA w "BaseException") then
      typeError "exception context must be None or derive from BaseException"
    setPayload r (.exception { e with context := w })
    return true
  | .exception e, "__suppress_context__", .bool b =>
    setPayload r (.exception { e with isContextHidden := b })
    return true
  | .exception e, "args", w =>
    let items ← match ← payload w with
      | .tuple items => pure items
      | .list items | .set items => pure items.toList
      | .dict es => pure (es.toList.map (·.1))
      | .wrapped (.str s) => pure (s.toList.map fun c => .str (String.singleton c))
      | _ => typeError s!"{quote (← typeName w)} object is not iterable"
    setPayload r (.exception { e with args := items })
    return true
  | .exception _, "__traceback__", w =>
    if !w.is .none && !(← isA w "traceback") then
      typeError "__traceback__ must be a traceback or None"
    return true
  | .function _, "__name__", _ => typeError "__name__ must be set to a string object"
  | .function _, "__qualname__", _ => typeError "__qualname__ must be set to a string object"
  | .function f, "__defaults__", w =>
    match w, ← payload w with
    | .none, _ => setPayload r (.function { f with defaults := [] })
    | _, .tuple items => setPayload r (.function { f with defaults := items })
    | _, _ => typeError "__defaults__ must be set to a tuple object"
    return true
  | .class c, "__name__", w =>
    typeError s!"can only assign string to {c.name}.__name__, not {quote (← typeName w)}"
  | .class c, "__qualname__", w =>
    typeError s!"can only assign string to {c.name}.__qualname__, not {quote (← typeName w)}"
  | _, _, _ => return false

def setAttrPlain (v : Value) (name : String) (w : Value) : M Unit := do
  match v, ← asClass v with
  | .ref r, some c =>
    if r < natives.length then refuseNativeClass c name
    if !(← setPayloadAttr r name w) then setOwn r name w
  | .ref r, none =>
    let isNamed := match ← slotsOf (← classOf v) with
      | some names => names.contains name
      | none => true
    if isNamed && (← keepsAttrs v) then
      if !(← setPayloadAttr r name w) then setOwn r name w
    else noAttr v name
  | v, _ => noAttr v name

def setAttr (h : Host) (v : Value) (name : String) (w : Value) : M Unit := do
  match ← special? v "__setattr__" with
  | some s => discard (callSpecial h s v [.str name, w])
  | none =>
    let found ← match v with
      | .ref r => do findDefined name (← orderOf (← obj r).cls)
      | _ => pure none
    match found with
    | some a =>
      match ← kindOf a with
      | .property _ set _ =>
        if set.is .none then
          propertyError name (← classOf v) "setter"
        discard (h.call set [v, w] [])
      | .descriptor _ (some set) _ => discard (callSpecial h set a [v, w])
      | .descriptor _ none (some _) => raise "AttributeError" "__set__"
      | _ => setAttrPlain v name w
    | none => setAttrPlain v name w

def deleteAttrPlain (v : Value) (name : String) : M Unit := do
  match v with
  | .ref r =>
    match ← asClass v with
    | some c => if r < natives.length then refuseNativeClass c name
    | none => pure ()
    match ← own? r name with
    | some _ => dropOwn r name
    | none =>
      match ← payload v with
      | .module _ => noAttr v name
      | _ =>
        match ← asClass v with
        | some _ => noAttr v name
        | none => if ← keepsAttrs v then raise "AttributeError" name else noAttr v name
  | v => noAttr v name

def deleteAttr (h : Host) (v : Value) (name : String) : M Unit := do
  match ← special? v "__delattr__" with
  | some s => discard (callSpecial h s v [.str name])
  | none =>
    match ← special? v name with
    | some a =>
      match ← kindOf a with
      | .property _ _ delete =>
        if delete.is .none then
          propertyError name (← classOf v) "deleter"
        discard (h.call delete [v] [])
      | .descriptor _ _ (some delete) => discard (callSpecial h delete a [v])
      | .descriptor _ (some _) none => raise "AttributeError" "__delete__"
      | _ => deleteAttrPlain v name
    | none => deleteAttrPlain v name

end Notebook.Machine
