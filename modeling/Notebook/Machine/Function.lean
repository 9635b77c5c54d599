import Notebook.Machine.NativeMethod
import Notebook.Machine.Task

set_option autoImplicit false

namespace Notebook.Machine

open Notebook.Text Notebook.Tree

/-! Output. -/

def separator (name : String) (keywords : Names) (default : String) : M String := do
  match keywords.lookup name with
  | none | some .none => return default
  | some v =>
    match ← core v with
    | .str s => return s
    | w => typeError s!"{name} must be None or a string, not {← typeName w}"

def printTo (h : Host) (keywords : Names) : M (String → M Unit) := do
  match keywords.lookup "file" with
  | none | some .none => return writeOut
  | some v =>
    match ← payload v with
    | .stream isError => return if isError then writeErr else writeOut
    | _ => return fun s => do discard (h.call (← getAttr h v "write") [.str s] [])

def printArgs (h : Host) (write : String → M Unit) (sep : String) : Bool → List Value → M Unit
  | _, [] => return
  | isFirst, v :: vs => do
    if !isFirst then write sep
    write (← str h v)
    printArgs h write sep false vs

def print (h : Host) (args : List Value) (keywords : Names) : M Value := do
  knownKeywords "print" ["sep", "end", "file", "flush"] keywords
  let sep ← separator "sep" keywords " "
  let ending ← separator "end" keywords "\n"
  let write ← printTo h keywords
  printArgs h write sep true args
  write ending
  match keywords.lookup "file", keywords.lookup "flush" with
  | some file, some f =>
    if !file.is .none && (← truth h f) then discard (h.call (← getAttr h file "flush") [] [])
  | _, some f => discard (truth h f)
  | _, _ => pure ()
  return .none

/-! Greatest and least. -/

def bestOf (h : Host) (better : Value → Value → M Bool) (key : Value) :
    List Value → Option (Value × Value) → M (Option (Value × Value))
  | [], best => return best
  | v :: vs, best => do
    let k ← if key.is .none then pure v else h.call key [v] []
    match best with
    | none => bestOf h better key vs (some (k, v))
    | some (l, w) =>
      if ← better k l then bestOf h better key vs (some (k, v))
      else bestOf h better key vs (some (l, w))

def extreme (h : Host) (name : String) (args : List Value) (keywords : Names) : M Value := do
  if args.isEmpty then typeError s!"{name} expected at least 1 argument, got 0"
  knownKeywords name ["key", "default"] keywords
  let key := (keywords.lookup "key").getD .none
  let default := keywords.lookup "default"
  let better (a b : Value) : M Bool := do
    truth h (← ordered h (if name == "max" then .gt else .lt) a b)
  match args with
  | [] => typeError s!"{name} expected at least 1 argument, got 0"
  | [v] =>
    match ← bestOf h better key (← itemsOf h v) none, default with
    | some (_, w), _ => return w
    | none, some d => return d
    | none, none => valueError s!"{name}() arg is an empty sequence"
  | vs =>
    if default.isSome then
      typeError s!"Cannot specify a default for {name}() with multiple positional arguments"
    return ((← bestOf h better key vs none).map (·.2)).getD .none

/-! Classes. -/

def matchesClass (arg : Nat → String) (test : Ref → M Bool) : (fuel : Nat) → Value → M Bool
  | 0, _ => recursionError
  | fuel + 1, v => do
    match v, ← payload v with
    | .ref r, .class _ => test r
    | _, .tuple vs => vs.anyM (matchesClass arg test fuel)
    | _, .union vs => vs.anyM fun m =>
        match m with
        | .none => test (nativeRef "NoneType")
        | m => matchesClass arg test fuel m
    | _, .alias .. => typeError (arg 1)
    | _, _ => typeError (arg 0)

def isInstance (v classes : Value) : M Bool := do
  let cls ← classOf v
  let complaint (n : Nat) : String :=
    if n == 1 then "isinstance() argument 2 cannot be a parameterized generic"
    else "isinstance() arg 2 must be a type, a tuple of types, or a union"
  matchesClass complaint (isSubclass cls) 100 classes

def isSubclassOf (v classes : Value) : M Bool := do
  match v, ← asClass v with
  | .ref r, some _ =>
    let complaint (n : Nat) : String :=
      if n == 1 then "issubclass() argument 2 cannot be a parameterized generic"
      else "issubclass() arg 2 must be a class, a tuple of classes, or a union"
    matchesClass complaint (isSubclass r) 100 classes
  | _, _ => typeError "issubclass() arg 1 must be a class"

def isCallable (v : Value) : M Bool := do
  match v with
  | .builtin _ | .native .. | .bound .. => return true
  | .ref _ =>
    match ← payload v with
    | .class _ | .function _ | .loader _ | .staticMethod _ | .alias .. => return true
    | _ => return (← special? v "__call__").isSome
  | _ => return false

/-! Attributes by name. -/

def attrName (v : Value) (reader : Option String := none) : M String := do
  match ← core v, reader with
  | .str s, _ => return s
  | _, some f => typeError s!"{f}(): attribute name must be string"
  | w, none => typeError s!"attribute name must be string, not {quote (← typeName w)}"

def attrOr (h : Host) (v : Value) (name : String) (other : M Value) : M Value := do
  match ← attempt (getAttr? h v name) with
  | .ok (some w) => return w
  | .ok none => other
  | .error e => if ← isError e "AttributeError" then other else throw (.raised e)

def attributeNames (v : Value) : M (List String) := do
  let own ← match v with
    | .ref r => do return (← obj r).attrs.map (·.1)
    | _ => pure []
  let order ← match ← asClass v with
    | some c => pure c.order
    | none => do orderOf (← classOf v)
  let inherited ← order.mapM fun c => do
    let o ← obj c
    match o.payload with
    | .class k =>
      return o.attrs.map (·.1)
        ++ (if c < natives.length then (methodTable.lookup k.name).getD [] else [])
    | _ => return []
  let all := (own ++ inherited.flatten).eraseDups
  return (all.toArray.qsort (· < ·)).toList

/-! Iteration. -/

def nextOf (h : Host) (args : List Value) : M Value := do
  let args ← someArgs "next" 1 2 args
  let it := argAt args 0
  let ended (v : Value) : M Value := if args.length == 2 then return argAt args 1 else stopIteration v
  match ← special? it "__next__" with
  | some m =>
    if args.length == 2 then
      onError "StopIteration" (callSpecial h m it []) fun _ => return argAt args 1
    else callSpecial h m it []
  | none =>
    match it, ← payload it with
    | .ref r, .generator g =>
      if g.flavor != .generator then typeError s!"{quote (← typeName it)} object is not an iterator"
      match ← resumeGenerator h r g (.send .none) with
      | .yielded v _ => return v
      | .returned v => ended v
    | _, _ =>
      match ← nextItem h it with
      | some v => return v
      | none => ended .none

def anyItem (h : Host) (test : Value → M Bool) (v : Value) : M Bool := do
  return (← nextAccepted (nextItem h) test (← iterOf h v) patience).isSome

/-! Texts. -/

def ordOf (v : Value) : M Value := do
  match ← core v with
  | .str s =>
    match s.toList with
    | [c] => return .int (point c)
    | cs => typeError s!"ord() expected a character, but string of length {cs.length} found"
  | .bytes [b] => return .int b.toNat
  | .bytes bs => typeError s!"ord() expected a character, but string of length {bs.length} found"
  | w => typeError s!"ord() expected string of length 1, but {← typeName w} found"

def chrOf (h : Host) (v : Value) : M Value := do
  let n ← intArg h v
  if n.natAbs > Display.maxPlaces then overflow "Python int too large to convert to C int"
  if n < 0 || n > 0x10ffff then valueError "chr() arg not in range(0x110000)"
  return .str (String.singleton (ofPoint n.toNat))

/-! The end of a program. -/

def exitWith {α : Type} (args : List Value) : M α := do
  let args ← match args with
    | [.none] | [] => pure []
    | v :: _ =>
      match ← payload v with
      | .tuple vs => pure vs
      | _ => pure [v]
  throwExc (← newException "SystemExit" args)

def quitWith {α : Type} (args : List Value) (keywords : Names) : M α := do
  let code := (keywords.lookup "code").getD (argAt args 0)
  M.change fun w => { w with hasInput := false }
  throwExc (← newException "SystemExit" [code])

/-! All of them. -/

/-- The function that a dotted name stands for: the part before the last dot and the one after. -/
def splitName (name : String) : String × String :=
  match (dottedParts name).reverse with
  | last :: rest => (joinWith "." rest.reverse, last)
  | [] => ("", name)

def plainFunction (h : Host) (name : String) (args : List Value) (keywords : Names) : M Value := do
  match name with
  | "print" => print h args keywords
  | "max" | "min" => extreme h name args keywords
  | "sum" => sumOf h args keywords
  | "round" => roundOf h args keywords
  | "pow" => powOf h args keywords
  | "__build_class__" => buildClass h args keywords
  | "sorted" =>
    match args with
    | [v] =>
      knownKeywords "sort" ["key", "reverse"] keywords
      newList (← sortValues h (← itemsOf h v) keywords)
    | vs => typeError s!"sorted expected 1 argument, got {vs.length}"
  | _ =>
    refuseKeywords name keywords
    match name with
    | "len" => return .int (← lengthOf h (← oneArg name args))
    | "abs" => absOf h (← oneArg name args)
    | "divmod" => divmodOf h args
    | "repr" => return .str (← repr h (← oneArg name args))
    | "ascii" => return .str (inAscii (← repr h (← oneArg name args)))
    | "any" => return .bool (← anyItem h (truth h) (← oneArg name args))
    | "all" =>
      return .bool !(← anyItem h (fun v => do return !(← truth h v)) (← oneArg name args))
    | "isinstance" =>
      let args ← someArgs name 2 2 args
      return .bool (← isInstance (argAt args 0) (argAt args 1))
    | "issubclass" =>
      let args ← someArgs name 2 2 args
      return .bool (← isSubclassOf (argAt args 0) (argAt args 1))
    | "callable" => return .bool (← isCallable (← oneArg name args))
    | "hasattr" =>
      let args ← someArgs name 2 2 args
      let n ← attrName (argAt args 1) name
      let absent ← newOf "object" .plain
      return .bool !((← attrOr h (argAt args 0) n (return absent)).is absent)
    | "getattr" =>
      let args ← someArgs name 2 3 args
      let n ← attrName (argAt args 1) name
      if args.length == 3 then attrOr h (argAt args 0) n (return argAt args 2)
      else getAttr h (argAt args 0) n
    | "setattr" =>
      let args ← someArgs name 3 3 args
      setAttr h (argAt args 0) (← attrName (argAt args 1)) (argAt args 2)
      return .none
    | "delattr" =>
      let args ← someArgs name 2 2 args
      deleteAttr h (argAt args 0) (← attrName (argAt args 1))
      return .none
    | "next" => nextOf h args
    | "iter" =>
      match ← someArgs name 1 2 args with
      | [v] => iterOf h v
      | vs =>
        if !(← isCallable (argAt vs 0)) then typeError "iter(v, w): v must be callable"
        newIter "callable_iterator" (.calls (argAt vs 0) (argAt vs 1))
    | "ord" => ordOf (← oneArg name args)
    | "chr" => chrOf h (← oneArg name args)
    | "hex" => inBase h 16 "0x" (← oneArg name args)
    | "oct" => inBase h 8 "0o" (← oneArg name args)
    | "bin" => inBase h 2 "0b" (← oneArg name args)
    | "hash" => return .int (← digest h (← oneArg name args))
    | "id" =>
      match ← oneArg name args with
      | .ref r => return .int (140000000000000 + 64 * r)
      | v => return .int (140000000000000 + (hash (← repr h v)).toNat % 1000000 * 16)
    | "format" =>
      let args ← someArgs name 1 2 args
      let spec ← match args with
        | [_, s] => do
          match ← core s with
          | .str s => pure s
          | w => typeError s!"format() argument 2 must be str, not {← typeName w}"
        | _ => pure ""
      return .str (← format h (argAt args 0) spec)
    | "vars" =>
      match ← someArgs name 1 1 args with
      | v :: _ =>
        match ← getAttr? h v "__dict__" with
        | some d => return d
        | none => typeError "vars() argument must have __dict__ attribute"
      | [] => return .none
    | "dir" =>
      match ← someArgs name 1 1 args with
      | v :: _ => do newList ((← attributeNames v).map .str)
      | [] => return .none
    | "aiter" =>
      let v ← oneArg name args
      match ← getAttr? h v "__aiter__" with
      | some m => h.call m [] []
      | none => typeError s!"{quote (← typeName v)} object is not an async iterable"
    | "anext" =>
      let args ← someArgs name 1 2 args
      let v := argAt args 0
      match ← getAttr? h v "__anext__" with
      | some m =>
        let step ← h.call m [] []
        if args.length == 2 then newOf "anext_awaitable" (.stepOr step (argAt args 1))
        else return step
      | none => typeError s!"{quote (← typeName v)} object is not an async iterator"
    | "exit" | "quit" => quitWith args keywords
    | "input" =>
      discard (someArgs name 0 1 args)
      raise "EOFError" "EOF when reading a line"
    | "open" =>
      throwExc (← newException "FileNotFoundError"
        [.int 2, .str "No such file or directory", argAt args 0])
    | _ => raise "RuntimeError" s!"{name}() is not available"

def callBuiltin (h : Host) (name : String) (args : List Value) (keywords : Names) : M Value := do
  match splitName name with
  | ("", n) => plainFunction h n args keywords
  | ("math", n) =>
    refuseKeywords name keywords
    mathFunction h n args
  | ("sys", "exit") => exitWith (← someArgs "exit" 0 1 args)
  | ("asyncio", n) => taskFunction h n args keywords
  | (_, n) => raise "RuntimeError" s!"{n}() is not available"

end Notebook.Machine
