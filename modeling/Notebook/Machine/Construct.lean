import Notebook.Decimal.Read
import Notebook.Files
import Notebook.Machine.ContainerMethod
import Notebook.Machine.Group
import Notebook.Machine.TextMethod

set_option autoImplicit false

namespace Notebook.Machine

open Notebook.Text Notebook.Decimal

def classArgs (name : String) (high : Nat) (args : List Value) : M (List Value) := do
  if args.length > high then
    typeError s!"{name}() takes at most {high} argument{plural high} ({args.length} given)"
  return args

def intOfText (h : Host) (text : Value) (s : String) (base : Nat) : M Value := do
  let limit := (← read).digitLimit
  let isDecimal := base == 10 || (base == 0 && (baseMark (splitSign (bare s)).2).isNone)
  match readInt? s base with
  | some n =>
    if isDecimal && digitCount s > limit then
      valueError (s!"Exceeds the limit ({limit} digits) for integer string conversion: " ++
        s!"value has {digitCount s} digits; use sys.set_int_max_str_digits() to increase the limit")
    return .int n
  | none => valueError s!"invalid literal for int() with base {base}: {← repr h text}"

def latin (bs : List UInt8) : String := String.ofList (bs.map fun b => Char.ofNat b.toNat)

def makeInt (h : Host) (args : List Value) : M Value := do
  match ← classArgs "int" 2 args with
  | [] => return .int 0
  | [v] =>
    match ← special? v "__int__" with
    | some m => return .int (← expectIntFrom "__int__" (← callSpecial h m v []))
    | none =>
      match ← core v with
      | .int n => return .int n
      | .bool b => return .int (if b then 1 else 0)
      | .float x => return .int (← cutFloat x)
      | .str s => intOfText h v s 10
      | .bytes bs => intOfText h v (latin bs) 10
      | w =>
        match ← index? h w, ← special? w "__trunc__" with
        | some n, _ => return .int n
        | none, some m =>
          let cut ← callSpecial h m w []
          match ← index? h cut with
          | some n => return .int n
          | none => typeError s!"__trunc__ returned non-Integral (type {← typeName cut})"
        | none, none =>
          typeError ("int() argument must be a string, a bytes-like object or a real number, not " ++
            quote (← typeName v))
  | v :: b :: _ =>
    let base ← intArg h b
    match ← core v with
    | .str s =>
      if base != 0 && (base < 2 || base > 36) then
        valueError "int() base must be >= 2 and <= 36, or 0"
      intOfText h v s base.toNat
    | _ => typeError "int() can't convert non-string with explicit base"

def makeFloat (h : Host) (args : List Value) : M Value := do
  match ← someArgs "float" 0 1 args with
  | [] => return .float 0
  | v :: _ =>
    match ← special? v "__float__" with
    | some m =>
      match ← callSpecial h m v [] with
      | .float x => return .float x
      | w => typeError s!"{← typeName v}.__float__ returned non-float (type {← typeName w})"
    | none =>
      match ← core v with
      | .float x => return .float x
      | .int n => return .float (← toFloat n)
      | .bool b => return .float (if b then 1 else 0)
      | .str s =>
        match readFloat? s with
        | some x => return .float x
        | none => valueError s!"could not convert string to float: {← repr h v}"
      | w =>
        match ← index? h w with
        | some n => return .float (← toFloat n)
        | none =>
          typeError s!"float() argument must be a string or a real number, not {quote (← typeName v)}"

def namedArgs (cls : String) (names : List String) (args : List Value) (keywords : Names) :
    M (List (Option Value)) := do
  let n := args.length + keywords.length
  if n > names.length then
    typeError s!"{cls}() takes at most {names.length} arguments ({n} given)"
  knownKeywords cls names keywords
  names.zipIdx.mapM fun (name, i) => do
    match args[i]?, keywords.lookup name with
    | some _, some _ =>
      typeError s!"argument for {cls}() given by name ({quote name}) and position ({i + 1})"
    | some v, none => return some v
    | none, v => return v

def complexParts (h : Host) (complaint : String) (v : Value) : M (Float × Float) := do
  let refuse : M (Float × Float) := do
    typeError (s!"complex() {complaint}, not " ++ quote (← typeName v))
  match ← special? v "__complex__" with
  | some m =>
    match ← callSpecial h m v [] with
    | .complex re im => return (re, im)
    | w => typeError s!"{← typeName v}.__complex__() must return a complex, not {← typeName w}"
  | none =>
    match (← core v).num? with
    | some (.complex re im) => return (re, im)
    | some n => return (← n.toFloat, 0)
    | none =>
      match ← special? v "__float__", ← index? h v with
      | some m, _ =>
        match ← callSpecial h m v [] with
        | .float x => return (x, 0)
        | w => typeError s!"{← typeName v}.__float__ returned non-float (type {← typeName w})"
      | none, some n => return (← toFloat n, 0)
      | none, none => refuse

def makeComplex (h : Host) (args : List Value) (keywords : Names) : M Value := do
  let (real, imag) ← match ← namedArgs "complex" ["real", "imag"] args keywords with
    | [r, i] => pure (r, i)
    | _ => pure (none, none)
  let isText (v : Option Value) : M Bool := do
    match v with
    | some v =>
      match ← core v with
      | .str _ => return true
      | _ => return false
    | none => return false
  if ← isText real then
    if imag.isSome then typeError "complex() can't take second arg if first is a string"
    match ← core (real.getD .none) with
    | .str s =>
      match readComplex? s with
      | some (re, im) => return .complex re im
      | none => valueError "complex() arg is a malformed string"
    | _ => return .complex 0 0
  if ← isText imag then typeError "complex() second arg can't be a string"
  let (a, b) ← match real with
    | some v => complexParts h "first argument must be a string or a number" v
    | none => pure (0, 0)
  match imag with
  | none => return .complex a b
  | some w =>
    let (c, d) ← complexParts h "second argument must be a number" w
    return .complex (if d == 0 then a else a - d) (if b == 0 then c else b + c)

def codecName (cls name default : String) (v : Option Value) : M String := do
  match v with
  | none => return default
  | some v =>
    match ← core v with
    | .str s => return s
    | w => typeError s!"{cls}() argument {quote name} must be str, not {← typeName w}"

def makeText (h : Host) (args : List Value) (keywords : Names) : M Value := do
  match ← namedArgs "str" ["object", "encoding", "errors"] args keywords with
  | [object, none, none] =>
    match object with
    | none => return .str ""
    | some v => return .str (← str h v)
  | [object, encoding, errors] =>
    let encoding ← codecName "str" "encoding" "utf-8" encoding
    let errors ← codecName "str" "errors" "strict" errors
    match object with
    | none => return .str ""
    | some v =>
      match ← core v with
      | .bytes bs => decodeBytes bs encoding errors
      | .str _ => typeError "decoding str is not supported"
      | w => typeError s!"decoding to str: need a bytes-like object, {← typeName w} found"
  | _ => return .str ""

def byteOf (h : Host) (x : Value) : M UInt8 := do
  let n ← intArg h x
  if n < 0 || n > 255 then valueError "bytes must be in range(0, 256)"
  return UInt8.ofNat n.toNat

def makeBytes (h : Host) (args : List Value) (keywords : Names) : M Value := do
  match ← namedArgs "bytes" ["source", "encoding", "errors"] args keywords with
  | [source, encoding, errors] =>
    let isText := encoding.isSome || errors.isSome
    let hint := if encoding.isSome then "encoding" else "errors"
    let encoding ← codecName "bytes" "encoding" "utf-8" encoding
    let errors ← codecName "bytes" "errors" "strict" errors
    match source with
    | none =>
      if isText then typeError s!"{hint} without a string argument"
      return .bytes []
    | some v =>
      match ← core v with
      | .str s =>
        if !isText then typeError "string argument without an encoding"
        encodeText s encoding errors
      | w =>
        if isText then typeError s!"{hint} without a string argument"
        match w with
        | .bytes bs => return .bytes bs
        | w =>
          match ← special? w "__bytes__" with
          | some m => h.call m [w] []
          | none =>
            match ← index? h w with
            | some n =>
              if n < 0 then valueError "negative count"
              return .bytes (List.replicate n.toNat 0)
            | none =>
              match ← attempt (itemsOf h w) with
              | .ok items => return .bytes (← items.mapM (byteOf h))
              | .error e =>
                if ← isError e "TypeError" then
                  typeError s!"cannot convert {quote (← typeName w)} object to bytes"
                throw (.raised e)
  | _ => return .bytes []

def makeRange (h : Host) (args : List Value) : M Value := do
  match args with
  | [] => typeError "range expected at least 1 argument, got 0"
  | [b] => newOf "range" (.range 0 (← intArg h b) 1)
  | [a, b] => newOf "range" (.range (← intArg h a) (← intArg h b) 1)
  | [a, b, c] =>
    let a ← intArg h a
    let b ← intArg h b
    let c ← intArg h c
    if c == 0 then valueError "range() arg 3 must not be zero"
    newOf "range" (.range a b c)
  | vs => typeError s!"range expected at most 3 arguments, got {vs.length}"

def makeSlice (args : List Value) : M Value := do
  match ← someArgs "slice" 1 3 args with
  | [b] => newOf "slice" (.slice .none b .none)
  | vs => newOf "slice" (.slice (argAt vs 0) (argAt vs 1) (argAt vs 2))

def makeCollection (h : Host) (name : String) (args : List Value) : M Value := do
  let items ← match ← someArgs name 0 1 args with
    | [] => pure []
    | v :: _ => itemsOf h v
  match name with
  | "list" => newList items
  | "tuple" => newTuple items
  | _ => makeSet h name items

def makeDictOf (h : Host) (name : String) (args : List Value) (keywords : Names) : M Value := do
  let entries ← match ← someArgs name 0 1 args with
    | [] => pure []
    | v :: _ => entriesOf h v
  makeDict h (entries ++ keywordEntries keywords) name

def makeEnumerate (h : Host) (args : List Value) (keywords : Names) : M Value := do
  match ← namedArgs "enumerate" ["iterable", "start"] args keywords with
  | some v :: start =>
    let start ← intArg h ((start.headD none).getD (.int 0))
    newIter "enumerate" (.enumerate (← iterOf h v) start)
  | _ => typeError "enumerate() missing required argument 'iterable' (pos 1)"

def makeZip (h : Host) (args : List Value) (keywords : Names) : M Value := do
  knownKeywords "zip" ["strict"] keywords
  let strict ← truth h ((keywords.lookup "strict").getD (.bool false))
  newIter "zip" (.zip (← args.mapM (iterOf h)) strict)

def makeMap (h : Host) (args : List Value) : M Value := do
  match args with
  | f :: v :: vs => newIter "map" (.map f (← (v :: vs).mapM (iterOf h)))
  | _ => typeError "map() must have at least two arguments."

def makeFilter (h : Host) (args : List Value) : M Value := do
  match ← someArgs "filter" 2 2 args with
  | f :: v :: _ => newIter "filter" (.filter f (← iterOf h v))
  | _ => return .none

def makeReversed (h : Host) (args : List Value) : M Value := do
  let v ← match ← someArgs "reversed" 1 1 args with
    | v :: _ => pure v
    | [] => pure .none
  match ← special? v "__reversed__" with
  | some .none => typeError s!"{quote (← typeName v)} object is not reversible"
  | some m => callSpecial h m v []
  | none =>
    match v, ← payload v with
    | .ref r, .list items => newIter "list_reverseiterator" (.backward r items.size)
    | _, .tuple items => newIter "reversed" (.items items.reverse)
    | _, .wrapped (.str s) =>
      newIter "reversed" (.items (s.toList.reverse.map fun c => .str (String.singleton c)))
    | _, .wrapped (.bytes bs) => newIter "reversed" (.items (bs.reverse.map fun b => .int b.toNat))
    | _, .range a b c =>
      let n := rangeLength a b c
      newIter "range_iterator" (.range (a + c * (n - 1 : Int)) n (-c))
    | .ref r, .dict _ => entriesBack r .keys
    | _, .view d part => entriesBack d part
    | _, _ =>
      if (← special? v "__getitem__").isSome then
        newIter "reversed" (.countdown v (← lengthOf h v))
      else typeError s!"{quote (← typeName v)} object is not reversible"

def wrapArg (name : String) (args : List Value) : M Value := do
  return argAt (← someArgs name 1 1 args) 0

def makeProperty (args : List Value) (keywords : Names) : M Value := do
  let part (i : Nat) (name : String) : Value := optional args keywords i name .none
  newOf "property" (.property (part 0 "fget") (part 1 "fset") (part 2 "fdel"))

def makeSuper (args : List Value) : M Value := do
  match args with
  | [.ref c, self] =>
    match ← class? c with
    | none => typeError s!"super() argument 1 must be a type, not {← typeName (.ref c)}"
    | some _ =>
      let isInstance ← isSubclass (← classOf self) c
      let isDerived ← match self with
        | .ref s => do pure ((← class? s).isSome && (← isSubclass s c))
        | _ => pure false
      if !isInstance && !isDerived then
        typeError "super(type, obj): obj must be an instance or subtype of type"
      newOf "super" (.super c self)
  | [] => raise "RuntimeError" "super(): no arguments"
  | v :: _ => typeError s!"super() argument 1 must be a type, not {← typeName v}"

def isUncallable (name : String) : Bool :=
  ["generator", "coroutine", "async_generator", "builtin_function_or_method", "method_descriptor",
    "wrapper_descriptor", "method-wrapper", "dict_keys", "dict_values", "dict_items", "cell",
    "list_iterator", "tuple_iterator", "str_iterator", "range_iterator", "callable_iterator",
    "iterator", "traceback", "async_generator_asend", "coroutine_wrapper",
    "anext_awaitable"].contains name

def refuseAnyArgs (name : String) (args : List Value) (keywords : Names) : M Unit := do
  if !args.isEmpty || !keywords.isEmpty then typeError s!"{name} takes no arguments"

def exceptionClass (name : String) (args : List Value) : String :=
  match name, args with
  | "OSError", .int n :: _ :: _ => systemErrorClass n
  | _, _ => name

/-- An exception of a class with its arguments; those of a system error end where it names files. -/
def exceptionOf (name : String) (args : List Value) : Exception :=
  match args with
  | [_, _, .none] => { args }
  | number :: reason :: file :: rest =>
    if rest.length ≤ 2 && derives name "OSError" then
      { args := [number, reason], files := file :: rest }
    else { args }
  | _ => { args }

def exceptionKeywords (r : Ref) (name : String) (keywords : Names) : M Unit := do
  if keywords.isEmpty then return
  if derives name "ImportError" then
    match keywords.find? fun k => k.1 != "name" && k.1 != "path" with
    | some (k, _) => typeError s!"{quote k} is an invalid keyword argument for ImportError"
    | none => keywords.forM fun (k, v) => setOwn r k v
  else if derives name "AttributeError" || derives name "NameError" then
    keywords.forM fun (k, v) => setOwn r k v
  else typeError s!"{name}() takes no keyword arguments"

def checkExceptionArgs (name : String) (args : List Value) : M Unit := do
  let exactly (n : Nat) : M Unit := do
    if args.length != n then
      typeError s!"function takes exactly {n} arguments ({args.length} given)"
  if derives name "UnicodeDecodeError" || derives name "UnicodeEncodeError" then exactly 5
  else if derives name "UnicodeTranslateError" then exactly 4
  else if derives name "SyntaxError" then
    match args with
    | [_, place] =>
      match ← payload place with
      | .tuple items =>
        if items.length < 4 then
          typeError s!"function takes at least 4 arguments ({items.length} given)"
        if items.length > 6 then
          typeError s!"function takes at most 6 arguments ({items.length} given)"
      | .wrapped (.str s) => typeError s!"function takes at least 4 arguments ({s.length} given)"
      | _ => pure ()
    | _ => pure ()

def makeException (h : Host) (name : String) (args : List Value) (keywords : Names) : M Value := do
  checkExceptionArgs name args
  let v ← if derives name "BaseExceptionGroup" then do
      let members ← membersOf h name args
      newOf (← groupClass name members) (.exception { args, members })
    else newOf (exceptionClass name args) (.exception (exceptionOf name args))
  match v with
  | .ref r => exceptionKeywords r name keywords
  | _ => pure ()
  return v

def constructNative (h : Host) (name : String) (args : List Value) (keywords : Names) : M Value := do
  match name with
  | "str" => makeText h args keywords
  | "dict" | "OrderedDict" => makeDictOf h name args keywords
  | "enumerate" => makeEnumerate h args keywords
  | "zip" => makeZip h args keywords
  | "property" => makeProperty args keywords
  | "int" =>
    knownKeywords name ["base"] keywords
    match keywords.lookup "base", args with
    | some _, [] => typeError "int() missing string argument"
    | some b, [v] => makeInt h [v, b]
    | some _, args =>
      if args.length > 1 then
        typeError s!"int() takes at most 2 arguments ({args.length + 1} given)"
      makeInt h args
    | none, args => makeInt h args
  | "complex" => makeComplex h args keywords
  | _ =>
    if derives name "BaseException" then return ← makeException h name args keywords
    if isUncallable name then typeError s!"cannot create {quote name} instances"
    if name != "Future" && name != "ExportNamespace" && name != "object" then refuseKeywords name keywords
    match name with
    | "object" =>
      if !args.isEmpty || !keywords.isEmpty then typeError "object() takes no arguments"
      newOf "object" .plain
    | "bool" =>
      match ← someArgs "bool" 0 1 args with
      | [] => return .bool false
      | v :: _ => return .bool (← truth h v)
    | "float" => makeFloat h args
    | "bytes" => makeBytes h args keywords
    | "range" => makeRange h args
    | "slice" => makeSlice args
    | "list" | "tuple" | "set" | "frozenset" => makeCollection h name args
    | "map" => makeMap h args
    | "filter" => makeFilter h args
    | "reversed" => makeReversed h args
    | "staticmethod" => do newOf name (.staticMethod (← wrapArg name args))
    | "classmethod" => do newOf name (.classMethod (← wrapArg name args))
    | "super" => makeSuper args
    | "method" =>
      match args with
      | [f, self] => return .bound self f
      | vs => typeError s!"method expected 2 arguments, got {vs.length}"
    | "module" =>
      match args with
      | [] => typeError "module() missing required argument 'name' (pos 1)"
      | .str n :: rest =>
        discard (classArgs "module" 2 (argAt args 0 :: rest))
        let v ← newOf "module" (.module n)
        match v with
        | .ref r => setOwn r "__name__" (.str n)
        | _ => pure ()
        return v
      | v :: _ => typeError s!"module() argument 'name' must be str, not {← typeName v}"
    | "function" => typeError s!"function() argument 'code' must be code, not {← typeName (argAt args 0)}"
    | "NoneType" =>
      refuseAnyArgs name args keywords
      return .none
    | "ellipsis" =>
      refuseAnyArgs "EllipsisType" args keywords
      return .ellipsis
    | "NotImplementedType" =>
      refuseAnyArgs name args keywords
      return .notImplemented
    | "ExportNamespace" =>
      let entries ← match args with
        | [] => pure []
        | v :: _ => entriesOf h v
      let named ← entries.mapM fun (k, v) => do return (← exportsKey k, v)
      newOf name (.exports (Exports.ofList (named ++ keywords)))
    | "Future" =>
      newOf name (.future (← newFuture))
    | _ => newOf name .plain

end Notebook.Machine
