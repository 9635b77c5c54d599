import Notebook.Machine.Instance

set_option autoImplicit false

namespace Notebook.Machine

open Notebook.Text Notebook.Decimal Notebook.Tree

/-- Refuses a result that is no number although the argument is one. -/
def domain (x result : Float) : M Value := do
  if result.isNaN && !x.isNaN then valueError "math domain error"
  if result.isInf && x.isFinite then overflow "math range error"
  return .float result

def oneReal (h : Host) (name : String) (args : List Value) : M Float := do
  realArg h (← oneArg ("math." ++ name) args)

def rootBetween (n : Nat) : (fuel low high : Nat) → Nat
  | 0, low, _ => low
  | fuel + 1, low, high =>
    if high ≤ low + 1 then low
    else
      let mid := (low + high) / 2
      if mid * mid ≤ n then rootBetween n fuel mid high else rootBetween n fuel low mid

def squareRoot (n : Nat) : Nat := rootBetween n (bitLength n + 2) 0 (Nat.pow 2 (bitLength n / 2 + 1))

def factorial : Nat → Nat
  | 0 => 1
  | n + 1 => (n + 1) * factorial n

def fallingProduct (n : Nat) : Nat → Nat
  | 0 => 1
  | k + 1 => fallingProduct n k * (n - k)

def roundedBy (h : Host) (name : String) (go : Float → Float) (args : List Value) : M Value := do
  let v ← oneArg ("math." ++ name) args
  match ← special? v ("__" ++ name ++ "__") with
  | some m => callSpecial h m v []
  | none =>
    match ← core v with
    | .int n => return .int n
    | .bool b => return .int (if b then 1 else 0)
    | .float x => return .int (← cutFloat (go x))
    | _ => do return .int (← cutFloat (go (← realArg h v)))

def unaryReal : String → Option (Float → Float)
  | "sqrt" => some Float.sqrt
  | "exp" => some Float.exp
  | "sin" => some Float.sin
  | "cos" => some Float.cos
  | "tan" => some Float.tan
  | "asin" => some Float.asin
  | "acos" => some Float.acos
  | "atan" => some Float.atan
  | "sinh" => some Float.sinh
  | "cosh" => some Float.cosh
  | "tanh" => some Float.tanh
  | "fabs" => some Float.abs
  | "degrees" => some fun x => x * (180 / 3.141592653589793)
  | "radians" => some fun x => x * (3.141592653589793 / 180)
  | _ => none

def logOf (h : Host) (name : String) (args : List Value) : M Value := do
  let args ← someArgs name 1 (if name == "log" then 2 else 1) args
  let part (v : Value) : M Float := do
    let x ← realArg h v
    if x ≤ 0 then valueError "math domain error"
    return x
  let x ← part (argAt args 0)
  match name, args with
  | "log2", _ => return .float x.log2
  | "log10", _ => return .float x.log10
  | _, [_, b] =>
    let y := (← part b).log
    if y == 0 then zeroDivision "float division by zero"
    return .float (x.log / y)
  | _, _ => return .float x.log

def natArg (h : Host) (name : String) (v : Value) : M Nat := do
  let n ← intArg h v
  if n < 0 then valueError s!"{name}() not defined for negative values"
  return n.toNat

def mathFunction (h : Host) (name : String) (args : List Value) : M Value := do
  match unaryReal name with
  | some f => do
    let x ← oneReal h name args
    domain x (f x)
  | none =>
    match name with
    | "floor" => roundedBy h name Float.floor args
    | "ceil" => roundedBy h name Float.ceil args
    | "trunc" => roundedBy h name id args
    | "log" | "log2" | "log10" => logOf h name args
    | "isnan" => return .bool (← oneReal h name args).isNaN
    | "isinf" => return .bool (← oneReal h name args).isInf
    | "isfinite" => return .bool (← oneReal h name args).isFinite
    | "pow" =>
      let args ← someArgs name 2 2 args
      let x ← realArg h (argAt args 0)
      let y ← realArg h (argAt args 1)
      domain (if y.isNaN then y else x) (Float.pow x y)
    | "atan2" =>
      let args ← someArgs name 2 2 args
      return .float (Float.atan2 (← realArg h (argAt args 0)) (← realArg h (argAt args 1)))
    | "fmod" =>
      let args ← someArgs name 2 2 args
      let x ← realArg h (argAt args 0)
      let y ← realArg h (argAt args 1)
      if y == 0 || x.isInf then valueError "math domain error"
      return .float (remainder x y)
    | "copysign" =>
      let args ← someArgs name 2 2 args
      let x ← realArg h (argAt args 0)
      let y ← realArg h (argAt args 1)
      return .float (if isNegative y then -x.abs else x.abs)
    | "hypot" =>
      let xs ← args.mapM (realArg h)
      return .float (xs.foldl (fun acc x => acc + x * x) 0).sqrt
    | "gcd" =>
      let ns ← args.mapM (intArg h)
      return .int ((ns.foldl (fun acc n => Nat.gcd acc n.natAbs) 0 : Nat) : Int)
    | "lcm" =>
      let ns ← args.mapM (intArg h)
      return .int ((ns.foldl (fun acc n => Nat.lcm acc n.natAbs) 1 : Nat) : Int)
    | "factorial" =>
      let n ← natArg h name (← oneArg "math.factorial" args)
      return .int (factorial n : Nat)
    | "isqrt" =>
      let n ← intArg h (← oneArg "math.isqrt" args)
      if n < 0 then valueError "isqrt() argument must be nonnegative"
      return .int (squareRoot n.toNat : Nat)
    | "comb" =>
      let args ← someArgs name 2 2 args
      let n ← intArg h (argAt args 0)
      let k ← intArg h (argAt args 1)
      if n < 0 then valueError "n must be a non-negative integer"
      if k < 0 then valueError "k must be a non-negative integer"
      if k > n then return .int 0
      return .int (fallingProduct n.toNat k.toNat / factorial k.toNat : Nat)
    | "perm" =>
      let args ← someArgs name 1 2 args
      let n ← intArg h (argAt args 0)
      let k ← if args.length == 2 then intArg h (argAt args 1) else pure n
      if n < 0 then valueError "n must be a non-negative integer"
      if k < 0 then valueError "k must be a non-negative integer"
      if k > n then return .int 0
      return .int (fallingProduct n.toNat k.toNat : Nat)
    | "prod" =>
      let items ← itemsOf h (argAt args 0)
      items.foldlM (binary h .mul) (.int 1)
    | "fsum" =>
      let xs ← (← itemsOf h (argAt args 0)).mapM (realArg h)
      return .float (xs.foldl (· + ·) 0)
    | _ =>
      let args ← someArgs name 2 2 args
      let x ← realArg h (argAt args 0)
      let y ← realArg h (argAt args 1)
      return .bool (x == y || (x - y).abs ≤ 1e-9 * max x.abs y.abs)

/-! Functions that every program knows. -/

def absOf (h : Host) (v : Value) : M Value := do
  match ← special? v "__abs__" with
  | some m => callSpecial h m v []
  | none =>
    match (← core v).num? with
    | some (.int n) => return .int n.natAbs
    | some (.float x) => return .float x.abs
    | some (.complex re im) => return .float (re * re + im * im).sqrt
    | none => typeError s!"bad operand type for abs(): {quote (← typeName v)}"

/-- The arguments of a native function that may be named; those up to `required` must be there. -/
def functionArgs (name : String) (required : Nat) (names : List String) (args : List Value)
    (keywords : Names) : M (List (Option Value)) := do
  let n := args.length + keywords.length
  if n > names.length then
    typeError s!"{name}() takes at most {names.length} arguments ({n} given)"
  let found ← names.zipIdx.mapM fun (k, i) => do
    match args[i]?, keywords.lookup k with
    | some _, some _ =>
      typeError s!"argument for {name}() given by name ({quote k}) and position ({i + 1})"
    | some v, none => return some v
    | none, some v => return some v
    | none, none =>
      if i < required then
        typeError s!"{name}() missing required argument {quote k} (pos {i + 1})"
      return none
  knownKeywords name names keywords
  return found

def roundFloat (x : Float) (places : Int) : M Value := do
  let y := Decimal.roundTo x places
  if y.isInf then overflow "rounded value too large to represent"
  return .float y

def roundOf (h : Host) (args : List Value) (keywords : Names) : M Value := do
  let given ← functionArgs "round" 1 ["number", "ndigits"] args keywords
  let v := (given.headD none).getD .none
  let places := ((given.drop 1).headD none).getD .none
  match ← special? v "__round__" with
  | some m => callSpecial h m v (if places.is .none then [] else [places])
  | none =>
    match (← core v).num? with
    | some (.int n) =>
      if places.is .none then return .int n
      let p ← intArg h places
      return .int (if p ≥ 0 then n else roundIntTo n (-p).toNat)
    | some (.float x) =>
      if places.is .none then
        if x.isNaN then valueError "cannot convert float NaN to integer"
        if x.isInf then overflow "cannot convert float infinity to integer"
        return .int (nearestInt x)
      let p ← intArg h places
      if !x.isFinite then return .float x
      roundFloat x p
    | _ => typeError s!"type {← typeName v} doesn't define __round__ method"

def divmodOf (h : Host) (args : List Value) : M Value := do
  let args ← someArgs "divmod" 2 2 args
  let a := argAt args 0
  let b := argAt args 1
  match ← tryOperator h "divmod" a b (return none) with
  | some v => return v
  | none =>
    match (← core a).num?, (← core b).num? with
    | some (.int m), some (.int n) =>
      if n == 0 then zeroDivision "integer division or modulo by zero"
      newTuple [.int (m.fdiv n), .int (m.fmod n)]
    | some (.complex ..), some _ | some _, some (.complex ..) =>
      typeError ("unsupported operand type(s) for divmod(): " ++
        s!"{quote (← typeName a)} and {quote (← typeName b)}")
    | some m, some n =>
      let x ← m.toFloat
      let y ← n.toFloat
      if y == 0 then zeroDivision "float divmod()"
      let (q, r) := floorDivide x y
      newTuple [.float q, .float r]
    | _, _ =>
      typeError ("unsupported operand type(s) for divmod(): " ++
        s!"{quote (← typeName a)} and {quote (← typeName b)}")

def powerMod (m : Nat) : (fuel : Nat) → (base exp acc : Nat) → Nat
  | 0, _, _, acc => acc % m
  | fuel + 1, base, exp, acc =>
    if exp == 0 then acc % m
    else powerMod m fuel (base * base % m) (exp / 2) (if exp % 2 == 1 then acc * base % m else acc)

def inverseMod? (a m : Nat) : Option Nat :=
  if m == 1 then some 0
  else
    let rec go : (fuel : Nat) → Int → Int → Int → Int → Option Nat
      | 0, _, _, _, _ => none
      | fuel + 1, r, s, t, u =>
        if t == 0 then if r == 1 then some (s.emod m).toNat else none
        else go fuel t u (r % t) (s - r / t * u)
    go (2 * bitLength m + 2) a 1 m 0

def powMod (x y m : Int) : M Value := do
  if m == 0 then valueError "pow() 3rd argument cannot be 0"
  let n := m.natAbs
  let base := (x.emod n).toNat
  let base ← if y < 0 then
      match inverseMod? base n with
      | some b => pure b
      | none => valueError "base is not invertible for the given modulus"
    else pure base
  let p := powerMod n (bitLength y.natAbs + 1) base y.natAbs 1
  return .int ((p : Int).fmod m)

def powOf (h : Host) (args : List Value) (keywords : Names) : M Value := do
  let given ← functionArgs "pow" 2 ["base", "exp", "mod"] args keywords
  match given.map (·.getD .none) with
  | [a, b, c] =>
    if c.is .none then return ← binary h .pow a b
    match ← special? a "__pow__" with
    | some m => callSpecial h m a [b, c]
    | none =>
      match ← wholeOf a, ← wholeOf b, ← wholeOf c with
      | some x, some y, some m => powMod x y m
      | _, _, _ =>
        let isNumber (v : Value) : M Bool := do return (← core v).num?.isSome
        if (← isNumber a) && (← isNumber b) && (← isNumber c) then
          typeError "pow() 3rd argument not allowed unless all arguments are integers"
        typeError ("unsupported operand type(s) for ** or pow(): " ++
          s!"{quote (← typeName a)}, {quote (← typeName b)}, {quote (← typeName c)}")
  | _ => return .none

def inBase (h : Host) (base : Nat) (mark : String) (v : Value) : M Value := do
  let n ← intArg h v
  let digits := String.ofList (Nat.toDigits base n.natAbs)
  return .str ((if n < 0 then "-" else "") ++ mark ++ digits)

def sumOf (h : Host) (args : List Value) (keywords : Names) : M Value := do
  if args.isEmpty then typeError "sum() takes at least 1 positional argument (0 given)"
  if args.length > 2 then typeError s!"sum() takes at most 2 arguments ({args.length} given)"
  knownKeywords "sum" ["start"] keywords
  let start := optional args keywords 1 "start" (.int 0)
  match ← core start with
  | .str _ => typeError "sum() can't sum strings [use ''.join(seq) instead]"
  | .bytes _ => typeError "sum() can't sum bytes [use b''.join(seq) instead]"
  | _ => pure ()
  let it ← iterOf h (argAt args 0)
  total it patience start
where
  total (it : Value) : (fuel : Nat) → Value → M Value
    | 0, _ => throw .exhausted
    | fuel + 1, acc => do
      match ← nextItem h it with
      | some v => do total it fuel (← binary h .add acc v)
      | none => return acc

end Notebook.Machine
