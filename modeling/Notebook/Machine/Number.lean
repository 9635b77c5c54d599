import Notebook.Decimal.Integer
import Notebook.Decimal.Quotient
import Notebook.Machine.Heap

set_option autoImplicit false

namespace Notebook.Machine

open Notebook.Tree Notebook.Decimal

inductive Num where
  | int (n : Int)
  | float (x : Float)
  | complex (re im : Float)

def Value.num? : Value → Option Num
  | .bool b => some (.int (if b then 1 else 0))
  | .int n => some (.int n)
  | .float x => some (.float x)
  | .complex re im => some (.complex re im)
  | _ => Option.none

def overflow {α : Type} (message : String) : M α := raise "OverflowError" message

def zeroDivision {α : Type} (message : String) : M α := raise "ZeroDivisionError" message

def toFloat (n : Int) : M Float := do
  let x := ofInt n
  if x.isInf then overflow "int too large to convert to float"
  return x

def cutFloat (x : Float) : M Int := do
  if x.isNaN then valueError "cannot convert float NaN to integer"
  if x.isInf then overflow "cannot convert float infinity to integer"
  return truncate x

def Num.toFloat : Num → M Float
  | .int n => Machine.toFloat n
  | .float x => return x
  | .complex re _ => return re

def intPow (a : Int) (b : Nat) : M Value := do
  if a.natAbs > 1 && b * bitLength a.natAbs > 40000000 then raise "MemoryError" ""
  return .int (Int.pow a b)

def floatPow (x y : Float) : M Value := do
  if x == 0 && y < 0 then zeroDivision "0.0 cannot be raised to a negative power"
  if x < 0 && x.isFinite && y.isFinite && y.floor != y then
    let size := Float.pow (-x) y
    let angle := y * 3.141592653589793
    return .complex (size * angle.cos) (size * angle.sin)
  let r := Float.pow x y
  if r.isInf && x.isFinite && y.isFinite then
    throwExc (← newException "OverflowError" [.int 34, .str "Numerical result out of range"])
  return .float r

def intBinary (op : BinOp) (a b : Int) : M (Option Value) := do
  match op with
  | .add => return some (.int (a + b))
  | .sub => return some (.int (a - b))
  | .mul => return some (.int (a * b))
  | .div =>
    if b == 0 then zeroDivision "division by zero"
    let x := quotient a b
    if x.isInf then overflow "integer division result too large for a float"
    return some (.float x)
  | .floorDiv =>
    if b == 0 then zeroDivision "integer division or modulo by zero"
    return some (.int (a.fdiv b))
  | .mod =>
    if b == 0 then zeroDivision "integer modulo by zero"
    return some (.int (a.fmod b))
  | .pow =>
    if b ≥ 0 then return some (← intPow a b.toNat)
    else return some (← floatPow (← toFloat a) (← toFloat b))
  | .shiftLeft =>
    if b < 0 then valueError "negative shift count"
    if a == 0 then return some (.int 0)
    if b ≥ 30 * Int.pow 2 63 then overflow "too many digits in integer"
    return some (← intPow 2 b.toNat >>= fun
      | .int p => pure (.int (a * p))
      | v => pure v)
  | .shiftRight =>
    if b < 0 then valueError "negative shift count"
    if b.toNat > bitLength a.natAbs then return some (.int (if a < 0 then -1 else 0))
    return some (.int (a.fdiv (Int.pow 2 b.toNat)))
  | .bitAnd => return some (.int (bitAnd a b))
  | .bitOr => return some (.int (bitOr a b))
  | .bitXor => return some (.int (bitXor a b))
  | .matMul => return none

def floatBinary (op : BinOp) (x y : Float) : M (Option Value) := do
  match op with
  | .add => return some (.float (x + y))
  | .sub => return some (.float (x - y))
  | .mul => return some (.float (x * y))
  | .div =>
    if y == 0 then zeroDivision "float division by zero"
    return some (.float (x / y))
  | .floorDiv =>
    if y == 0 then zeroDivision "float floor division by zero"
    return some (.float (floorDivide x y).1)
  | .mod =>
    if y == 0 then zeroDivision "float modulo"
    return some (.float (floorDivide x y).2)
  | .pow => return some (← floatPow x y)
  | _ => return none

def complexQuotient (a b c d : Float) : Float × Float :=
  if c.abs ≥ d.abs then
    let ratio := d / c
    let whole := c + d * ratio
    ((a + b * ratio) / whole, (b - a * ratio) / whole)
  else
    let ratio := c / d
    let whole := c * ratio + d
    ((a * ratio + b) / whole, (b * ratio - a) / whole)

def complexProduct (x y : Float × Float) : Float × Float :=
  (x.1 * y.1 - x.2 * y.2, x.1 * y.2 + x.2 * y.1)

def complexPower (x : Float × Float) (n : Nat) : Float × Float :=
  (Nat.toDigits 2 n).reverse.foldl (fun (r, p) digit =>
    (if digit == '1' then complexProduct r p else r, complexProduct p p)) ((1, 0), x) |>.1

def complexBinary (op : BinOp) (a b c d : Float) : M (Option Value) := do
  match op with
  | .add => return some (.complex (a + c) (b + d))
  | .sub => return some (.complex (a - c) (b - d))
  | .mul => return some (.complex (a * c - b * d) (a * d + b * c))
  | .div =>
    if c == 0 && d == 0 then zeroDivision "complex division by zero"
    let (re, im) := complexQuotient a b c d
    return some (.complex re im)
  | .pow => do
    if d == 0 && c == c.floor && c.abs ≤ 100 then
      let (re, im) := complexPower (a, b) c.abs.toUInt64.toNat
      if c > 0 then return some (.complex re im)
      if re == 0 && im == 0 then zeroDivision "0.0 to a negative or complex power"
      let (re, im) := complexQuotient 1 0 re im
      return some (.complex re im)
    else if a == 0 && b == 0 then
      if d != 0 || c < 0 then zeroDivision "0.0 to a negative or complex power"
      return some (.complex 0 0)
    else
      let size := (a * a + b * b).sqrt
      let angle := Float.atan2 b a
      let length := if d == 0 then Float.pow size c else Float.pow size c / (angle * d).exp
      let phase := if d == 0 then angle * c else angle * c + d * size.log
      return some (.complex (length * phase.cos) (length * phase.sin))
  | _ => return none

/-- An operation on two numbers; nothing if one is no number or the operation is not defined. -/
def numberBinary (op : BinOp) (a b : Value) : M (Option Value) := do
  match a, b, op with
  | .bool p, .bool q, .bitAnd => return some (.bool (p && q))
  | .bool p, .bool q, .bitOr => return some (.bool (p || q))
  | .bool p, .bool q, .bitXor => return some (.bool (p != q))
  | _, _, _ =>
    match a.num?, b.num? with
    | some (.int m), some (.int n) => intBinary op m n
    | some (.complex p q), some n => do
      match n with
      | .complex r s => complexBinary op p q r s
      | n => complexBinary op p q (← n.toFloat) 0
    | some m, some (.complex r s) => do complexBinary op (← m.toFloat) 0 r s
    | some m, some n => do
      -- bit operations have no meaning for fractions, even before the conversion can fail
      match op with
      | .bitAnd | .bitOr | .bitXor | .shiftLeft | .shiftRight | .matMul => return none
      | op => floatBinary op (← m.toFloat) (← n.toFloat)
    | _, _ => return none

def numberUnary (op : UnaryOp) (a : Value) : Option Value :=
  match op, a.num? with
  | .minus, some (.int n) => some (.int (-n))
  | .minus, some (.float x) => some (.float (-x))
  | .minus, some (.complex re im) => some (.complex (-re) (-im))
  | .plus, some (.int n) => some (.int n)
  | .plus, some (.float x) => some (.float x)
  | .plus, some (.complex re im) => some (.complex re im)
  | .invert, some (.int n) => some (.int (bitNot n))
  | _, _ => none

def compareReal : Num → Num → Option Ordering
  | .int a, .int b => some (compare a b)
  | .float x, .float y =>
    if x < y then some .lt else if x > y then some .gt else if x == y then some .eq else none
  | .int a, .float y =>
    match Binary.ofFloat y with
    | .nan => none
    | .infinite negative => some (if negative then .gt else .lt)
    | .finite negative m e => some (compareInt a negative m e)
  | .float x, .int b =>
    match Binary.ofFloat x with
    | .nan => none
    | .infinite negative => some (if negative then .lt else .gt)
    | .finite negative m e => some (compareInt b negative m e).swap
  | _, _ => none

def sameNumber : Num → Num → Bool
  | .complex a b, .complex c d => a == c && b == d
  | .complex a b, n => b == 0 && compareReal (.float a) n == some .eq
  | n, .complex a b => b == 0 && compareReal n (.float a) == some .eq
  | m, n => compareReal m n == some .eq

def intText (n : Int) : M String := do
  let limit := (← read).digitLimit
  if n.natAbs.log2 > limit * 3 && n.natAbs ≥ Nat.pow 10 limit then
    valueError (s!"Exceeds the limit ({limit} digits) for integer string conversion; " ++
      "use sys.set_int_max_str_digits() to increase the limit")
  return toString n

end Notebook.Machine
