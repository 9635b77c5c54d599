import Notebook.Decimal.Shortest

set_option autoImplicit false

namespace Notebook.Decimal

def scaled (n : Nat) (e : Int) : Float := (Float.ofScientific n false 0).scaleB e

def signed (negative : Bool) (x : Float) : Float := if negative then -x else x

def bitLength (n : Nat) : Nat := if n == 0 then 0 else n.log2 + 1

/-- The binary64 number nearest to a quotient of positive numbers; ties go to the even one. -/
def nearestQuotient (a b : Nat) : Float :=
  let e : Int := max ((bitLength a : Int) - bitLength b - 53) (-1074)
  let (n, d) := if e ≥ 0 then (a, b * Nat.pow 2 e.toNat) else (a * Nat.pow 2 (-e).toNat, b)
  scaled (roundHalfEven n d) e

def quotient (a b : Int) : Float :=
  let x := nearestQuotient a.natAbs b.natAbs
  if a == 0 then 0 else signed ((a < 0) != (b < 0)) x

def aligned (m : Nat) (e : Int) (n : Nat) (f : Int) : Nat × Nat × Int :=
  let low := min e f
  (m * Nat.pow 2 (e - low).toNat, n * Nat.pow 2 (f - low).toNat, low)

def remainder (x y : Float) : Float :=
  match Binary.ofFloat x, Binary.ofFloat y with
  | .finite negative m e, .finite _ n f =>
    let (a, b, low) := aligned m e n f
    signed negative (scaled (a % b) low)
  | .finite .., .infinite _ => x
  | _, _ => 0 / 0

def isNegative (x : Float) : Bool := x.toBits >>> 63 == 1

def floorDivide (x y : Float) : Float × Float :=
  let m := remainder x y
  let d := (x - m) / y
  let (m, d) :=
    if m != 0 then if (y < 0) != (m < 0) then (m + y, d - 1) else (m, d)
    else (signed (isNegative y) 0, d)
  if d != 0 then
    let q := d.floor
    (if d - q > 0.5 then q + 1 else q, m)
  else (signed (isNegative (x / y)) 0, m)

def compareInt (n : Int) (negative : Bool) (m : Nat) (e : Int) : Ordering :=
  let (num, den) := ratio m e 0
  let x : Int := if negative then -(num : Int) else num
  compare (n * den) x

def nearestInt (x : Float) : Int :=
  match Binary.ofFloat x with
  | .finite negative m e =>
    let (num, den) := ratio m e 0
    let n := roundHalfEven num den
    if negative then -(n : Int) else n
  | _ => 0

def roundTo (x : Float) (places : Int) : Float :=
  match Binary.ofFloat x with
  | .finite negative m e =>
    if places > 330 then x
    else if places < -330 then signed negative 0
    else
      let (num, den) := ratio m e places
      signed negative (toFloat (roundHalfEven num den) (-places))
  | _ => x

def roundIntTo (n : Int) (power : Nat) : Int :=
  let r := roundHalfEven n.natAbs (Nat.pow 10 power) * Nat.pow 10 power
  if n < 0 then -(r : Int) else r

def fixed (m : Nat) (e : Int) (places : Nat) : List Char :=
  let (num, den) := ratio m e places
  let ds := digitsOf (roundHalfEven num den)
  let ds := zeros (places + 1 - ds.length) ++ ds
  let whole := ds.take (ds.length - places)
  if places == 0 then whole else whole ++ '.' :: ds.drop (ds.length - places)

/-- The digits of a number rounded to a count of significant ones, and the power of the first. -/
def significant (m : Nat) (e : Int) (count : Nat) : List Char × Int :=
  if m == 0 then (zeros count, 0)
  else
    let (num, den) := ratio m e 0
    let top := leadingPower num den
    let (n, d) := ratio m e ((count : Int) - 1 - top)
    let ds := digitsOf (roundHalfEven n d)
    if ds.length > count then (ds.take count, top + 1) else (ds, top)

end Notebook.Decimal
