set_option autoImplicit false

namespace Notebook.Decimal

inductive Binary where
  | finite (negative : Bool) (mant : Nat) (exp : Int)
  | infinite (negative : Bool)
  | nan
deriving DecidableEq, Repr

def Binary.ofBits (bits : UInt64) : Binary :=
  let n := bits.toNat
  let negative := n / Nat.pow 2 63 == 1
  let biased : Nat := n / Nat.pow 2 52 % Nat.pow 2 11
  let frac : Nat := n % Nat.pow 2 52
  if biased == 2047 then if frac == 0 then .infinite negative else .nan
  else if biased == 0 then .finite negative frac (-1074)
  else .finite negative (Nat.pow 2 52 + frac) ((biased : Int) - 1075)

def Binary.ofFloat (x : Float) : Binary := .ofBits x.toBits

def roundHalfEven (num den : Nat) : Nat :=
  let q := num / den
  let r := num % den
  if 2 * r < den then q
  else if 2 * r > den then q + 1
  else if q % 2 == 0 then q else q + 1

/-- The numerator and denominator of `mant · 2 ^ exp · 10 ^ scale`. -/
def ratio (mant : Nat) (exp scale : Int) : Nat × Nat :=
  (mant * Nat.pow 2 exp.toNat * Nat.pow 10 scale.toNat, Nat.pow 2 (-exp).toNat * Nat.pow 10 (-scale).toNat)

/-- The nearest binary64 number to a decimal; far out of range it is an infinity or zero. -/
def toFloat (mant : Nat) (exp10 : Int) : Float :=
  let digits : Int := (Nat.toDigits 10 mant).length
  if mant == 0 then 0.0
  else if digits + exp10 > 400 then 1.0 / 0.0
  else if digits + exp10 < -400 then 0.0
  else if exp10 ≥ 0 then Float.ofScientific (mant * Nat.pow 10 exp10.toNat) false 0
  else Float.ofScientific mant true (-exp10).toNat

def ofInt (n : Int) : Float :=
  let x := Float.ofScientific n.natAbs false 0
  if n < 0 then -x else x

def truncate (x : Float) : Int :=
  match Binary.ofFloat x with
  | .finite negative mant exp =>
    let n : Nat := if exp ≥ 0 then mant * Nat.pow 2 exp.toNat else mant / Nat.pow 2 (-exp).toNat
    if negative then -(n : Int) else n
  | _ => 0

end Notebook.Decimal
