import Notebook.Decimal.Binary

set_option autoImplicit false

namespace Notebook.Decimal

/-- Significant digits without trailing zeros, and how many of them stand before the point. -/
structure Digits where
  digits : List Char
  point : Int
deriving DecidableEq, Repr

def digitsOf (n : Nat) : List Char := Nat.toDigits 10 n

def dropZeros (ds : List Char) : List Char := (ds.reverse.dropWhile (· == '0')).reverse

def leadingPower (num den : Nat) : Int :=
  let guess : Int := (digitsOf num).length - (digitsOf den).length
  let (n, d) := if guess ≥ 0 then (num, den * Nat.pow 10 guess.toNat) else (num * Nat.pow 10 (-guess).toNat, den)
  if n ≥ d then guess else guess - 1

/-- Whether `num / den` lies between the two bounds, ends included when `closed`. -/
def within (num den lowNum highNum boundDen : Nat) (closed : Bool) : Bool :=
  let x := num * boundDen
  let lo := lowNum * den
  let hi := highNum * den
  if closed then lo ≤ x && x ≤ hi else lo < x && x < hi

def search (mant : Nat) (exp : Int) (top : Int) : Nat → Nat → Nat × Int
  | 0, count =>
    let (n, d) := ratio mant exp ((count : Int) - 1 - top)
    (roundHalfEven n d, top + 1 - count)
  | fuel + 1, count =>
    let scale : Int := top + 1 - count
    let (n, d) := ratio mant exp (-scale)
    let narrow := mant == Nat.pow 2 52 && exp > -1074
    let (ln, ld) := ratio (4 * mant - (if narrow then 1 else 2)) (exp - 2) (-scale)
    let (hn, _) := ratio (4 * mant + 2) (exp - 2) (-scale)
    let low := n / d
    let closed := mant % 2 == 0
    let lowIn := within low 1 ln hn ld closed
    let highIn := within (low + 1) 1 ln hn ld closed
    if lowIn && highIn then (if 2 * (n % d) ≤ d then low else low + 1, scale)
    else if lowIn then (low, scale)
    else if highIn then (low + 1, scale)
    else search mant exp top fuel (count + 1)

def shortest (mant : Nat) (exp : Int) : Digits :=
  if mant == 0 then ⟨['0'], 1⟩
  else
    let (n, d) := ratio mant exp 0
    let (value, scale) := search mant exp (leadingPower n d) 16 1
    let ds := digitsOf value
    ⟨dropZeros ds, ds.length + scale⟩

def zeros (n : Nat) : List Char := List.replicate n '0'

/-- Digits with the point in its place, at least one digit on either side of it. -/
def positional (d : Digits) : List Char :=
  if d.point ≤ 0 then '0' :: '.' :: zeros (-d.point).toNat ++ d.digits
  else if d.digits.length ≤ d.point.toNat then
    d.digits ++ zeros (d.point.toNat - d.digits.length) ++ ['.', '0']
  else d.digits.take d.point.toNat ++ '.' :: d.digits.drop d.point.toNat

def exponentText (e : Int) : List Char :=
  let ds := digitsOf e.natAbs
  (if e < 0 then '-' else '+') :: (zeros (2 - ds.length) ++ ds)

/-- Digits with the point after the first one, and the power of ten. -/
def scientific (d : Digits) : List Char :=
  let mantissa := match d.digits with
    | [] => ['0']
    | [c] => [c]
    | c :: cs => c :: '.' :: cs
  mantissa ++ 'e' :: exponentText (d.point - 1)

/-- The text of a number: the fewest digits that read back, positional from 1e-4 up to 1e16. -/
def text (x : Float) : String :=
  match Binary.ofFloat x with
  | .nan => "nan"
  | .infinite negative => if negative then "-inf" else "inf"
  | .finite negative mant exp =>
    let d := shortest mant exp
    let body := if -4 < d.point && d.point ≤ 16 then positional d else scientific d
    String.ofList (if negative then '-' :: body else body)

end Notebook.Decimal
