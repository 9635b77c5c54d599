import Notebook.Decimal.Binary
import Notebook.Text.Lines

/-! Numbers read from free text: blanks around, digits of any script, single underscores between
digits. -/

set_option autoImplicit false

namespace Notebook.Decimal

open Notebook.Text

def asciiDigits (cs : List Char) : List Char :=
  cs.map fun c =>
    match decimalValue? c with
    | some n => Char.ofNat ('0'.toNat + n)
    | none => c

def bare (s : String) : List Char :=
  asciiDigits (trimRight isBlank (trimLeft isBlank s.toList))

/-- Takes single underscores out from between digits; fails where one stands elsewhere. -/
def dropUnderscores (isDigit : Char → Bool) : Bool → List Char → Option (List Char)
  | _, [] => some []
  | afterDigit, '_' :: c :: cs =>
    if afterDigit && isDigit c then dropUnderscores isDigit false (c :: cs) else none
  | _, ['_'] => none
  | _, c :: cs => (dropUnderscores isDigit (isDigit c) cs).map (c :: ·)

def splitSign : List Char → Bool × List Char
  | '-' :: cs => (true, cs)
  | '+' :: cs => (false, cs)
  | cs => (false, cs)

def lower (cs : List Char) : List Char := cs.map Char.toLower

def natOfDigits (cs : List Char) : Nat :=
  cs.foldl (fun n c => n * 10 + (c.toNat - '0'.toNat)) 0

def exponent? (cs : List Char) : Option Int :=
  let (negative, ds) := splitSign cs
  if ds.isEmpty || !ds.all isAsciiDigit then none
  else some (if negative then -(natOfDigits ds : Int) else natOfDigits ds)

/-- A decimal with digits before or after the point, and perhaps an exponent. -/
def unsigned? (cs : List Char) : Option Float :=
  let whole := cs.takeWhile isAsciiDigit
  let rest := cs.dropWhile isAsciiDigit
  let (frac, rest) := match rest with
    | '.' :: r => (r.takeWhile isAsciiDigit, r.dropWhile isAsciiDigit)
    | r => ([], r)
  if whole.isEmpty && frac.isEmpty then none
  else
    let mant := natOfDigits (whole ++ frac)
    match rest with
    | [] => some (toFloat mant (-(frac.length : Int)))
    | e :: r =>
      if e == 'e' || e == 'E' then
        (exponent? r).map fun x => toFloat mant (x - frac.length)
      else none

def readFloat? (s : String) : Option Float := do
  let cs ← dropUnderscores isAsciiDigit false (bare s)
  let (negative, rest) := splitSign cs
  let x ←
    if lower rest == "inf".toList || lower rest == "infinity".toList then some (1.0 / 0.0)
    else if lower rest == "nan".toList then some (0.0 / 0.0)
    else unsigned? rest
  return if negative then -x else x

/-- Where the imaginary part of a complex number starts: at its last sign that belongs to no
exponent. -/
def imaginaryStart (cs : List Char) : Nat :=
  let isSplit (i : Nat) : Bool :=
    (cs[i]? == some '+' || cs[i]? == some '-')
      && (i == 0 || !(cs[i - 1]? == some 'e' || cs[i - 1]? == some 'E'))
  ((List.range cs.length).filter isSplit).getLastD 0

def readComplex? (s : String) : Option (Float × Float) := do
  let cs := bare s
  let cs := match cs with
    | '(' :: rest => if rest.getLast? == some ')' then bare (String.ofList rest.dropLast) else cs
    | _ => cs
  if cs.getLast? == some 'j' || cs.getLast? == some 'J' then
    let body := cs.dropLast
    let n := imaginaryStart body
    let im ← match body.drop n with
      | [] => some 1
      | ['+'] => some 1
      | ['-'] => some (-1)
      | part => readFloat? (String.ofList part)
    let re ← if n == 0 then some 0 else readFloat? (String.ofList (body.take n))
    return (re, im)
  else return (← readFloat? (String.ofList cs), 0)

def digitIn (base : Nat) (c : Char) : Option Nat :=
  let n :=
    if isAsciiDigit c then c.toNat - '0'.toNat
    else if 'a' ≤ c && c ≤ 'z' then c.toNat - 'a'.toNat + 10
    else if 'A' ≤ c && c ≤ 'Z' then c.toNat - 'A'.toNat + 10
    else 99
  if n < base then some n else none

def baseMark : List Char → Option Nat
  | '0' :: c :: _ =>
    if c == 'x' || c == 'X' then some 16
    else if c == 'o' || c == 'O' then some 8
    else if c == 'b' || c == 'B' then some 2
    else none
  | _ => none

def natIn (base : Nat) : List Char → Nat → Option Nat
  | [], n => some n
  | c :: cs, n => do natIn base cs (n * base + (← digitIn base c))

/-- The integer that a text stands for in a base; base 0 goes by the mark that the text has. -/
def readInt? (s : String) (base : Nat) : Option Int := do
  let asked := base
  let (negative, rest) := splitSign (bare s)
  let (base, digits, marked) ← match baseMark rest with
    | some b => if base == 0 || base == b then some (b, rest.drop 2, true) else some (base, rest, false)
    | none => some (if base == 0 then 10 else base, rest, false)
  let isDigit c := (digitIn base c).isSome
  let digits ← match digits with
    | '_' :: ds => if marked then dropUnderscores isDigit false ds else none
    | ds => dropUnderscores isDigit false ds
  let isBare := !marked && base == 10 && asked == 0
  if digits.isEmpty || (isBare && digits.head? == some '0' && digits.any (· != '0')) then none
  else
    let n ← natIn base digits 0
    return if negative then -(n : Int) else n

def digitCount (s : String) : Nat := ((bare s).filter isAsciiDigit).length

end Notebook.Decimal
