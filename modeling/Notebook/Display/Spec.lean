import Notebook.Decimal.Quotient
import Notebook.Text.Class
import Notebook.Text.Point

/-! Formats of numbers and texts by a specification: fill, alignment, sign, width, grouping,
precision and a letter for the kind. -/

set_option autoImplicit false

namespace Notebook.Display

open Notebook.Decimal Notebook.Text

structure Spec where
  fill : Char := ' '
  align : Option Char := none
  sign : Option Char := none
  /-- A zero is written without its sign. -/
  plainZero : Bool := false
  alternate : Bool := false
  zero : Bool := false
  width : Nat := 0
  grouping : Option Char := none
  precision : Option Nat := none
  kind : Option Char := none
deriving Repr

inductive SpecError where
  | invalid
  | missingPrecision
  | unknown (kind : Char)
  | spaceInText
  | signInText
  | zeroInText
  | alternateInText
  | alignInText
  | bothGroupings
  | groupingIn (c kind : Char)
  | precisionInInteger
  | zeroInInteger
  | signInChar
  | alternateInChar
  | charRange
  | wordRange
  | tooLarge
  | precisionRange
  | zerosInComplex
  | alignInComplex
  | tooManyDigits
  | tooWide
deriving DecidableEq, Repr

def isAlign (c : Char) : Bool := c == '<' || c == '>' || c == '^' || c == '='

def maxCount : Nat := Nat.pow 2 63 - 1

def maxPlaces : Nat := Nat.pow 2 31 - 1

def maxRoom : Nat := Nat.pow 10 11

/-- A decimal number of any script at the start of a text; an error where it is out of range. -/
def takeCount : List Char → Option Nat → Except SpecError (Option Nat × List Char)
  | [], n => .ok (n, [])
  | c :: cs, n =>
    match decimalValue? c with
    | none => .ok (n, c :: cs)
    | some d =>
      let m := n.getD 0 * 10 + d
      if m > maxCount then .error .tooManyDigits else takeCount cs (some m)

def mayGroup (mark : Char) (kind : Option Char) : Bool :=
  match kind with
  | none => true
  | some k => "defgEG%F".toList.contains k || (mark == '_' && "boxX".toList.contains k)

def readGrouping (s : Spec) (cs : List Char) : Except SpecError (Spec × List Char) :=
  let (s, cs) := match cs with
    | ',' :: rest => ({ s with grouping := some ',' }, rest)
    | cs => (s, cs)
  match cs with
  | '_' :: rest =>
    if s.grouping.isSome || rest.head? == some ',' then .error .bothGroupings
    else .ok ({ s with grouping := some '_' }, rest)
  | cs => .ok (s, cs)

def Spec.read (default : Option Char) (text : String) : Except SpecError Spec := do
  let s : Spec := {}
  let (s, filled, cs) := match text.toList with
    | f :: a :: rest =>
      if isAlign a then ({ s with fill := f, align := some a }, true, rest)
      else if isAlign f then ({ s with align := some f }, false, a :: rest)
      else (s, false, f :: a :: rest)
    | [a] => if isAlign a then ({ s with align := some a }, false, []) else (s, false, [a])
    | [] => (s, false, [])
  let (s, cs) := match cs with
    | c :: rest =>
      if c == '+' || c == '-' || c == ' ' then ({ s with sign := some c }, rest) else (s, cs)
    | [] => (s, cs)
  let (s, cs) := match cs with
    | 'z' :: rest => ({ s with plainZero := true }, rest)
    | cs => (s, cs)
  let (s, cs) := match cs with
    | '#' :: rest => ({ s with alternate := true }, rest)
    | cs => (s, cs)
  let (s, cs) := match cs with
    | '0' :: rest => if filled then (s, cs) else ({ s with zero := true, fill := '0' }, rest)
    | cs => (s, cs)
  let (w, cs) ← takeCount cs none
  let (s, cs) ← readGrouping { s with width := w.getD 0 } cs
  let (s, cs) ← match cs with
    | '.' :: rest =>
      match ← takeCount rest none with
      | (some p, rest) => pure ({ s with precision := some p }, rest)
      | (none, _) => .error .missingPrecision
    | cs => pure (s, cs)
  let s ← match cs with
    | [] => pure { s with kind := default }
    | [k] => pure { s with kind := some k }
    | _ => .error .invalid
  match s.grouping with
  | some mark => if !mayGroup mark s.kind then .error (.groupingIn mark (s.kind.getD ' '))
  | none => pure ()
  if s.width > maxRoom then .error .tooWide
  return s

def grouped (mark : Char) (size : Nat) (ds : List Char) : List Char :=
  let rec go : List Char → Nat → List Char
    | [], _ => []
    | c :: cs, n => if n == size then mark :: c :: go cs 1 else c :: go cs (n + 1)
  (go ds.reverse 0).reverse

def padding (c : Char) (n : Nat) : List Char := List.replicate n c

def aligned (s : Spec) (align : Char) (sign body : List Char) : List Char :=
  let n := s.width - (sign.length + body.length)
  match align with
  | '<' => sign ++ body ++ padding s.fill n
  | '^' => padding s.fill (n / 2) ++ sign ++ body ++ padding s.fill (n - n / 2)
  | '=' => sign ++ padding s.fill n ++ body
  | _ => padding s.fill n ++ sign ++ body

def signChars (s : Spec) (negative : Bool) : List Char :=
  if negative then ['-']
  else match s.sign with
    | some '+' => ['+']
    | some ' ' => [' ']
    | _ => []

def Spec.numberAlign (s : Spec) : Char := s.align.getD (if s.zero then '=' else '>')

/-- Groups whole digits, with the fewest zeros in front that fill the width where zeros fill it. -/
def groupWhole (s : Spec) (size : Nat) (sign : List Char) (whole rest : List Char) : List Char :=
  match s.grouping with
  | none => whole
  | some mark =>
    if whole.isEmpty then whole
    else if s.fill == '0' && s.numberAlign == '=' then
      let room := s.width - (sign.length + rest.length)
      let need := room / (size + 1) * size + max (room % (size + 1)) 1
      grouped mark size (padding '0' (need - whole.length) ++ whole)
    else grouped mark size whole

/-- A text by a specification. -/
def Spec.text (s : Spec) (t : String) : Except SpecError String := do
  match s.kind with
  | none | some 's' => pure ()
  | some k => throw (.unknown k)
  match s.sign with
  | some ' ' => throw .spaceInText
  | some _ => throw .signInText
  | none => pure ()
  if s.plainZero then throw .zeroInText
  if s.alternate then throw .alternateInText
  if s.align == some '=' then throw .alignInText
  let cs := match s.precision with
    | some p => t.toList.take p
    | none => t.toList
  return String.ofList (aligned s (s.align.getD '<') [] cs)

def digitsIn (base : Nat) (upper : Bool) (n : Nat) : List Char :=
  let ds := Nat.toDigits base n
  if upper then ds.map Char.toUpper else ds

/-- A number as it is laid out: its sign, the digits in front of the point, and the rest. -/
structure Numeral where
  negative : Bool
  whole : List Char
  rest : List Char

/-- Digits after the point; the point stays without digits where `keep` is set. -/
def fraction (keep : Bool) (ds : List Char) : List Char :=
  if ds.isEmpty && !keep then [] else '.' :: ds

def exponentPart (upper : Bool) (power : Int) : List Char :=
  (if upper then 'E' else 'e') :: exponentText power

def exponential (mant : Nat) (exp : Int) (places : Nat) (upper keep : Bool) :
    List Char × List Char :=
  let (ds, power) := significant mant exp (places + 1)
  (ds.take 1, fraction keep (ds.drop 1) ++ exponentPart upper power)

/-- The text of a number with a count of significant digits, by an exponent where it is small or
large. `keep` keeps the point and the zeros at the end, `point` at least one digit after the
point. -/
def general (mant : Nat) (exp : Int) (count : Nat) (upper keep point : Bool) :
    List Char × List Char :=
  let count := max count 1
  let (ds, power) := significant mant exp count
  let trim (ds : List Char) : List Char := if keep then ds else dropZeros ds
  let limit : Int := if point then count - 1 else count
  if -4 ≤ power && power < limit then
    if power < 0 then (['0'], fraction keep (trim (zeros (-power - 1).toNat ++ ds)))
    else
      let frac := trim (ds.drop (power.toNat + 1))
      let frac := if frac.isEmpty && point then ['0'] else frac
      (ds.take (power.toNat + 1), fraction keep frac)
  else (ds.take 1, fraction keep (trim (ds.drop 1)) ++ exponentPart upper power)

def shortestText (mant : Nat) (exp : Int) (keep : Bool) : List Char × List Char :=
  let d := shortest mant exp
  if -4 < d.point && d.point ≤ 16 then
    let cs := positional d
    (cs.takeWhile (· != '.'), cs.dropWhile (· != '.'))
  else
    let ds := if d.digits.isEmpty then ['0'] else d.digits
    (ds.take 1, fraction keep (ds.drop 1) ++ exponentPart false (d.point - 1))

def fixedText (mant : Nat) (exp : Int) (places : Nat) (keep : Bool) : List Char × List Char :=
  let cs := fixed mant exp places
  let rest := cs.dropWhile (· != '.')
  (cs.takeWhile (· != '.'), if rest.isEmpty && keep then ['.'] else rest)

/-- A binary64 number laid out by the kind and precision of a specification. `point` asks for a
digit after the point where no kind is written. -/
def Spec.numeral (s : Spec) (point : Bool) (x : Float) : Numeral :=
  let kind := s.kind.getD 'r'
  let x := if kind == '%' then x * 100 else x
  let upper := kind == 'E' || kind == 'F' || kind == 'G'
  let tail (rest : List Char) : List Char := if kind == '%' then rest ++ ['%'] else rest
  let word (w : String) : List Char := tail (if upper then w.toList.map Char.toUpper else w.toList)
  match Binary.ofFloat x with
  | .nan => ⟨false, [], word "nan"⟩
  | .infinite negative => ⟨negative, [], word "inf"⟩
  | .finite negative mant exp =>
    let keep := s.alternate
    let (whole, rest) := match kind, s.precision with
      | 'e', p | 'E', p => exponential mant exp (p.getD 6) upper keep
      | 'f', p | 'F', p | '%', p => fixedText mant exp (p.getD 6) keep
      | 'g', p | 'G', p | 'n', p => general mant exp (p.getD 6) upper keep false
      | _, some p => general mant exp p false keep point
      | _, none => shortestText mant exp keep
    let isZero := (whole ++ rest.takeWhile (· != 'e')).all fun c => !isAsciiDigit c || c == '0'
    ⟨negative && !(s.plainZero && isZero), whole, tail rest⟩

def Spec.float (s : Spec) (x : Float) : Except SpecError String := do
  match s.kind with
  | some kind => if !"eEfFgGn%".toList.contains kind then throw (.unknown kind)
  | none => pure ()
  if s.precision.getD 0 > maxPlaces then throw .precisionRange
  let n := s.numeral true x
  let sign := signChars s n.negative
  return String.ofList
    (aligned s s.numberAlign sign (groupWhole s 3 sign n.whole n.rest ++ n.rest))

/-- A complex number by a specification: both parts laid out alike, without padding of their own. -/
def Spec.complex (s : Spec) (re im : Float) : Except SpecError String := do
  match s.kind with
  | some kind => if !"eEfFgGn".toList.contains kind then throw (.unknown kind)
  | none => pure ()
  if s.precision.getD 0 > maxPlaces then throw .precisionRange
  if s.fill == '0' then throw .zerosInComplex
  if s.align == some '=' then throw .alignInComplex
  let bare := { s with width := 0, fill := ' ' }
  let alone := s.kind.isNone && re == 0 && !isNegative re
  let part (s : Spec) (x : Float) : List Char :=
    let n := if s.kind.isNone && s.precision.isNone then wholeBare (s.numeral false x)
      else s.numeral false x
    signChars s n.negative ++ groupWhole s 3 [] n.whole n.rest ++ n.rest
  let body := if alone then part bare im ++ ['j']
    else part bare re ++ part { bare with sign := some '+' } im ++ ['j']
  let body := if s.kind.isNone && !alone then '(' :: body ++ [')'] else body
  return String.ofList (aligned s (s.align.getD '>') [] body)
where
  /-- Shortest digits without a zero after the point. -/
  wholeBare (n : Numeral) : Numeral :=
    if n.rest == ['.', '0'] then { n with rest := if s.alternate then ['.'] else [] } else n

def Spec.char (s : Spec) (n : Int) : Except SpecError String := do
  if s.sign.isSome then throw .signInChar
  if s.alternate then throw .alternateInChar
  if n.natAbs > maxCount then throw .wordRange
  if n < 0 || n ≥ 0x110000 then throw .charRange
  return String.ofList (aligned s s.numberAlign [] [ofPoint n.toNat])

/-- An integer by a specification. -/
def Spec.int (s : Spec) (n : Int) : Except SpecError String := do
  let kind := s.kind.getD 'd'
  if "eEfFgG%".toList.contains kind then
    let x := ofInt n
    if x.isInf then throw .tooLarge
    s.float x
  else
    if !"bcdoxXn".toList.contains kind then throw (.unknown kind)
    if s.precision.isSome then throw .precisionInInteger
    if s.plainZero then throw .zeroInInteger
    if kind == 'c' then s.char n
    else
      let base := match kind with
        | 'b' => 2
        | 'o' => 8
        | 'x' | 'X' => 16
        | _ => 10
      let mark := if s.alternate && base != 10 then ['0', kind] else []
      let sign := signChars s (n < 0) ++ mark
      let ds := digitsIn base (kind == 'X') n.natAbs
      return String.ofList
        (aligned s s.numberAlign sign (groupWhole s (if base == 10 then 3 else 4) sign ds []))

def kindText (k : Char) : String :=
  let n := point k
  if 32 < n && n < 128 then String.singleton k
  else String.ofList ('\\' :: 'x' :: Nat.toDigits 16 n)

/-- Why a specification does not fit a value of a type. -/
def SpecError.message (e : SpecError) (text type : String) : String :=
  match e with
  | .invalid => "Invalid format specifier '" ++ text ++ "' for object of type '" ++ type ++ "'"
  | .missingPrecision => "Format specifier missing precision"
  | .unknown k => "Unknown format code '" ++ kindText k ++ "' for object of type '" ++ type ++ "'"
  | .spaceInText => "Space not allowed in string format specifier"
  | .signInText => "Sign not allowed in string format specifier"
  | .zeroInText => "Negative zero coercion (z) not allowed in string format specifier"
  | .alternateInText => "Alternate form (#) not allowed in string format specifier"
  | .alignInText => "'=' alignment not allowed in string format specifier"
  | .bothGroupings => "Cannot specify both ',' and '_'."
  | .groupingIn c k => "Cannot specify '" ++ String.singleton c ++ "' with '" ++ kindText k ++ "'."
  | .precisionInInteger => "Precision not allowed in integer format specifier"
  | .zeroInInteger => "Negative zero coercion (z) not allowed in integer format specifier"
  | .signInChar => "Sign not allowed with integer format specifier 'c'"
  | .alternateInChar => "Alternate form (#) not allowed with integer format specifier 'c'"
  | .charRange => "%c arg not in range(0x110000)"
  | .wordRange => "Python int too large to convert to C long"
  | .tooLarge => "int too large to convert to float"
  | .precisionRange => "precision too big"
  | .zerosInComplex => "Zero padding is not allowed in complex format specifier"
  | .alignInComplex => "'=' alignment flag is not allowed in complex format specifier"
  | .tooManyDigits => "Too many decimal digits in format string"
  | .tooWide => ""

def SpecError.kind : SpecError → String
  | .charRange | .wordRange | .tooLarge => "OverflowError"
  | .tooWide => "MemoryError"
  | _ => "ValueError"

end Notebook.Display
