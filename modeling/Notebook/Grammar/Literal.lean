import Notebook.Decimal.Shortest
import Notebook.Source.Lexer
import Notebook.Text.CharName
import Notebook.Text.Point
import Notebook.Tree.Expr

set_option autoImplicit false

namespace Notebook.Grammar.Literal

open Notebook.Text Notebook.Source Notebook.Tree

/-! ### Numbers -/

def digitValue (c : Char) : Nat :=
  if isAsciiDigit c then c.toNat - 48
  else if 'a' ≤ c && c ≤ 'z' then c.toNat - 87
  else c.toNat - 55

def natOf (base : Nat) (cs : List Char) : Nat := cs.foldl (fun n c => n * base + digitValue c) 0

def maxDigits : Nat := 4300

def decimalParts (cs : List Char) : Nat × Int :=
  let mantissa := cs.takeWhile fun c => c != 'e' && c != 'E'
  let exponent := cs.drop (mantissa.length + 1)
  let whole := mantissa.takeWhile (· != '.')
  let frac := mantissa.drop (whole.length + 1)
  let e : Int := match exponent with
    | '-' :: ds => -(natOf 10 ds : Int)
    | '+' :: ds => natOf 10 ds
    | ds => natOf 10 ds
  (natOf 10 (whole ++ frac), e - frac.length)

def floatOf (cs : List Char) : Float :=
  let (m, e) := decimalParts cs
  Decimal.toFloat m e

/-- The value of a number literal; a decimal integer with too many digits is refused with the number
of its digits. -/
def number (text : String) : Except Nat Constant :=
  let cs := text.toList.filter (· != '_')
  match cs with
  | '0' :: c :: ds =>
    if c == 'x' || c == 'X' then .ok (.int (natOf 16 ds))
    else if c == 'o' || c == 'O' then .ok (.int (natOf 8 ds))
    else if c == 'b' || c == 'B' then .ok (.int (natOf 2 ds))
    else decimal cs
  | _ => decimal cs
where
  decimal (cs : List Char) : Except Nat Constant :=
    if cs.getLast? == some 'j' || cs.getLast? == some 'J' then .ok (.imag (floatOf cs.dropLast))
    else if cs.any fun c => c == '.' || c == 'e' || c == 'E' then .ok (.float (floatOf cs))
    else if cs.length > maxDigits then .error cs.length
    else .ok (.int (natOf 10 cs))

/-! ### Strings -/

structure Quoted where
  isBytes : Bool
  isRaw : Bool
  isFormat : Bool
  isMarked : Bool
  /-- How many characters stand before the body. -/
  lead : Nat
  body : List Char

def quoted (text : String) : Quoted :=
  let cs := text.toList
  let marks := cs.takeWhile fun c => c != '"' && c != '\''
  let rest := cs.drop marks.length
  let long := match rest with
    | a :: b :: c :: _ :: _ :: _ :: _ => a == b && b == c
    | _ => false
  let width := if long then 3 else 1
  let has (c : Char) : Bool := marks.any fun m => m.toLower == c
  { isBytes := has 'b', isRaw := has 'r', isFormat := has 'f', isMarked := marks.head? == some 'u',
    lead := marks.length + width,
    body := (rest.drop width).take (rest.length - 2 * width) }

def isOctal (c : Char) : Bool := '0' ≤ c && c < '8'

def simpleEscape : Char → Option Char
  | '\\' => some '\\'
  | '\'' => some '\''
  | '"' => some '"'
  | 'a' => some '\x07'
  | 'b' => some '\x08'
  | 'f' => some '\x0c'
  | 'n' => some '\n'
  | 'r' => some '\r'
  | 't' => some '\t'
  | 'v' => some '\x0b'
  | _ => none

/-- Why an escape could not be read: the problem, and the bytes it covers. -/
structure BadEscape where
  start : Nat
  stop : Nat
  problem : String

def BadEscape.message (b : BadEscape) : String :=
  "(unicode error) 'unicodeescape' codec can't decode bytes in position " ++ toString b.start ++ "-" ++
    toString (b.stop - 1) ++ ": " ++ b.problem

def escapedWidth (c : Char) : Nat := if c.toNat < 128 then 1 else 10

def unescape : Nat → List Char → Nat → List Char → Except BadEscape (List Char)
  | 0, _, _, acc => .ok acc.reverse
  | _ + 1, [], _, acc => .ok acc.reverse
  | fuel + 1, '\\' :: cs, n, acc =>
    let hex (digits : Nat) (shape : String) (ds : List Char) : Except BadEscape (List Char) :=
      let hs := (ds.take digits).takeWhile isHexDigit
      if hs.length == digits then
        let code := natOf 16 hs
        if code > 0x10ffff then
          .error { start := n, stop := n + 2 + digits, problem := "illegal Unicode character" }
        else unescape fuel (ds.drop digits) (n + 2 + digits) (ofPoint code :: acc)
      else
        .error { start := n, stop := n + 2 + hs.length, problem := "truncated \\" ++ shape ++ " escape" }
    match cs with
    | [] => .ok ('\\' :: acc).reverse
    | '\n' :: ds => unescape fuel ds (n + 2) acc
    | 'x' :: ds => hex 2 "xXX" ds
    | 'u' :: ds => hex 4 "uXXXX" ds
    | 'U' :: ds => hex 8 "UXXXXXXXX" ds
    | 'N' :: ds =>
      match ds with
      | '\x7b' :: rest =>
        let name := rest.takeWhile (· != '\x7d')
        let width := name.foldl (fun n c => n + escapedWidth c) 0
        if name.length < rest.length && !name.isEmpty then
          match CharName.codeOf? (String.ofList name) with
          | some code =>
            let count := name.length + 1
            unescape fuel (rest.drop count) (n + 4 + width) (ofPoint code :: acc)
          | none =>
            let stop := n + 4 + width
            .error { start := n, stop, problem := "unknown Unicode character name" }
        else
          .error { start := n, stop := n + 3 + width, problem := "malformed \\N character escape" }
      | _ => .error { start := n, stop := n + 2, problem := "malformed \\N character escape" }
    | c :: ds =>
      match simpleEscape c with
      | some d => unescape fuel ds (n + 2) (d :: acc)
      | none =>
        if isOctal c then
          let os := c :: (ds.take 2).takeWhile isOctal
          unescape fuel (cs.drop os.length) (n + 1 + os.length) (Char.ofNat (natOf 8 os) :: acc)
        else if c.toNat < 128 then unescape fuel ds (n + 2) (c :: '\\' :: acc)
        else unescape fuel ds (n + 6 + escapedWidth c) (c :: '\\' :: acc)
  | fuel + 1, c :: cs, n, acc => unescape fuel cs (n + escapedWidth c) (c :: acc)

def textOf (raw : Bool) (body : List Char) : Except String (List Char) :=
  if raw then .ok body
  else match unescape (body.length + 1) body 0 [] with
    | .ok cs => .ok cs
    | .error b => .error b.message

def unescapeBytes : Nat → List Char → Nat → List UInt8 → Except String (List UInt8)
  | 0, _, _, acc => .ok acc.reverse
  | _ + 1, [], _, acc => .ok acc.reverse
  | fuel + 1, '\\' :: cs, n, acc =>
    match cs with
    | [] => .ok (92 :: acc).reverse
    | '\n' :: ds => unescapeBytes fuel ds (n + 2) acc
    | 'x' :: ds =>
      match ds with
      | a :: b :: rest =>
        if isHexDigit a && isHexDigit b then
          unescapeBytes fuel rest (n + 4) ((natOf 16 [a, b]).toUInt8 :: acc)
        else .error ("(value error) invalid \\x escape at position " ++ toString n)
      | _ => .error ("(value error) invalid \\x escape at position " ++ toString n)
    | c :: ds =>
      match simpleEscape c with
      | some d => unescapeBytes fuel ds (n + 2) (d.toNat.toUInt8 :: acc)
      | none =>
        if isOctal c then
          let os := c :: (ds.take 2).takeWhile isOctal
          unescapeBytes fuel (cs.drop os.length) (n + 1 + os.length) ((natOf 8 os).toUInt8 :: acc)
        else unescapeBytes fuel ds (n + 2) (c.toNat.toUInt8 :: 92 :: acc)
  | fuel + 1, c :: cs, n, acc => unescapeBytes fuel cs (n + 1) (c.toNat.toUInt8 :: acc)

def bytesOf (raw : Bool) (body : List Char) : Except String (List UInt8) :=
  if body.any fun c => c.toNat ≥ 128 then .error "bytes can only contain ASCII literal characters"
  else if raw then .ok (body.map fun c => c.toNat.toUInt8)
  else unescapeBytes (body.length + 1) body 0 []

end Notebook.Grammar.Literal
