import Notebook.Machine.Format

set_option autoImplicit false

namespace Notebook.Machine

open Notebook.Text Notebook.Display

structure Place where
  left : Bool := false
  plus : Bool := false
  space : Bool := false
  zero : Bool := false
  alternate : Bool := false
  width : Nat := 0
  precision : Option Nat := none

structure Supply where
  items : List Value
  mapping : Option Value

def nextArg (s : Supply) : M (Value × Supply) := do
  match s.items with
  | v :: vs => return (v, { s with items := vs })
  | [] => typeError "not enough arguments for format string"

def readFlags (p : Place) : List Char → Place × List Char
  | '-' :: cs => readFlags { p with left := true } cs
  | '+' :: cs => readFlags { p with plus := true } cs
  | ' ' :: cs => readFlags { p with space := true } cs
  | '#' :: cs => readFlags { p with alternate := true } cs
  | '0' :: cs => readFlags { p with zero := true } cs
  | cs => (p, cs)

def readAmount (bound : Nat) (complaint : String) (cs : List Char) : M (Option Nat × List Char) := do
  let ds := cs.takeWhile isAsciiDigit
  if ds.isEmpty then return (none, cs)
  let n := ds.foldl (fun n c => if n > bound then n else n * 10 + (c.toNat - '0'.toNat)) 0
  if n > bound then valueError complaint
  return (some n, cs.drop ds.length)

def starAmount (bound : Nat) (unit : String) (s : Supply) : M (Int × Supply) := do
  let (v, s) ← nextArg s
  match ← core v with
  | .int n =>
    if n.natAbs > bound then overflow s!"Python int too large to convert to C {unit}"
    return (n, s)
  | .bool b => return (if b then 1 else 0, s)
  | _ => typeError "* wants int"

def readWidth (p : Place) (s : Supply) (cs : List Char) : M (Place × Supply × List Char) := do
  match cs with
  | '*' :: cs =>
    let (n, s) ← starAmount maxCount "ssize_t" s
    return ({ p with width := n.natAbs, left := p.left || n < 0 }, s, cs)
  | cs =>
    let (n, cs) ← readAmount maxCount "width too big" cs
    return ({ p with width := n.getD 0 }, s, cs)

def readPrecision (p : Place) (s : Supply) (cs : List Char) : M (Place × Supply × List Char) := do
  match cs with
  | '.' :: '*' :: cs =>
    let (n, s) ← starAmount maxPlaces "int" s
    return ({ p with precision := some n.toNat }, s, cs)
  | '.' :: cs =>
    let (n, cs) ← readAmount maxPlaces "precision too big" cs
    return ({ p with precision := some (n.getD 0) }, s, cs)
  | cs => return (p, s, cs)

def skipLength : List Char → List Char
  | 'h' :: cs | 'l' :: cs | 'L' :: cs => cs
  | cs => cs

def padPlace (p : Place) (sign body : List Char) (zeros : Bool) : M String := do
  if p.width > maxRoom then raise "MemoryError" ""
  let n := p.width - (sign.length + body.length)
  return String.ofList <|
    if p.left then sign ++ body ++ padding ' ' n
    else if zeros && p.zero then sign ++ padding '0' n ++ body
    else padding ' ' n ++ sign ++ body

def placeSign (p : Place) (negative : Bool) : List Char :=
  if negative then ['-'] else if p.plus then ['+'] else if p.space then [' '] else []

def placeInt (h : Host) (kind : Char) (v : Value) : M Int := do
  let isDecimal := kind == 'd' || kind == 'i' || kind == 'u'
  match (← core v).num? with
  | some (.int n) => return n
  | some (.float x) =>
    if isDecimal then return ← cutFloat x
    typeError s!"%{kind} format: an integer is required, not {← typeName v}"
  | _ =>
    let convert ← if isDecimal then special? v "__int__" else pure none
    match convert with
    | some m => expectIntFrom "__int__" (← callSpecial h m v [])
    | none =>
      match ← index? h v with
      | some n => return n
      | none =>
        let needs := if isDecimal then "a real number" else "an integer"
        typeError s!"%{kind} format: {needs} is required, not {← typeName v}"

def placeChar (h : Host) (v : Value) : M Char := do
  match ← core v with
  | .str s =>
    match s.toList with
    | [c] => return c
    | _ => typeError "%c requires int or char"
  | _ =>
    match ← index? h v with
    | none => typeError "%c requires int or char"
    | some n =>
      if n < 0 || n ≥ 0x110000 then overflow "%c arg not in range(0x110000)"
      return ofPoint n.toNat

def fillPlace (h : Host) (p : Place) (kind : Char) (v : Value) : M String := do
  match kind with
  | 's' | 'r' | 'a' =>
    let s ← converted h kind v
    let cs := match p.precision with
      | some n => s.toList.take n
      | none => s.toList
    padPlace p [] cs false
  | 'c' => do padPlace p [] [← placeChar h v] false
  | 'd' | 'i' | 'u' | 'x' | 'X' | 'o' =>
    let n ← placeInt h kind v
    let base := match kind with
      | 'x' | 'X' => 16
      | 'o' => 8
      | _ => 10
    if base == 10 then discard (intText n)
    let ds := digitsIn base (kind == 'X') n.natAbs
    let ds := padding '0' (p.precision.getD 0 - ds.length) ++ ds
    let mark := if p.alternate && base != 10 then ['0', kind] else []
    padPlace p (placeSign p (n < 0) ++ mark) ds true
  | _ =>
    let x ← realArg h v
    let spec : Spec := { kind := some kind, precision := p.precision, alternate := p.alternate }
    let n := spec.numeral false x
    padPlace p (placeSign p n.negative) (n.whole ++ n.rest) true

def isPlaceKind (c : Char) : Bool := "sracdiuxXoeEfFgG".toList.contains c

def placeKey : List Char → Nat → List Char → Option (List Char × List Char)
  | [], _, _ => none
  | ')' :: cs, 0, acc => some (acc.reverse, cs)
  | ')' :: cs, n + 1, acc => placeKey cs n (')' :: acc)
  | '(' :: cs, n, acc => placeKey cs (n + 1) ('(' :: acc)
  | c :: cs, n, acc => placeKey cs n (c :: acc)

def readKey (h : Host) (s : Supply) (cs : List Char) : M (Supply × List Char) := do
  match cs with
  | '(' :: rest =>
    match s.mapping with
    | none => typeError "format requires a mapping"
    | some m =>
      match placeKey rest 0 [] with
      | none => valueError "incomplete format key"
      | some (key, rest) =>
        let v ← getItem h m (.str (String.ofList key))
        return ({ s with items := [v] }, rest)
  | cs => return (s, cs)

def onePlace (h : Host) (s : Supply) (total : Nat) (cs : List Char) :
    M (String × Supply × List Char) := do
  let (s, cs) ← readKey h s cs
  let (p, cs) := readFlags {} cs
  let (p, s, cs) ← readWidth p s cs
  let (p, s, cs) ← readPrecision p s cs
  let cs := skipLength cs
  match cs with
  | [] => valueError "incomplete format"
  | k :: rest =>
    let (v, s) ← nextArg s
    if !isPlaceKind k then
      let code := String.ofList (Nat.toDigits 16 (point k))
      let shown := if 31 ≤ k.toNat && k.toNat ≤ 126 then k else '?'
      valueError s!"unsupported format character '{shown}' (0x{code}) at index {total - cs.length}"
    let text ← fillPlace h p k v
    return (text, s, rest)

def fillPlaces (h : Host) (total : Nat) : (fuel : Nat) → Supply → List Char → List String →
    M (List String × Supply)
  | 0, s, _, acc => return (acc, s)
  | fuel + 1, s, cs, acc => do
    let plain := cs.takeWhile (· != '%')
    let acc := String.ofList plain :: acc
    match cs.drop plain.length with
    | [] => return (acc, s)
    | _ :: '%' :: rest => fillPlaces h total fuel s rest ("%" :: acc)
    | _ :: rest =>
      let (text, s, rest) ← onePlace h s total rest
      fillPlaces h total fuel s rest (text :: acc)

def hasItems (v : Value) : M Bool := do
  match ← payload v with
  | .wrapped (.str _) => return false
  | .wrapped (.bytes _) | .dict _ | .exports _ | .list _ => return true
  | .range .. => return true
  | _ => return (← special? v "__getitem__").isSome

def percent (h : Host) (template : String) (v : Value) : M String := do
  let supply : Supply ← match ← payload v with
    | .tuple items => pure { items, mapping := none }
    | _ => pure { items := [v], mapping := if ← hasItems v then some v else none }
  let (parts, rest) ← fillPlaces h template.length (template.length + 1) supply template.toList []
  if !rest.items.isEmpty && rest.mapping.isNone then
    typeError "not all arguments converted during string formatting"
  return String.join parts.reverse

end Notebook.Machine
