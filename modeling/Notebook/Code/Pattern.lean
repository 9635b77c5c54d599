import Notebook.Code.Expr
import Notebook.Text.Quoted
import Notebook.Decimal.Shortest

/-! Code of patterns.

The subject of a pattern and everything it captures stand in slots, so a pattern that fails can jump
away at any point; names are bound only when the whole pattern has matched. -/

set_option autoImplicit false

namespace Notebook.Code

open Notebook.Source Notebook.Tree Notebook.Scope

abbrev Captures := List (String × Nat)

def capture (cs : Captures) (slot : Nat) : Option String → Gen Captures
  | none => return cs
  | some n => do
    forbidName n .store
    if (cs.lookup n).isSome then
      fault s!"multiple assignments to name {Text.quote n} in pattern"
    return cs ++ [(n, slot)]

def isWildcard : Pattern → Bool
  | .as _ none none => true
  | .as _ (some _) none => true
  | _ => false

def starIndex? : List Pattern → Option Nat
  | [] => none
  | .star .. :: _ => some 0
  | _ :: ps => (starIndex? ps).map (· + 1)

def isStar : Pattern → Bool
  | .star .. => true
  | _ => false

/-- Whether a part of a pattern matches everything and keeps nothing. -/
def isIgnored : Pattern → Bool
  | .as _ none none => true
  | .star _ none => true
  | _ => false

def newSlots : Nat → Gen (List Nat)
  | 0 => return []
  | n + 1 => do
    let s ← newSlot
    return s :: (← newSlots n)

def failUnless (fail : Nat) : Gen PUnit := emit (.jumpIfFalse fail)

def lengthIs (slot : Nat) (op : CmpOp) (n : Nat) (fail : Nat) : Gen PUnit := do
  emit (.loadFast slot)
  emit .getLength
  emit (.const (.int n))
  emit (.compare op)
  failUnless fail

def failIfNone (slot fail : Nat) : Gen PUnit := do
  emit (.loadFast slot)
  emit (.const .none)
  emit (.compare .is)
  emit (.jumpIfTrue fail)

def asLiteral : Expr → Option Constant
  | .const _ c => some c
  | .unaryOp _ .minus (.const _ (.int n)) => some (.int (-n))
  | .unaryOp _ .minus (.const _ (.float x)) => some (.float (-x))
  | .unaryOp _ .minus (.const _ (.imag x)) => some (.imag (-x))
  | _ => none

/-- The number that a literal key stands for, when it is one that other numbers can equal. -/
def keyNumber : Constant → Option Float
  | .bool b => some (if b then 1 else 0)
  | .int n => some (Float.ofInt n)
  | .float x => some x
  | _ => none

def sameKey : Constant → Constant → Bool
  | .none, .none | .ellipsis, .ellipsis => true
  | .str a _, .str b _ => a == b
  | .bytes a, .bytes b => a == b
  | .imag a, .imag b => a == b
  | .int a, .int b => a == b
  | a, b =>
    match keyNumber a, keyNumber b with
    | some x, some y => x == y
    | _, _ => false

def keyText : Constant → String
  | .none => "None"
  | .bool true => "True"
  | .bool false => "False"
  | .ellipsis => "Ellipsis"
  | .int n => toString n
  | .float x => Decimal.text x
  | .imag x => Decimal.text x ++ "j"
  | .str s _ => Text.quote s
  | .bytes bs => Text.quoteBytes bs

def genKeys (seen : List Constant) : List Expr → Gen PUnit
  | [] => return
  | k :: ks => do
    match asLiteral k with
    | some c =>
      if seen.any (sameKey c) then
        fault s!"mapping pattern checks duplicate key ({keyText c})"
      genExpr k
      genKeys (c :: seen) ks
    | none =>
      genExpr k
      genKeys seen ks

def checkAttributes : List String → List Pos → Gen PUnit
  | n :: ns, p :: ps => do
    setPlace p
    forbidName n .store
    match (ns.zip ps).find? (·.1 == n) with
    | some (_, q) =>
      setPlace q
      fault s!"attribute name repeated in class pattern: {n}"
    | none => checkAttributes ns ps
  | _, _ => return

def unifyCaptures (control cs : Captures) : Gen PUnit := do
  if control.length != cs.length then fault "alternative patterns bind different names"
  control.forM fun (n, slot) => do
    match cs.lookup n with
    | none => fault "alternative patterns bind different names"
    | some from_ =>
      emit (.loadFast from_)
      emit (.storeFast slot)

def addCaptures : Captures → Captures → Gen Captures
  | cs, [] => return cs
  | cs, (n, slot) :: rest => do
    if (cs.lookup n).isSome then
      fault s!"multiple assignments to name {Text.quote n} in pattern"
    addCaptures (cs ++ [(n, slot)]) rest

mutual

/-- Matches the value of a slot; `open` tells whether the pattern may match everything. -/
def genPattern (anything : Bool) (slot fail : Nat) (cs : Captures) : Pattern → Gen Captures
  | .value p e => do
    setPlace p
    match asLiteral e, e with
    | none, .attribute .. | none, .binOp .. | some _, _ => pure ()
    | _, _ => fault "patterns may only match literals and attribute lookups"
    emit (.loadFast slot)
    genExpr e
    emit (.compare .eq)
    failUnless fail
    return cs
  | .singleton p c => do
    setPlace p
    emit (.loadFast slot)
    emit (.const c)
    emit (.compare .is)
    failUnless fail
    return cs
  | .sequence p ps => do
    setPlace p
    let stars := (ps.filter isStar).length
    if stars > 1 then fault "multiple starred expressions in sequence pattern"
    emit (.loadFast slot)
    emit .isSequence
    failUnless fail
    if stars == 0 then lengthIs slot .eq ps.length fail
    else if ps.length > 1 then lengthIs slot .gtE (ps.length - 1) fail
    let slots ← newSlots ps.length
    emit (.loadFast slot)
    match starIndex? ps with
    | none => emit (.unpack ps.length)
    | some i => emit (.unpackRest i (ps.length - i - 1))
    slots.forM fun s => emit (.storeFast s)
    let isRestIgnored := ps.any fun q => isStar q && isIgnored q
    genPatterns (isRestIgnored || ps.all isIgnored) slots fail cs ps
  | .mapping p keys ps rest => do
    setPlace p
    emit (.loadFast slot)
    emit .isMapping
    failUnless fail
    if keys.isEmpty && rest.isNone then return cs
    if !keys.isEmpty then lengthIs slot .gtE keys.length fail
    genKeys [] keys
    emit (.buildTuple keys.length)
    let keySlot ← newSlot
    emit (.storeFast keySlot)
    emit (.loadFast slot)
    emit (.loadFast keySlot)
    emit .matchKeys
    let found ← newSlot
    emit (.storeFast found)
    failIfNone found fail
    let slots ← newSlots ps.length
    emit (.loadFast found)
    emit (.unpack ps.length)
    slots.forM fun s => emit (.storeFast s)
    let cs ← genPatterns false slots fail cs ps
    match rest with
    | none => return cs
    | some n =>
      emit (.loadFast slot)
      emit (.loadFast keySlot)
      emit .matchRest
      let restSlot ← newSlot
      emit (.storeFast restSlot)
      capture cs restSlot (some n)
  | .class p c ps names named => do
    setPlace p
    checkAttributes names (named.map Pattern.pos)
    setPlace p
    emit (.loadFast slot)
    genExpr c
    emit (.matchClass ps.length names)
    let found ← newSlot
    emit (.storeFast found)
    failIfNone found fail
    let slots ← newSlots ps.length
    let namedSlots ← newSlots named.length
    emit (.loadFast found)
    emit (.unpack (ps.length + named.length))
    slots.forM fun s => emit (.storeFast s)
    namedSlots.forM fun s => emit (.storeFast s)
    let cs ← genPatterns true slots fail cs ps
    genPatterns true namedSlots fail cs named
  | .star p n => do
    setPlace p
    capture cs slot n
  | .as p none n => do
    setPlace p
    if !anything then
      match n with
      | some n => fault s!"name capture {Text.quote n} makes remaining patterns unreachable"
      | none => fault "wildcard makes remaining patterns unreachable"
    capture cs slot n
  | .as p (some pat) n => do
    setPlace p
    let cs ← genPattern anything slot fail cs pat
    capture cs slot n
  | .or p ps => do
    setPlace p
    let matched ← newLabel
    let control ← genAlternatives anything slot fail matched none ps
    placeLabel matched
    addCaptures cs control

/-- Matches each slot with its pattern; parts of a pattern may match everything, and those that keep
nothing may be passed over. -/
def genPatterns (skips : Bool) (slots : List Nat) (fail : Nat) (cs : Captures) :
    List Pattern → Gen Captures
  | [] => return cs
  | p :: ps => do
    if skips && isIgnored p then genPatterns skips slots.tail fail cs ps
    else
      let cs ← genPattern true (slots.headD 0) fail cs p
      genPatterns skips slots.tail fail cs ps

def genAlternatives (anything : Bool) (slot fail matched : Nat) (control : Option Captures) :
    List Pattern → Gen Captures
  | [] => return control.getD []
  | p :: ps => do
    setPlace p.pos
    let next ← newLabel
    let cs ← genPattern (anything && ps.isEmpty) slot (if ps.isEmpty then fail else next) [] p
    let control ← match control with
      | none => pure cs
      | some c => do
        unifyCaptures c cs
        pure c
    emit (.jump matched)
    placeLabel next
    genAlternatives anything slot fail matched (some control) ps

end

end Notebook.Code
