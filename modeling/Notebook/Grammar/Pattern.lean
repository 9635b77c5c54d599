import Notebook.Grammar.Expr

set_option autoImplicit false

namespace Notebook.Grammar

open Notebook.Source Notebook.Tree P

def captureName : R (String × Pos) := do
  lookNot (softWord "_")
  let n ← nameToken
  lookNot (opening [".", "(", "="])
  return n

def signedNumber : R Expr :=
  alts [
    numberExpr,
    (do let t ← tok "-"
        return .unaryOp t.pos .minus (← numberExpr))]

def isImaginary : Expr → Bool
  | .const _ (.imag _) => true
  | _ => false

def complexNumber : R Expr := do
  let real ← signedNumber
  let op ← (do let _ ← tok "+"; return BinOp.add) <|> (do let _ ← tok "-"; return BinOp.sub)
  let bare := match real with
    | .unaryOp _ _ e => e
    | e => e
  if isImaginary bare then raiseAt bare.pos "real number required in complex literal"
  let imag ← numberExpr
  if isImaginary imag then return .binOp real.pos real op imag
  else raiseAt imag.pos "imaginary number required in complex literal"

def literalValue (g : Rules) : R Expr :=
  alts [
    (do let n ← signedNumber
        lookNot (tok "+" <|> tok "-")
        return n),
    complexNumber,
    g.expr .strings]

def singletonToken : R (Constant × Pos) :=
  alts [
    (do let t ← tok "None"; return (.none, t.pos)),
    (do let t ← tok "True"; return (.bool true, t.pos)),
    (do let t ← tok "False"; return (.bool false, t.pos))]

def dottedName : R Expr := do
  let first ← nameExpr .load
  growAll (fun e => do
    let _ ← tok "."
    let (attr, attrPos) ← nameToken
    return .attribute e.pos e attr attrPos .load) first

def isAttribute : Expr → Bool
  | .attribute .. => true
  | _ => false

def attributeName : R Expr := do
  let e ← dottedName
  if isAttribute e then return e else miss

def starPattern : R Pattern :=
  alts [
    (do let t ← tok "*"
        let (n, _) ← captureName
        return .star t.pos (some n)),
    (do let t ← tok "*"
        let _ ← softWord "_"
        return .star t.pos none)]

def maybeStarPattern (g : Rules) : R Pattern := starPattern <|> g.pattern .pattern

def maybeSequence (g : Rules) : R (List Pattern) := do
  let ps ← sepBy1 (maybeStarPattern g) (tok ",")
  let _ ← optional (tok ",")
  return ps

def openSequence (g : Rules) : R (List Pattern) := do
  let p ← maybeStarPattern g
  let _ ← tok ","
  let ps ← optional (maybeSequence g)
  return p :: ps.getD []

def sequencePattern (g : Rules) : R Pattern :=
  alts [
    (do let t ← tok "["
        let ps ← optional (maybeSequence g)
        let _ ← tok "]"
        return .sequence t.pos (ps.getD [])),
    (do let t ← tok "("
        let ps ← optional (openSequence g)
        let _ ← tok ")"
        return .sequence t.pos (ps.getD []))]

def keyValuePattern (g : Rules) : R (Expr × Pattern) := do
  let key ← alts [
    literalValue g,
    (do let (c, p) ← singletonToken; return .const p c),
    attributeName]
  let _ ← tok ":"
  return (key, ← g.pattern .pattern)

def doubleStarPattern : R String := do
  let _ ← tok "**"
  return (← captureName).1

def mappingPattern (g : Rules) : R Pattern :=
  alts [
    (do let t ← tok "\x7b"
        let _ ← tok "\x7d"
        return .mapping t.pos [] [] none),
    (do let t ← tok "\x7b"
        let rest ← doubleStarPattern
        let _ ← optional (tok ",")
        let _ ← tok "\x7d"
        return .mapping t.pos [] [] (some rest)),
    (do let t ← tok "\x7b"
        let items ← sepBy1 (keyValuePattern g) (tok ",")
        let _ ← tok ","
        let rest ← doubleStarPattern
        let _ ← optional (tok ",")
        let _ ← tok "\x7d"
        return .mapping t.pos (items.map (·.1)) (items.map (·.2)) (some rest)),
    (do let t ← tok "\x7b"
        let items ← sepBy1 (keyValuePattern g) (tok ",")
        let _ ← optional (tok ",")
        let _ ← tok "\x7d"
        return .mapping t.pos (items.map (·.1)) (items.map (·.2)) none)]

def positionalPatterns (g : Rules) : R (List Pattern) := sepBy1 (g.pattern .pattern) (tok ",")

def keywordPattern (g : Rules) : R (String × Pattern) := do
  let (n, _) ← nameToken
  let _ ← tok "="
  return (n, ← g.pattern .pattern)

def keywordPatterns (g : Rules) : R (List (String × Pattern)) := sepBy1 (keywordPattern g) (tok ",")

def invalidClassPattern (g : Rules) : R Unit := do
  let _ ← dottedName
  let _ ← tok "("
  let _ ← optional (do let _ ← positionalPatterns g; tok ",")
  let _ ← keywordPatterns g
  let _ ← tok ","
  let ps ← positionalPatterns g
  match ps with
  | p :: _ => raiseAt p.pos "positional patterns follow keyword patterns"
  | [] => miss

def classPattern (g : Rules) : R Pattern :=
  let close : R Unit := do
    let _ ← optional (tok ",")
    let _ ← tok ")"
  alts [
    (do let c ← dottedName
        let _ ← tok "("
        let _ ← tok ")"
        return .class c.pos c [] [] []),
    (do let c ← dottedName
        let _ ← tok "("
        let ps ← positionalPatterns g
        close
        return .class c.pos c ps [] []),
    (do let c ← dottedName
        let _ ← tok "("
        let ks ← keywordPatterns g
        close
        return .class c.pos c [] (ks.map (·.1)) (ks.map (·.2))),
    (do let c ← dottedName
        let _ ← tok "("
        let ps ← positionalPatterns g
        let _ ← tok ","
        let ks ← keywordPatterns g
        close
        return .class c.pos c ps (ks.map (·.1)) (ks.map (·.2))),
    reject (invalidClassPattern g)]

def closedPattern (g : Rules) : R Pattern :=
  alts [
    (do let e ← literalValue g; return .value e.pos e),
    (do let (c, p) ← singletonToken; return .singleton p c),
    (do let (n, p) ← captureName; return .as p none (some n)),
    (do let t ← softWord "_"; return .as t.pos none none),
    (do let e ← attributeName
        lookNot (opening [".", "(", "="])
        return .value e.pos e),
    (do let _ ← tok "("
        let p ← g.pattern .pattern
        let _ ← tok ")"
        return p),
    sequencePattern g,
    mappingPattern g,
    classPattern g]

def orPattern (g : Rules) : R Pattern := do
  let pos ← here
  let ps ← sepBy1 (g.pattern .closed) (tok "|")
  match ps with
  | [p] => return p
  | ps => return .or pos ps

def invalidAsPattern (g : Rules) : R Unit :=
  alts [
    (do let _ ← orPattern g
        let _ ← tok "as"
        let t ← softWord "_"
        raiseToken t "cannot use '_' as a target"),
    (do let _ ← orPattern g
        let _ ← tok "as"
        lookNot (kind .name)
        let e ← g.expr .expression
        raiseAt e.pos "invalid pattern target")]

def pattern (g : Rules) : R Pattern :=
  alts [
    (do let pos ← here
        let p ← orPattern g
        let _ ← tok "as"
        let (n, _) ← captureName
        return .as pos (some p) (some n)),
    reject (invalidAsPattern g),
    orPattern g]

def patterns (g : Rules) : R Pattern :=
  alts [
    (do let pos ← here
        return .sequence pos (← openSequence g)),
    g.pattern .pattern]

def patternRule (g : Rules) : PatternRule → R Pattern
  | .pattern => pattern g
  | .closed => closedPattern g

end Notebook.Grammar
