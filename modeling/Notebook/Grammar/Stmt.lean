import Notebook.Grammar.Pattern

set_option autoImplicit false

namespace Notebook.Grammar

open Notebook.Source Notebook.Tree P

def noBlock (what : String) (t : Token) : R Unit := do
  let _ ← newline
  lookNot (kind .indent)
  raiseLast ("expected an indented block after " ++ what ++ " on line " ++ toString t.line) .indentation

def expectedColon : R Unit := do
  let _ ← newline
  raiseLast "expected ':'"

/-! ### Simple statements -/

def augOperators : List (String × BinOp) :=
  [("+=", .add), ("-=", .sub), ("*=", .mul), ("@=", .matMul), ("/=", .div), ("%=", .mod),
   ("&=", .bitAnd), ("|=", .bitOr), ("^=", .bitXor), ("<<=", .shiftLeft), (">>=", .shiftRight),
   ("**=", .pow), ("//=", .floorDiv)]

def augOperator : R BinOp :=
  alts (augOperators.map fun (text, op) => do
    let _ ← tok text
    return op)

def rightSide (g : Rules) : R Expr := yieldExpr g <|> starExpressions g

def targetEquals (g : Rules) : R Expr := do
  let t ← starTargets g
  let _ ← tok "="
  return t

def invalidAssignment (g : Rules) : R Unit :=
  alts [
    (do let a ← g.expr .annotationFault
        let _ ← tok ":"
        let _ ← g.expr .expression
        raiseAt a.pos ("only single target (not " ++ exprName a ++ ") can be annotated")),
    (do let a ← g.expr .starNamedExpression
        let _ ← tok ","
        let _ ← many (starNamedExpressions g)
        let _ ← tok ":"
        let _ ← g.expr .expression
        raiseAt a.pos "only single target (not tuple) can be annotated"),
    (do let a ← g.expr .expression
        let _ ← tok ":"
        let _ ← g.expr .expression
        raiseAt a.pos "illegal target for annotation"),
    (do let _ ← many (targetEquals g)
        let a ← starExpressions g
        let _ ← tok "="
        raiseTarget .assign a),
    (do let _ ← many (targetEquals g)
        let a ← yieldExpr g
        let _ ← tok "="
        raiseAt a.pos "assignment to yield expression not possible"),
    (do let a ← starExpressions g
        let _ ← augOperator
        let _ ← rightSide g
        raiseAt a.pos ("'" ++ exprName a ++ "' is an illegal expression for augmented assignment"))]

def assignment (g : Rules) : R Stmt :=
  let value : R (Option Expr) := optional (do let _ ← tok "="; rightSide g)
  alts [
    (do let t ← nameExpr .store
        let _ ← tok ":"
        let a ← g.expr .expression
        return .annAssign t.pos t a (← value) true),
    (do let pos ← here
        let t ← alts [
          (do let _ ← tok "("
              let t ← g.expr .singleTarget
              let _ ← tok ")"
              return t),
          memberTarget g .store]
        let _ ← tok ":"
        let a ← g.expr .expression
        return .annAssign pos t a (← value) false),
    (do let pos ← here
        let ts ← many1 (targetEquals g)
        let v ← rightSide g
        lookNot (tok "=")
        return .assign pos ts v),
    (do let pos ← here
        let t ← g.expr .singleTarget
        let op ← augOperator
        commit
        return .augAssign pos t op (← rightSide g)),
    reject (invalidAssignment g)]

/-- Names of modules are no paths. -/
def moduleName (s : String) : R { s : String // isSlashless s } :=
  if h : isSlashless s then return ⟨s, h⟩ else miss

def dottedText : R { s : String // isSlashless s } := do
  let parts ← sepBy1 nameToken (tok ".")
  moduleName (".".intercalate (parts.map (·.1)))

def asName : R (Option String) := optional (do let _ ← tok "as"; return (← nameToken).1)

def dottedAsName : R Alias := do
  let pos ← here
  let ⟨name, slashless⟩ ← dottedText
  return { pos, name, asName := ← asName, slashless }

def importAsName : R Alias := do
  let (text, pos) ← nameToken
  let ⟨name, slashless⟩ ← moduleName text
  return { pos, name, asName := ← asName, slashless }

def importNames : R (List Alias) := sepBy1 importAsName (tok ",")

def importTargets : R (List Alias) :=
  alts [
    (do let _ ← tok "("
        let ns ← importNames
        let _ ← optional (tok ",")
        let _ ← tok ")"
        return ns),
    (do let ns ← importNames
        lookNot (tok ",")
        return ns),
    (do let t ← tok "*"
        return [{ pos := t.pos, name := "*", asName := none, slashless := by decide }]),
    reject (do
      let _ ← importNames
      let _ ← tok ","
      let _ ← newline
      raiseLast "trailing comma not allowed without surrounding parentheses")]

def importDots : R Nat :=
  (do let _ ← tok "."; return 1) <|> (do let _ ← tok "..."; return 3)

def importStmt : R Stmt :=
  alts [
    (do let t ← tok "import"
        return .import t.pos (← sepBy1 dottedAsName (tok ","))),
    (do let t ← tok "from"
        let dots ← many importDots
        let ⟨m, slashless⟩ ← dottedText
        let _ ← tok "import"
        return .importFrom t.pos (some m) (← importTargets) (dots.foldl (· + ·) 0) slashless),
    (do let t ← tok "from"
        let dots ← many1 importDots
        let _ ← tok "import"
        return .importFrom t.pos none (← importTargets) (dots.foldl (· + ·) 0) rfl)]

def raiseStmt (g : Rules) : R Stmt := do
  let t ← tok "raise"
  alts [
    (do let e ← g.expr .expression
        let cause ← optional (do let _ ← tok "from"; g.expr .expression)
        return .raise t.pos (some e) cause),
    pure (.raise t.pos none none)]

def delStmt (g : Rules) : R Stmt :=
  alts [
    (do let t ← tok "del"
        let es ← delTargets g
        look ((do let _ ← tok ";"; pure ()) <|> (do let _ ← newline; pure ()))
        return .delete t.pos es),
    reject (do
      let _ ← tok "del"
      let e ← starExpressions g
      raiseTarget .delete e)]

def nameList (word : String) (make : Pos → List String → Stmt) : R Stmt := do
  let t ← tok word
  let ns ← sepBy1 nameToken (tok ",")
  return make t.pos (ns.map (·.1))

def bareStmt (word : String) (make : Pos → Stmt) : R Stmt := do
  let t ← tok word
  return make t.pos

def simpleStmt (g : Rules) : R Stmt :=
  alts [
    assignment g,
    (do let pos ← here
        return .expr pos (← starExpressions g)),
    (do let t ← tok "return"; return .return t.pos (← optional (starExpressions g))),
    importStmt,
    raiseStmt g,
    bareStmt "pass" .pass,
    delStmt g,
    (do let e ← yieldExpr g; return .expr e.pos e),
    (do let t ← tok "assert"
        let e ← g.expr .expression
        let m ← optional (do let _ ← tok ","; g.expr .expression)
        return .assert t.pos e m),
    bareStmt "break" .break,
    bareStmt "continue" .continue,
    nameList "global" .global,
    nameList "nonlocal" .nonlocal]

def simpleStmts (g : Rules) : R (List Stmt) :=
  alts [
    (do let s ← simpleStmt g
        lookNot (tok ";")
        let _ ← newline
        return [s]),
    (do let ss ← sepBy1 (simpleStmt g) (tok ";")
        let _ ← optional (tok ";")
        let _ ← newline
        return ss)]

/-! ### Definitions -/

def decorators (g : Rules) : R (List Expr) :=
  many1 (do
    let _ ← tok "@"
    let e ← g.expr .namedExpression
    let _ ← newline
    return e)

def invalidDef (g : Rules) : R Unit := do
  let _ ← optional (tok "async")
  let t ← tok "def"
  let _ ← kind .name
  let _ ← tok "("
  let _ ← optional (params g functionStyle)
  let _ ← tok ")"
  let _ ← optional (do let _ ← tok "->"; g.expr .expression)
  let _ ← tok ":"
  noBlock "function definition" t

def functionDef (g : Rules) (decorators : List Expr) : R Stmt :=
  alts [
    reject (invalidDef g),
    (do let a ← optional (tok "async")
        let t ← tok "def"
        let (name, _) ← nameToken
        let _ ← must "("
        let ps ← optional (params g functionStyle)
        let _ ← tok ")"
        let returns ← optional (do let _ ← tok "->"; g.expr .expression)
        let _ ← must ":"
        let body ← g.block
        return .function (a.getD t).pos
          { isAsync := a.isSome, name, params := ps.getD {}, decorators, returns } body)]

def classArguments (g : Rules) : R (Option Arguments) := do
  let a ← optional (do
    let _ ← tok "("
    let a ← optional (arguments g)
    let _ ← tok ")"
    return a)
  return a.join

def invalidClass (g : Rules) : R Unit :=
  alts [
    (do let _ ← tok "class"
        let _ ← kind .name
        let _ ← classArguments g
        expectedColon),
    (do let t ← tok "class"
        let _ ← kind .name
        let _ ← classArguments g
        let _ ← tok ":"
        noBlock "class definition" t)]

def classDef (g : Rules) (decorators : List Expr) : R Stmt :=
  alts [
    reject (invalidClass g),
    (do let t ← tok "class"
        let (name, _) ← nameToken
        let a ← classArguments g
        let _ ← tok ":"
        let body ← g.block
        return .class t.pos
          { name, bases := (a.map (·.args)).getD [], keywords := (a.map (·.keywords)).getD [],
            decorators } body)]

def decorated (g : Rules) (definition : List Expr → R Stmt) : R Stmt :=
  alts [
    (do let ds ← decorators g; definition ds),
    definition []]

/-! ### Conditions and loops -/

def elseBlock (g : Rules) : R (List Stmt) :=
  alts [
    reject (do
      let t ← tok "else"
      let _ ← tok ":"
      noBlock "'else' statement" t),
    (do let _ ← tok "else"
        let _ ← must ":"
        g.block)]

def invalidTest (g : Rules) (word : String) : R Unit :=
  alts [
    (do let _ ← tok word
        let _ ← g.expr .namedExpression
        expectedColon),
    (do let t ← tok word
        let _ ← g.expr .namedExpression
        let _ ← tok ":"
        noBlock ("'" ++ word ++ "' statement") t)]

def branch (g : Rules) (word : String) : R (Pos × Expr × List Stmt) := do
  let t ← tok word
  let e ← g.expr .namedExpression
  let _ ← tok ":"
  return (t.pos, e, ← g.block)

/-- The branches after the first; each is a condition in the other branch of the one before. -/
def elifs (g : Rules) : Nat → R (List Stmt)
  | 0 => miss
  | fuel + 1 =>
    alts [
      reject (invalidTest g "elif"),
      (do let (pos, e, body) ← branch g "elif"
          let rest ← elifs g fuel
          return [.if pos e body rest]),
      (do let (pos, e, body) ← branch g "elif"
          let rest ← optional (elseBlock g)
          return [.if pos e body (rest.getD [])])]

def ifStmt (g : Rules) : R Stmt :=
  let more : R (List Stmt) := fun e s => elifs g (e.lexed.tokens.size + 1) e s
  alts [
    reject (invalidTest g "if"),
    (do let (pos, e, body) ← branch g "if"
        let rest ← more
        return .if pos e body rest),
    (do let (pos, e, body) ← branch g "if"
        let rest ← optional (elseBlock g)
        return .if pos e body (rest.getD []))]

def whileStmt (g : Rules) : R Stmt :=
  alts [
    reject (invalidTest g "while"),
    (do let (pos, e, body) ← branch g "while"
        let rest ← optional (elseBlock g)
        return .while pos e body (rest.getD []))]

def invalidFor (g : Rules) : R Unit :=
  let head : R Token := do
    let _ ← optional (tok "async")
    let t ← tok "for"
    let _ ← starTargets g
    let _ ← tok "in"
    let _ ← starExpressions g
    return t
  alts [
    (do let _ ← head; expectedColon),
    (do let t ← head
        let _ ← tok ":"
        noBlock "'for' statement" t)]

def forStmt (g : Rules) : R Stmt :=
  alts [
    reject (invalidFor g),
    (do let a ← optional (tok "async")
        let t ← tok "for"
        let target ← starTargets g
        let _ ← tok "in"
        commit
        let iter ← starExpressions g
        let _ ← tok ":"
        let body ← g.block
        let rest ← optional (elseBlock g)
        return .for (a.getD t).pos a.isSome target iter body (rest.getD [])),
    reject (invalidForTarget g)]

/-! ### Context managers -/

def withItem (g : Rules) : R WithItem :=
  alts [
    (do let e ← g.expr .expression
        let _ ← tok "as"
        let t ← g.expr .starTarget
        look (opening [",", ")", ":"])
        return { context := e, target := some t }),
    reject (do
      let _ ← g.expr .expression
      let _ ← tok "as"
      let t ← g.expr .expression
      look (opening [",", ")", ":"])
      raiseTarget .assign t),
    (do return { context := ← g.expr .expression, target := none })]

def asTarget (g : Rules) : R Unit := do
  let _ ← optional (do let _ ← tok "as"; g.expr .starTarget)

def bareItems (g : Rules) : R Unit := do
  let _ ← sepBy1 (do let _ ← g.expr .expression; asTarget g) (tok ",")

def bracketedItems (g : Rules) : R Unit := do
  let _ ← tok "("
  let _ ← sepBy1 (do let _ ← tupleOf (g.expr .expression) .load; asTarget g) (tok ",")
  let _ ← optional (tok ",")
  let _ ← tok ")"

def withWord : R Token := do
  let _ ← optional (tok "async")
  tok "with"

def invalidWithIndent (g : Rules) : R Unit :=
  alts ([bareItems g, bracketedItems g].map fun items => do
    let t ← withWord
    items
    let _ ← tok ":"
    noBlock "'with' statement" t)

def invalidWith (g : Rules) : R Unit :=
  alts ([bareItems g, bracketedItems g].map fun items => do
    let _ ← withWord
    items
    expectedColon)

def withStmt (g : Rules) : R Stmt :=
  let bracketed : R (List WithItem) := do
    let _ ← tok "("
    let items ← sepBy1 (withItem g) (tok ",")
    let _ ← optional (tok ",")
    let _ ← tok ")"
    return items
  let body (items : R (List WithItem)) : R Stmt := do
    let a ← optional (tok "async")
    let t ← tok "with"
    let items ← items
    let _ ← tok ":"
    return .with (a.getD t).pos a.isSome items (← g.block)
  alts [
    reject (invalidWithIndent g),
    body bracketed,
    body (sepBy1 (withItem g) (tok ",")),
    reject (invalidWith g)]

/-! ### Exceptions -/

def asBinding : R (Option String) := optional (do let _ ← tok "as"; return (← nameToken).1)

def invalidExceptIndent (g : Rules) : R Unit :=
  alts [
    (do let t ← tok "except"
        let _ ← g.expr .expression
        let _ ← asBinding
        let _ ← tok ":"
        noBlock "'except' statement" t),
    (do let t ← tok "except"
        let _ ← tok ":"
        noBlock "'except' statement" t)]

def invalidExceptStarIndent (g : Rules) : R Unit := do
  let t ← tok "except"
  let _ ← tok "*"
  let _ ← g.expr .expression
  let _ ← asBinding
  let _ ← tok ":"
  noBlock "'except*' statement" t

def invalidExcept (g : Rules) : R Unit :=
  alts [
    (do let _ ← tok "except"
        let _ ← optional (tok "*")
        let e ← g.expr .expression
        let _ ← tok ","
        let _ ← tupleOf (g.expr .expression) .load
        let _ ← asBinding
        let _ ← tok ":"
        raiseAt e.pos "multiple exception types must be parenthesized"),
    (do let _ ← tok "except"
        let _ ← optional (tok "*")
        let _ ← g.expr .expression
        let _ ← asBinding
        expectedColon),
    (do let _ ← tok "except"
        expectedColon),
    (do let _ ← tok "except"
        let _ ← tok "*"
        let _ ← newline <|> tok ":"
        raiseLast "expected one or more exception types")]

def exceptBlock (g : Rules) : R (Handler (List Stmt)) :=
  alts [
    reject (invalidExceptIndent g),
    (do let t ← tok "except"
        let e ← g.expr .expression
        let name ← asBinding
        let _ ← tok ":"
        return { pos := t.pos, type := some e, name, body := ← g.block }),
    (do let t ← tok "except"
        let _ ← tok ":"
        return { pos := t.pos, type := none, name := none, body := ← g.block }),
    reject (invalidExcept g)]

def exceptStarBlock (g : Rules) : R (Handler (List Stmt)) :=
  alts [
    reject (invalidExceptStarIndent g),
    (do let t ← tok "except"
        let _ ← tok "*"
        let e ← g.expr .expression
        let name ← asBinding
        let _ ← tok ":"
        return { pos := t.pos, type := some e, name, body := ← g.block }),
    reject (invalidExcept g)]

def finallyBlock (g : Rules) : R (List Stmt) :=
  alts [
    reject (do
      let t ← tok "finally"
      let _ ← tok ":"
      noBlock "'finally' statement" t),
    (do let _ ← tok "finally"
        let _ ← must ":"
        g.block)]

def mixedHandlers : String := "cannot have both 'except' and 'except*' on the same 'try'"

def invalidTry (g : Rules) : R Unit :=
  alts [
    (do let t ← tok "try"
        let _ ← tok ":"
        noBlock "'try' statement" t),
    (do let _ ← tok "try"
        let _ ← tok ":"
        let _ ← g.block
        lookNot (tok "except" <|> tok "finally")
        raiseLast "expected 'except' or 'finally' block"),
    (do let _ ← tok "try"
        let _ ← tok ":"
        let _ ← many g.block
        let _ ← many1 (exceptBlock g)
        let t ← tok "except"
        let _ ← tok "*"
        let _ ← g.expr .expression
        let _ ← asBinding
        let _ ← tok ":"
        raiseToken t mixedHandlers),
    (do let _ ← tok "try"
        let _ ← tok ":"
        let _ ← many g.block
        let _ ← many1 (exceptStarBlock g)
        let t ← tok "except"
        let _ ← optional (do let _ ← g.expr .expression; asBinding)
        let _ ← tok ":"
        raiseToken t mixedHandlers)]

def tryStmt (g : Rules) : R Stmt :=
  let handled (isStar : Bool) (handler : R (Handler (List Stmt))) : R Stmt := do
    let t ← tok "try"
    let _ ← must ":"
    let body ← g.block
    let hs ← many1 handler
    let rest ← optional (elseBlock g)
    let final ← optional (finallyBlock g)
    return .try t.pos isStar body hs (rest.getD []) (final.getD [])
  alts [
    reject (invalidTry g),
    (do let t ← tok "try"
        let _ ← must ":"
        let body ← g.block
        return .try t.pos false body [] [] (← finallyBlock g)),
    handled false (exceptBlock g),
    handled true (exceptStarBlock g)]

/-! ### Matching -/

def subject (g : Rules) : R Expr :=
  alts [
    (do let pos ← here
        let e ← g.expr .starNamedExpression
        let _ ← tok ","
        let es ← optional (starNamedExpressions g)
        return .tuple pos (e :: es.getD []) .load),
    g.expr .namedExpression]

def guard (g : Rules) : R Expr := do
  let _ ← tok "if"
  g.expr .namedExpression

def invalidCase (g : Rules) : R Unit :=
  alts [
    (do let _ ← softWord "case"
        let _ ← patterns g
        let _ ← optional (guard g)
        expectedColon),
    (do let t ← softWord "case"
        let _ ← patterns g
        let _ ← optional (guard g)
        let _ ← tok ":"
        noBlock "'case' statement" t)]

def caseBlock (g : Rules) : R (MatchCase (List Stmt)) :=
  alts [
    reject (invalidCase g),
    (do let _ ← softWord "case"
        let pattern ← patterns g
        let guard ← optional (guard g)
        let _ ← tok ":"
        return { pattern, guard, body := ← g.block })]

def matchStmt (g : Rules) : R Stmt :=
  alts [
    (do let t ← softWord "match"
        let e ← subject g
        let _ ← tok ":"
        let _ ← newline
        let _ ← kind .indent
        let cases ← many1 (caseBlock g)
        let _ ← kind .dedent
        return .match t.pos e cases),
    reject (alts [
      (do let _ ← softWord "match"
          let _ ← subject g
          expectedColon),
      (do let t ← softWord "match"
          let _ ← subject g
          let _ ← tok ":"
          noBlock "'match' statement" t)])]

/-! ### Blocks -/

def onWords (words : List String) (p : R Stmt) : R Stmt := do
  look (opening words)
  p

def compoundStmt (g : Rules) : R Stmt :=
  alts [
    onWords ["def", "@", "async"] (decorated g (functionDef g)),
    onWords ["if"] (ifStmt g),
    onWords ["class", "@"] (decorated g (classDef g)),
    onWords ["with", "async"] (withStmt g),
    onWords ["for", "async"] (forStmt g),
    onWords ["try"] (tryStmt g),
    onWords ["while"] (whileStmt g),
    matchStmt g]

def statement (g : Rules) : R (List Stmt) :=
  (do return [← compoundStmt g]) <|> simpleStmts g

def statements (g : Rules) : R (List Stmt) := do
  return (← many1 (statement g)).flatten

def blockRule (g : Rules) : R (List Stmt) :=
  alts [
    (do let _ ← newline
        let _ ← kind .indent
        let ss ← statements g
        let _ ← kind .dedent
        return ss),
    simpleStmts g,
    reject (do
      let _ ← newline
      lookNot (kind .indent)
      raiseLast "expected an indented block" .indentation)]

/-- A whole text. -/
def file (g : Rules) : R (List Stmt) := do
  let ss ← optional (statements g)
  let _ ← kind .finish
  return ss.getD []

end Notebook.Grammar
