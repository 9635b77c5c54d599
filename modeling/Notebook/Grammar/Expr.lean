import Notebook.Grammar.Format
import Notebook.Grammar.Target
import Notebook.Text.Normal

set_option autoImplicit false

namespace Notebook.Grammar

open Notebook.Source Notebook.Tree P

/-! ### Names and literals -/

def nameToken : R (String × Pos) := do
  let t ← kind .name
  return (Text.Normal.name t.text, t.pos)

def nameExpr (ctx : Ctx) : R Expr := do
  let (id, pos) ← nameToken
  return .name pos id ctx

def numberExpr : R Expr := do
  let t ← kind .number
  match Literal.number t.text with
  | .ok c => return .const t.pos c
  | .error digits =>
    raiseFault
      { message := "Exceeds the limit (4300 digits) for integer string conversion: value has " ++
          toString digits ++ " digits; use sys.set_int_max_str_digits() to increase the limit" ++
          " - Consider hexadecimal for huge integer literals to avoid decimal conversion limits."
        line := t.line, offset := 0 }

def joinBytes : List Token → List UInt8 → R (List UInt8)
  | [], acc => return acc
  | t :: ts, acc => do
    let q := Literal.quoted t.text
    match Literal.bytesOf q.isRaw q.body with
    | .error m => raiseLast m
    | .ok bs =>
      if q.isBytes then joinBytes ts (acc ++ bs)
      else raiseLast "cannot mix bytes and nonbytes literals"

def joinText (g : Rules) (pos : Pos) (marked : Bool) :
    List Token → Bool → Format.Pieces → R (Bool × Format.Pieces)
  | [], format, ps => return (format, ps)
  | t :: ts, format, ps => do
    let q := Literal.quoted t.text
    if q.isBytes then
      match Literal.bytesOf q.isRaw q.body with
      | .error m => raiseLast m
      | .ok _ => raiseLast "cannot mix bytes and nonbytes literals"
    else if q.isFormat then
      let r : Format.Reader := { pos, token := t.pos, raw := q.isRaw, marked, embed := g.embed }
      let start : Format.Place := ⟨(t.text.toList.take q.lead).reverse, q.body⟩
      match Format.pieces r (q.body.length + 2) 0 start ps with
      | .ok (ps, _) => joinText g pos marked ts true ps
      | .error (.message m) => raiseLast m
      | .error (.fault f) => raiseFault f
    else
      match Literal.textOf q.isRaw q.body with
      | .error m => raiseLast m
      | .ok cs => joinText g pos marked ts format (ps.addText cs)

def strings (g : Rules) : R Expr := do
  let ts ← many1 (kind .string)
  match ts with
  | [] => miss
  | t :: _ =>
    let q := Literal.quoted t.text
    if q.isBytes then return .const t.pos (.bytes (← joinBytes ts []))
    else
      let (format, ps) ← joinText g t.pos q.isMarked ts false {}
      let r : Format.Reader :=
        { pos := t.pos, token := t.pos, raw := false, marked := q.isMarked, embed := g.embed }
      if format then return ps.finish r
      else return Format.textNode r (ps.pending.getD [])

/-! ### Clauses and comprehensions -/

def tupleOf (p : R Expr) (ctx : Ctx) : R Expr := do
  let pos ← here
  let first ← p
  let more ← many (do let _ ← tok ","; p)
  let comma ← optional (tok ",")
  if more.isEmpty && comma.isNone then return first
  else return .tuple pos (first :: more) ctx

def starExpressions (g : Rules) : R Expr := tupleOf (g.expr .starExpression) .load

def starTargets (g : Rules) : R Expr := tupleOf (g.expr .starTarget) .store

def yieldExpr (g : Rules) : R Expr := do
  let t ← tok "yield"
  (do let _ ← tok "from"
      return .yieldFrom t.pos (← g.expr .expression)) <|>
    (do return .yield t.pos (← optional (starExpressions g)))

def starNamedExpressions (g : Rules) : R (List Expr) := do
  let es ← sepBy1 (g.expr .starNamedExpression) (tok ",")
  let _ ← optional (tok ",")
  return es

def starredExpression (g : Rules) : R Expr := do
  let t ← tok "*"
  return .starred t.pos (← g.expr .expression) .load

def invalidForTarget (g : Rules) : R Unit := do
  let _ ← optional (tok "async")
  let _ ← tok "for"
  let e ← starExpressions g
  raiseTarget .loop e

def forIfClause (g : Rules) : R (Clause Expr) :=
  alts [
    (do let isAsync := (← optional (tok "async")).isSome
        let _ ← tok "for"
        let target ← starTargets g
        let _ ← tok "in"
        commit
        let iter ← g.expr .disjunction
        let conditions ← many (do let _ ← tok "if"; g.expr .disjunction)
        return { target, iter, conditions, isAsync }),
    reject (invalidForTarget g)]

def forIfClauses (g : Rules) : R (List (Clause Expr)) := many1 (forIfClause g)

def assignmentExpression (g : Rules) : R Expr :=
  alts [do
    let target ← nameExpr .store
    let _ ← tok ":="
    commit
    return .named target.pos target (← g.expr .expression)]

/-- An argument or element that an assignment expression may stand in for without parentheses. -/
def plainOrNamed (g : Rules) : R Expr :=
  assignmentExpression g <|> (do
    let e ← g.expr .expression
    lookNot (tok ":=")
    return e)

def opening (marks : List String) : R Token := alts (marks.map tok)

def invalidComprehension (g : Rules) : R Unit :=
  alts [
    (do let _ ← opening ["[", "(", "\x7b"]
        let e ← starredExpression g
        let _ ← forIfClauses g
        raiseAt e.pos "iterable unpacking cannot be used in comprehension"),
    (do let _ ← opening ["[", "\x7b"]
        let e ← g.expr .starNamedExpression
        let _ ← tok ","
        let _ ← starNamedExpressions g
        let _ ← forIfClauses g
        raiseAt e.pos "did you forget parentheses around the comprehension target?"),
    (do let _ ← opening ["[", "\x7b"]
        let e ← g.expr .starNamedExpression
        let _ ← tok ","
        let _ ← forIfClauses g
        raiseAt e.pos "did you forget parentheses around the comprehension target?")]

def comprehension (g : Rules) (open_ close : String) (k : CompKind) (elt : R Expr) : R Expr :=
  alts [
    (do let t ← tok open_
        let e ← elt
        let cs ← forIfClauses g
        let _ ← tok close
        return .comp t.pos k e cs),
    reject (invalidComprehension g)]

def listComp (g : Rules) : R Expr := comprehension g "[" "]" .list (g.expr .namedExpression)

def setComp (g : Rules) : R Expr := comprehension g "\x7b" "\x7d" .set (g.expr .namedExpression)

def genExp (g : Rules) : R Expr := comprehension g "(" ")" .generator (plainOrNamed g)

/-! ### Displays -/

def listDisplay (g : Rules) : R Expr := do
  let t ← tok "["
  let es ← optional (starNamedExpressions g)
  let _ ← tok "]"
  return .list t.pos (es.getD []) .load

def tupleDisplay (g : Rules) : R Expr := do
  let t ← tok "("
  let es ← optional (do
    let e ← g.expr .starNamedExpression
    let _ ← tok ","
    let more ← optional (starNamedExpressions g)
    return e :: more.getD [])
  let _ ← tok ")"
  return .tuple t.pos (es.getD []) .load

def setDisplay (g : Rules) : R Expr := do
  let t ← tok "\x7b"
  let es ← starNamedExpressions g
  let _ ← tok "\x7d"
  return .set t.pos es

def keyValue (g : Rules) : R (Expr × Expr) := do
  let k ← g.expr .expression
  let _ ← tok ":"
  return (k, ← g.expr .expression)

def dictEntry (g : Rules) : R (Entry Expr) :=
  alts [
    (do let _ ← tok "**"
        return { key := none, value := ← g.expr .bitwiseOr }),
    (do let (k, v) ← keyValue g
        return { key := some k, value := v })]

def starredValueFault (g : Rules) : R Unit := do
  let _ ← g.expr .expression
  let _ ← tok ":"
  let t ← tok "*"
  let _ ← g.expr .bitwiseOr
  raiseToken t "cannot use a starred expression in a dictionary value"

def missingValueFault (g : Rules) : R Unit := do
  let _ ← g.expr .expression
  let t ← tok ":"
  look (tok "\x7d" <|> tok ",")
  raiseToken t "expression expected after dictionary key and ':'"

def invalidKeyValue (g : Rules) : R Unit :=
  alts [
    (do let e ← g.expr .expression
        let last ← previous
        lookNot (tok ":")
        raiseWith .malformed e.pos.line last.endCol "':' expected after dictionary key"),
    starredValueFault g,
    missingValueFault g]

def invalidEntries (g : Rules) : R Unit :=
  alts [
    (do let _ ← sepBy1 (dictEntry g) (tok ",")
        let _ ← tok ","
        invalidKeyValue g),
    starredValueFault g,
    missingValueFault g]

def dictDisplay (g : Rules) : R Expr :=
  alts [
    (do let t ← tok "\x7b"
        let es ← optional (do
          let es ← sepBy1 (dictEntry g) (tok ",")
          let _ ← optional (tok ",")
          return es)
        let _ ← tok "\x7d"
        return .dict t.pos (es.getD [])),
    reject (do
      let _ ← tok "\x7b"
      invalidEntries g)]

def dictComp (g : Rules) : R Expr :=
  alts [
    (do let t ← tok "\x7b"
        let (k, v) ← keyValue g
        let cs ← forIfClauses g
        let _ ← tok "\x7d"
        return .dictComp t.pos k v cs),
    reject (do
      let _ ← tok "\x7b"
      let t ← tok "**"
      let _ ← g.expr .bitwiseOr
      let _ ← forIfClauses g
      let _ ← tok "\x7d"
      raiseToken t "dict unpacking cannot be used in dict comprehension")]

def group (g : Rules) : R Expr :=
  alts [
    (do let _ ← tok "("
        let e ← yieldExpr g <|> g.expr .namedExpression
        let _ ← tok ")"
        return e),
    reject (alts [
      (do let _ ← tok "("
          let e ← starredExpression g
          let _ ← tok ")"
          raiseAt e.pos "cannot use starred expression here"),
      (do let _ ← tok "("
          let t ← tok "**"
          let _ ← g.expr .expression
          let _ ← tok ")"
          raiseToken t "cannot use double starred expression here")])]

def constant (text : String) (c : Constant) : R Expr := do
  let t ← tok text
  return .const t.pos c

def atom (g : Rules) : R Expr :=
  alts [
    nameExpr .load,
    constant "True" (.bool true),
    constant "False" (.bool false),
    constant "None" .none,
    (do look (kind .string); g.expr .strings),
    numberExpr,
    (do look (tok "("); alts [tupleDisplay g, g.expr .group, genExp g]),
    (do look (tok "["); alts [listDisplay g, listComp g]),
    (do look (tok "\x7b"); alts [dictDisplay g, setDisplay g, dictComp g, setComp g]),
    constant "..." .ellipsis]

/-! ### Calls -/

structure Arguments where
  pos : Pos
  args : List Expr := []
  keywords : List (Keyword Expr) := []

inductive KeywordOrStarred where
  | keyword (k : Keyword Expr)
  | starred (e : Expr)

def KeywordOrStarred.keyword? : KeywordOrStarred → Option (Keyword Expr)
  | .keyword k => some k
  | .starred _ => none

def KeywordOrStarred.starred? : KeywordOrStarred → Option Expr
  | .keyword _ => none
  | .starred e => some e

def comparisonHint : String := "invalid syntax. Maybe you meant '==' or ':=' instead of '='?"

def invalidKeyword (g : Rules) : R Unit :=
  alts [
    (do let t ← opening ["True", "False", "None"]
        let _ ← tok "="
        raiseToken t ("cannot assign to " ++ t.text)),
    (do let e ← nameExpr .load
        let _ ← tok "="
        let _ ← g.expr .expression
        let _ ← forIfClauses g
        raiseAt e.pos comparisonHint),
    (do lookNot (do let _ ← kind .name; tok "=")
        let e ← g.expr .expression
        let _ ← tok "="
        raiseAt e.pos "expression cannot contain assignment, perhaps you meant \"==\"?")]

def namedArgument (g : Rules) : R KeywordOrStarred := do
  let (name, pos) ← nameToken
  let _ ← tok "="
  return .keyword { pos, name := some name, value := ← g.expr .expression }

def keywordOrStarred (g : Rules) : R KeywordOrStarred :=
  alts [
    reject (invalidKeyword g),
    namedArgument g,
    (do return .starred (← starredExpression g))]

def keywordOrDoubleStarred (g : Rules) : R KeywordOrStarred :=
  alts [
    reject (invalidKeyword g),
    namedArgument g,
    (do let t ← tok "**"
        return .keyword { pos := t.pos, name := none, value := ← g.expr .expression })]

def keywordArguments (g : Rules) : R (List KeywordOrStarred) :=
  alts [
    (do let a ← sepBy1 (keywordOrStarred g) (tok ",")
        let _ ← tok ","
        let b ← sepBy1 (keywordOrDoubleStarred g) (tok ",")
        return a ++ b),
    sepBy1 (keywordOrStarred g) (tok ","),
    sepBy1 (keywordOrDoubleStarred g) (tok ",")]

def args (g : Rules) : R Arguments :=
  alts [
    (do let pos ← here
        let a ← sepBy1 (starredExpression g <|> (do
          let e ← plainOrNamed g
          lookNot (tok "=")
          return e)) (tok ",")
        let b ← optional (do let _ ← tok ","; keywordArguments g)
        let b := b.getD []
        return { pos, args := a ++ b.filterMap (·.starred?), keywords := b.filterMap (·.keyword?) }),
    (do let pos ← here
        let b ← keywordArguments g
        return { pos, args := b.filterMap (·.starred?), keywords := b.filterMap (·.keyword?) })]

def needsParentheses : String := "Generator expression must be parenthesized"

def invalidArguments (g : Rules) : R Unit :=
  alts [
    (do let a ← args g
        let _ ← tok ","
        let _ ← tok "*"
        raiseAt a.pos "iterable argument unpacking follows keyword argument unpacking"),
    (do let e ← g.expr .expression
        let _ ← forIfClauses g
        let _ ← tok ","
        let _ ← optional ((do let _ ← args g; pure ()) <|>
          (do let _ ← g.expr .expression; let _ ← forIfClauses g; pure ()))
        raiseAt e.pos needsParentheses),
    (do let e ← nameExpr .load
        let _ ← tok "="
        let _ ← g.expr .expression
        let _ ← forIfClauses g
        raiseAt e.pos comparisonHint),
    (do let a ← args g
        let _ ← forIfClauses g
        match a.args with
        | _ :: _ :: _ => raiseAt (a.args.getLast?.getD default).pos needsParentheses
        | _ => miss),
    (do let _ ← args g
        let _ ← tok ","
        let e ← g.expr .expression
        let _ ← forIfClauses g
        raiseAt e.pos needsParentheses),
    (do let a ← args g
        let _ ← tok ","
        let _ ← args g
        if a.keywords.any fun k => k.name.isNone then
          raiseLast "positional argument follows keyword argument unpacking"
        else raiseLast "positional argument follows keyword argument")]

def arguments (g : Rules) : R Arguments :=
  alts [
    (do let a ← args g
        let _ ← optional (tok ",")
        look (tok ")")
        return a),
    reject (invalidArguments g)]

/-! ### Subscripts and primaries -/

def slice (g : Rules) : R Expr :=
  alts [
    (do let pos ← here
        let lower ← optional (g.expr .expression)
        let _ ← tok ":"
        let upper ← optional (g.expr .expression)
        let step ← optional (do let _ ← tok ":"; optional (g.expr .expression))
        return .slice pos lower upper step.join),
    g.expr .namedExpression]

def slices (g : Rules) : R Expr :=
  alts [
    (do let e ← slice g
        lookNot (tok ",")
        return e),
    (do let pos ← here
        let es ← sepBy1 (slice g <|> starredExpression g) (tok ",")
        let _ ← optional (tok ",")
        return .tuple pos es .load)]

/-- One step from an expression to an attribute, item or call of it; what is made starts at `pos`.
-/
def primaryStep (g : Rules) (pos : Pos) (e : Expr) : R Expr :=
  alts [
    (do let _ ← tok "."
        let (attr, attrPos) ← nameToken
        return .attribute pos e attr attrPos .load),
    (do let a ← genExp g
        return .call pos e [a] []),
    (do let _ ← tok "("
        let a ← optional (arguments g)
        let _ ← tok ")"
        match a with
        | some a => return .call pos e a.args a.keywords
        | none => return .call pos e [] []),
    (do let _ ← tok "["
        let i ← slices g
        let _ ← tok "]"
        return .subscript pos e i .load)]

/-- Repeats a step as long as it succeeds; every step uses up tokens. -/
def grow (step : Expr → R Expr) : Nat → Expr → R Expr
  | 0, e => return e
  | fuel + 1, e => do
    match ← optional (step e) with
    | some e => grow step fuel e
    | none => return e

def growAll (step : Expr → R Expr) (e : Expr) : R Expr := fun env s =>
  grow step (env.lexed.tokens.size + 1) e env s

def primary (g : Rules) : R Expr := do
  let pos ← here
  growAll (primaryStep g pos) (← atom g)

/-! ### Operators -/

def awaitPrimary (g : Rules) : R Expr :=
  alts [
    (do let t ← tok "await"
        return .await t.pos (← g.expr .primary)),
    g.expr .primary]

def power (g : Rules) : R Expr :=
  alts [
    (do let pos ← here
        let a ← g.expr .awaitPrimary
        let _ ← tok "**"
        return .binOp pos a .pow (← g.expr .factor)),
    g.expr .awaitPrimary]

def prefixed (g : Rules) (text : String) (op : UnaryOp) (r : ExprRule) : R Expr := do
  let t ← tok text
  return .unaryOp t.pos op (← g.expr r)

def factor (g : Rules) : R Expr :=
  alts [
    prefixed g "+" .plus .factor,
    prefixed g "-" .minus .factor,
    prefixed g "~" .invert .factor,
    power g]

def leftAssoc (g : Rules) (operand : ExprRule) (ops : List (String × BinOp)) : R Expr := do
  let pos ← here
  let first ← g.expr operand
  growAll (fun l => alts (ops.map fun (text, op) => do
    let _ ← tok text
    return .binOp pos l op (← g.expr operand))) first

def comparisonOperator : R CmpOp :=
  alts [
    (do let _ ← tok "=="; return .eq),
    (do let _ ← tok "!="; return .notEq),
    (do let _ ← tok "<="; return .ltE),
    (do let _ ← tok "<"; return .lt),
    (do let _ ← tok ">="; return .gtE),
    (do let _ ← tok ">"; return .gt),
    (do let _ ← tok "not"; let _ ← tok "in"; return .notIn),
    (do let _ ← tok "in"; return .in),
    (do let _ ← tok "is"; let _ ← tok "not"; return .isNot),
    (do let _ ← tok "is"; return .is)]

def comparisonPair (g : Rules) : R (CmpOp × Expr) := do
  let op ← comparisonOperator
  return (op, ← g.expr .bitwiseOr)

def comparison (g : Rules) : R Expr := do
  let pos ← here
  let left ← g.expr .bitwiseOr
  let pairs ← many (comparisonPair g)
  if pairs.isEmpty then return left
  else return .compare pos left (pairs.map (·.1)) (pairs.map (·.2))

def inversion (g : Rules) : R Expr :=
  alts [prefixed g "not" .not .inversion, comparison g]

def junction (g : Rules) (operand : ExprRule) (word : String) (op : BoolOp) : R Expr := do
  let pos ← here
  let first ← g.expr operand
  let more ← many (do let _ ← tok word; g.expr operand)
  if more.isEmpty then return first else return .boolOp pos op (first :: more)

/-! ### Parameters of anonymous functions and of definitions -/

/-- How parameters are written: what closes the list, and whether they may be annotated. -/
structure ParamStyle where
  close : String
  annotated : Bool
  parenthesized : String

def lambdaStyle : ParamStyle := ⟨":", false, "Lambda expression parameters cannot be parenthesized"⟩

def functionStyle : ParamStyle := ⟨")", true, "Function parameters cannot be parenthesized"⟩

def starExpression (g : Rules) : R Expr :=
  alts [
    (do let t ← tok "*"
        return .starred t.pos (← g.expr .bitwiseOr) .load),
    g.expr .expression]

def param (g : Rules) (st : ParamStyle) : R (Param Expr) := do
  let (name, pos) ← nameToken
  let annotation ←
    if st.annotated then optional (do let _ ← tok ":"; g.expr .expression) else pure none
  return { pos, name, annotation, default := none }

def paramEnd (st : ParamStyle) : R Unit :=
  (do let _ ← tok ","; pure ()) <|> look (tok st.close)

def paramPlain (g : Rules) (st : ParamStyle) : R (Param Expr) := do
  let p ← param g st
  paramEnd st
  return p

def paramStarAnnotated (g : Rules) (st : ParamStyle) : R (Param Expr) := do
  if !st.annotated then miss
  let (name, pos) ← nameToken
  let _ ← tok ":"
  let annotation ← g.expr .starExpression
  paramEnd st
  return { pos, name, annotation := some annotation, default := none }

def defaultValue (g : Rules) : R Expr :=
  alts [
    (do let _ ← tok "="; g.expr .expression),
    reject (do
      let t ← tok "="
      look (tok ")" <|> tok ",")
      raiseToken t "expected default value expression")]

def paramDefault (g : Rules) (st : ParamStyle) : R (Param Expr) := do
  let p ← param g st
  let d ← defaultValue g
  paramEnd st
  return { p with default := some d }

def paramMaybe (g : Rules) (st : ParamStyle) : R (Param Expr) := do
  let p ← param g st
  let d ← optional (defaultValue g)
  paramEnd st
  return { p with default := d }

def invalidKwds (g : Rules) (st : ParamStyle) : R Unit :=
  alts [
    (do let _ ← tok "**"
        let _ ← param g st
        let t ← tok "="
        raiseToken t "var-keyword argument cannot have default value"),
    (do let _ ← tok "**"
        let _ ← param g st
        let _ ← tok ","
        let p ← param g st
        raiseAt p.pos "arguments cannot follow var-keyword argument"),
    (do let _ ← tok "**"
        let _ ← param g st
        let _ ← tok ","
        let t ← opening ["*", "**", "/"]
        raiseToken t "arguments cannot follow var-keyword argument")]

def kwds (g : Rules) (st : ParamStyle) : R (Param Expr) :=
  alts [
    reject (invalidKwds g st),
    (do let _ ← tok "**"; paramPlain g st)]

def invalidStarEtc (g : Rules) (st : ParamStyle) : R Unit :=
  alts [
    (do let t ← tok "*"
        let _ ← alts [tok st.close, (do let _ ← tok ","; tok st.close <|> tok "**")]
        let message := "named arguments must follow bare *"
        if st.annotated then raiseToken t message else raiseLast message),
    (do let _ ← tok "*"
        let _ ← param g st
        let t ← tok "="
        raiseToken t "var-positional argument cannot have default value"),
    (do let _ ← tok "*"
        let _ ← (do let _ ← paramPlain g st; pure ()) <|> (do let _ ← tok ","; pure ())
        let _ ← many (paramMaybe g st)
        let t ← tok "*"
        let _ ← (do let _ ← paramPlain g st; pure ()) <|> (do let _ ← tok ","; pure ())
        raiseToken t "* argument may appear only once")]

def starEtc (g : Rules) (st : ParamStyle) : R (Params Expr) :=
  alts [
    reject (invalidStarEtc g st),
    (do let _ ← tok "*"
        let p ← paramPlain g st
        let ks ← many (paramMaybe g st)
        let k ← optional (kwds g st)
        return { star := some p, keyword := ks, doubleStar := k }),
    (do let _ ← tok "*"
        let p ← paramStarAnnotated g st
        let ks ← many (paramMaybe g st)
        let k ← optional (kwds g st)
        return { star := some p, keyword := ks, doubleStar := k }),
    (do let _ ← tok "*"
        let _ ← tok ","
        let ks ← many1 (paramMaybe g st)
        let k ← optional (kwds g st)
        return { keyword := ks, doubleStar := k }),
    (do return { doubleStar := some (← kwds g st) })]

def slash (st : ParamStyle) : R Unit := do
  let _ ← tok "/"
  paramEnd st

def slashPlain (g : Rules) (st : ParamStyle) : R (List (Param Expr)) := do
  let ps ← many1 (paramPlain g st)
  slash st
  return ps

def slashDefault (g : Rules) (st : ParamStyle) : R (List (Param Expr)) := do
  let ps ← many (paramPlain g st)
  let ds ← many1 (paramDefault g st)
  slash st
  return ps ++ ds

def starEtcOr (g : Rules) (st : ParamStyle) (positional plain : List (Param Expr)) :
    R (Params Expr) := do
  let rest ← optional (starEtc g st)
  return { rest.getD {} with positional, plain }

def parameters (g : Rules) (st : ParamStyle) : R (Params Expr) :=
  alts [
    (do let a ← slashPlain g st
        let b ← many (paramPlain g st)
        let c ← many (paramDefault g st)
        starEtcOr g st a (b ++ c)),
    (do let a ← slashDefault g st
        let b ← many (paramDefault g st)
        starEtcOr g st a b),
    (do let a ← many1 (paramPlain g st)
        let b ← many (paramDefault g st)
        starEtcOr g st [] (a ++ b)),
    (do let a ← many1 (paramDefault g st)
        starEtcOr g st [] a),
    starEtc g st]

def invalidParameters (g : Rules) (st : ParamStyle) : R Unit :=
  let anySlash : R Unit :=
    (do let _ ← slashPlain g st; pure ()) <|> (do let _ ← slashDefault g st; pure ())
  alts [
    (do let _ ← many (paramPlain g st)
        let _ ← (do let _ ← slashDefault g st; pure ()) <|>
          (do let _ ← many1 (paramDefault g st); pure ())
        let p ← paramPlain g st
        raiseAt p.pos "non-default argument follows default argument"),
    (do let _ ← many (paramPlain g st)
        let t ← tok "("
        let _ ← if st.annotated then (do let _ ← many1 (paramPlain g st); pure ())
          else (do let _ ← sepBy1 (param g st) (tok ","); pure ())
        let _ ← optional (tok ",")
        let _ ← tok ")"
        raiseToken t st.parenthesized),
    (do let t ← tok "/"
        let _ ← tok ","
        raiseToken t "at least one argument must precede /"),
    (do anySlash
        let _ ← many (paramMaybe g st)
        let t ← tok "/"
        raiseToken t "/ may appear only once"),
    (do let _ ← optional anySlash
        let _ ← many (paramMaybe g st)
        let _ ← tok "*"
        let _ ← (do let _ ← tok ","; pure ()) <|> (do let _ ← paramPlain g st; pure ())
        let _ ← many (paramMaybe g st)
        let t ← tok "/"
        raiseToken t "/ must be ahead of *"),
    (do let _ ← many1 (paramMaybe g st)
        let _ ← tok "/"
        let t ← tok "*"
        raiseToken t "expected comma between / and *")]

def params (g : Rules) (st : ParamStyle) : R (Params Expr) :=
  alts [reject (invalidParameters g st), parameters g st]

def lambdaExpr (g : Rules) : R Expr := do
  let t ← tok "lambda"
  let ps ← optional (params g lambdaStyle)
  let _ ← tok ":"
  return .lambda t.pos (ps.getD {}) (← g.expr .expression)

/-! ### Expressions -/

def conditional (g : Rules) : R Expr :=
  alts [
    (do let pos ← here
        let a ← g.expr .disjunction
        let _ ← tok "if"
        let b ← g.expr .disjunction
        let _ ← tok "else"
        let c ← g.expr .expression
        return .ifElse pos b a c),
    g.expr .disjunction,
    lambdaExpr g]

def isLegacyStatement : Expr → Bool
  | .name _ id _ => id == "print" || id == "exec"
  | _ => false

def isSoftWord (word : String) : Bool := ["_", "case", "match"].any (·.startsWith word)

def invalidExpression (g : Rules) : R Unit :=
  alts [
    (do lookNot ((do let _ ← kind .name; kind .string) <|>
          tokenIf fun t => t.kind == .name && isSoftWord t.text)
        let a ← g.expr .disjunction
        let _ ← plainly (conditional g)
        if isLegacyStatement a then miss
        else
          let last ← previous
          if last.depth == 0 then miss
          else raiseAt a.pos "invalid syntax. Perhaps you forgot a comma?"),
    (do let a ← g.expr .disjunction
        let _ ← tok "if"
        let _ ← g.expr .disjunction
        lookNot (tok "else" <|> tok ":")
        raiseAt a.pos "expected 'else' after 'if' expression")]

def invalidLegacy (g : Rules) : R Unit := do
  let a ← nameExpr .load
  lookNot (tok "(")
  let _ ← starExpressions g
  match a with
  | .name pos id _ =>
    if isLegacyStatement a then
      raiseAt pos ("Missing parentheses in call to '" ++ id ++ "'. Did you mean " ++ id ++ "(...)?")
    else miss
  | _ => miss

def expression (g : Rules) : R Expr :=
  alts [reject (invalidExpression g), reject (invalidLegacy g), conditional g]

def invalidNamed (g : Rules) : R Expr :=
  alts [
    (do let a ← g.expr .expression
        let _ ← tok ":="
        let _ ← g.expr .expression
        raiseAt a.pos ("cannot use assignment expressions with " ++ exprName a)),
    (do let a ← nameExpr .load
        let _ ← tok "="
        let _ ← g.expr .bitwiseOr
        lookNot (tok "=" <|> tok ":=")
        raiseAt a.pos comparisonHint),
    (do lookNot (alts [listDisplay g, tupleDisplay g, genExp g, constant "True" .none,
          constant "None" .none, constant "False" .none])
        let a ← g.expr .bitwiseOr
        let _ ← tok "="
        let _ ← g.expr .bitwiseOr
        lookNot (tok "=" <|> tok ":=")
        raiseAt a.pos ("cannot assign to " ++ exprName a ++
          " here. Maybe you meant '==' instead of '='?"))]

def namedExpression (g : Rules) : R Expr :=
  alts [
    assignmentExpression g,
    reject (do let _ ← g.expr .namedFault; pure ()),
    (do let e ← g.expr .expression
        lookNot (tok ":=")
        return e)]

def starNamedExpression (g : Rules) : R Expr :=
  alts [
    (do let t ← tok "*"
        return .starred t.pos (← g.expr .bitwiseOr) .load),
    g.expr .namedExpression]

/-! ### Targets -/

def targetLookahead : R Token := opening ["(", "[", "."]

def targetPrimary (g : Rules) : R Expr := do
  let pos ← here
  let a ← atom g
  look targetLookahead
  growAll (fun e => do
    let e ← primaryStep g pos e
    look targetLookahead
    return e) a

def memberTarget (g : Rules) (ctx : Ctx) : R Expr :=
  alts [
    (do let pos ← here
        let e ← g.expr .targetPrimary
        let _ ← tok "."
        let (attr, attrPos) ← nameToken
        lookNot targetLookahead
        return .attribute pos e attr attrPos ctx),
    (do let pos ← here
        let e ← g.expr .targetPrimary
        let _ ← tok "["
        let i ← slices g
        let _ ← tok "]"
        lookNot targetLookahead
        return .subscript pos e i ctx)]

def starAtom (g : Rules) : R Expr :=
  alts [
    nameExpr .store,
    (do let _ ← tok "("
        let e ← g.expr .targetWithStarAtom
        let _ ← tok ")"
        return e),
    (do let t ← tok "("
        let es ← optional (alts [
          (do let e ← g.expr .starTarget
              let more ← many1 (do let _ ← tok ","; g.expr .starTarget)
              let _ ← optional (tok ",")
              return e :: more),
          (do let e ← g.expr .starTarget
              let _ ← tok ","
              return [e])])
        let _ ← tok ")"
        return .tuple t.pos (es.getD []) .store),
    (do let t ← tok "["
        let es ← optional (do
          let es ← sepBy1 (g.expr .starTarget) (tok ",")
          let _ ← optional (tok ",")
          return es)
        let _ ← tok "]"
        return .list t.pos (es.getD []) .store)]

def targetWithStarAtom (g : Rules) : R Expr := memberTarget g .store <|> starAtom g

def starTarget (g : Rules) : R Expr :=
  alts [
    (do let t ← tok "*"
        lookNot (tok "*")
        return .starred t.pos (← g.expr .starTarget) .store),
    g.expr .targetWithStarAtom]

def singleTarget (g : Rules) : R Expr :=
  alts [
    memberTarget g .store,
    nameExpr .store,
    (do let _ ← tok "("
        let e ← g.expr .singleTarget
        let _ ← tok ")"
        return e)]

def delTargets (g : Rules) : R (List Expr) := do
  let es ← sepBy1 (g.expr .delTarget) (tok ",")
  let _ ← optional (tok ",")
  return es

def delTarget (g : Rules) : R Expr :=
  alts [
    memberTarget g .del,
    nameExpr .del,
    (do let _ ← tok "("
        let e ← g.expr .delTarget
        let _ ← tok ")"
        return e),
    (do let t ← tok "("
        let es ← optional (delTargets g)
        let _ ← tok ")"
        return .tuple t.pos (es.getD []) .del),
    (do let t ← tok "["
        let es ← optional (delTargets g)
        let _ ← tok "]"
        return .list t.pos (es.getD []) .del)]

def annotationFault (g : Rules) : R Expr :=
  alts [
    listDisplay g,
    tupleDisplay g,
    (do let _ ← tok "("
        let e ← g.expr .annotationFault
        let _ ← tok ")"
        return e)]

def exprRule (g : Rules) : ExprRule → R Expr
  | .starExpression => starExpression g
  | .namedFault => invalidNamed g
  | .namedExpression => namedExpression g
  | .starNamedExpression => starNamedExpression g
  | .expression => expression g
  | .disjunction => junction g .conjunction "or" .or
  | .conjunction => junction g .inversion "and" .and
  | .inversion => inversion g
  | .bitwiseOr => leftAssoc g .bitwiseXor [("|", .bitOr)]
  | .bitwiseXor => leftAssoc g .bitwiseAnd [("^", .bitXor)]
  | .bitwiseAnd => leftAssoc g .shift [("&", .bitAnd)]
  | .shift => leftAssoc g .sum [("<<", .shiftLeft), (">>", .shiftRight)]
  | .sum => leftAssoc g .term [("+", .add), ("-", .sub)]
  | .term =>
    leftAssoc g .factor [("*", .mul), ("/", .div), ("//", .floorDiv), ("%", .mod), ("@", .matMul)]
  | .factor => factor g
  | .awaitPrimary => awaitPrimary g
  | .primary => primary g
  | .strings => strings g
  | .group => group g
  | .starTarget => starTarget g
  | .targetWithStarAtom => targetWithStarAtom g
  | .singleTarget => singleTarget g
  | .targetPrimary => targetPrimary g
  | .delTarget => delTarget g
  | .annotationFault => annotationFault g

end Notebook.Grammar
