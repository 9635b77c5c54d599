import Notebook.Decimal.Shortest
import Notebook.Text.Lines
import Notebook.Text.Quoted
import Notebook.Tree.Stmt

/-! Trees written back as source text: one canonical layout, with the fewest parentheses that the
precedence of operators asks for. -/

set_option autoImplicit false

namespace Notebook.Tree

open Notebook.Text

inductive PrintError where
  | hugeInteger
  | backslashInFormat
deriving DecidableEq, Repr

def PrintError.message : PrintError → String
  | .hugeInteger =>
    "Exceeds the limit (4300 digits) for integer string conversion; " ++
      "use sys.set_int_max_str_digits() to increase the limit"
  | .backslashInFormat => "Unable to avoid backslash in f-string expression part"

abbrev Printed := Except PrintError String

namespace Printer

/-! ### Precedence -/

def precTuple : Nat := 1
def precYield : Nat := 2
def precTest : Nat := 3
def precOr : Nat := 4
def precAnd : Nat := 5
def precNot : Nat := 6
def precCmp : Nat := 7
def precExpr : Nat := 8
def precFactor : Nat := 14
def precAwait : Nat := 16
def precAtom : Nat := 17

def tighter (p : Nat) : Nat := min (p + 1) precAtom

def binOpText : BinOp → String
  | .add => "+"
  | .sub => "-"
  | .mul => "*"
  | .matMul => "@"
  | .div => "/"
  | .mod => "%"
  | .pow => "**"
  | .shiftLeft => "<<"
  | .shiftRight => ">>"
  | .bitOr => "|"
  | .bitXor => "^"
  | .bitAnd => "&"
  | .floorDiv => "//"

def binOpPrec : BinOp → Nat
  | .bitOr => 8
  | .bitXor => 9
  | .bitAnd => 10
  | .shiftLeft | .shiftRight => 11
  | .add | .sub => 12
  | .mul | .matMul | .div | .mod | .floorDiv => 13
  | .pow => 15

def cmpOpText : CmpOp → String
  | .eq => "=="
  | .notEq => "!="
  | .lt => "<"
  | .ltE => "<="
  | .gt => ">"
  | .gtE => ">="
  | .is => "is"
  | .isNot => "is not"
  | .in => "in"
  | .notIn => "not in"

def unaryText : UnaryOp → String
  | .invert => "~"
  | .not => "not "
  | .plus => "+"
  | .minus => "-"

def unaryPrec : UnaryOp → Nat
  | .not => precNot
  | _ => precFactor

def boolText : BoolOp → String
  | .and => " and "
  | .or => " or "

def boolPrec : BoolOp → Nat
  | .and => precAnd
  | .or => precOr

def parenthesize (p level : Nat) (s : String) : String := if p > level then "(" ++ s ++ ")" else s

/-! ### Literals -/

def singleQuotes : List String := ["'", "\""]

def tripleQuotes : List String := ["\"\"\"", "'''"]

def allQuotes : List String := singleQuotes ++ tripleQuotes

def containsText (needle : List Char) : List Char → Bool
  | [] => needle.isEmpty
  | c :: cs => needle.isPrefixOf (c :: cs) || containsText needle cs

/-- The body of a literal with as few escapes as possible, and the quotes that may surround it. -/
def literalBody (s : String) (quotes : List String) (escapeSpace : Bool) : String × List String :=
  let one (c : Char) : List Char :=
    if !escapeSpace && (c == '\n' || c == '\t') then [c]
    else if c == '\\' || !isVisible c then escape c
    else [c]
  let cs := s.toList.flatMap one
  let possible := if cs.contains '\n' then quotes.filter tripleQuotes.contains else quotes
  let possible := possible.filter fun q => !containsText q.toList cs
  match possible with
  | [] =>
    let r := quote s
    let mark := r.toList.headD '\''
    let q := (quotes.find? fun q => q.toList.contains mark).getD mark.toString
    (String.ofList (r.toList.drop 1).dropLast, [q])
  | _ =>
    match cs.getLast? with
    | none => ("", possible)
    | some last =>
      let clash (q : String) : Bool := q.toList.head? == some last
      let sorted := possible.filter (fun q => !clash q) ++ possible.filter clash
      if clash (sorted.headD "") then (String.ofList (cs.dropLast ++ ['\\', last]), sorted)
      else (String.ofList cs, sorted)

def plainLiteral (s : String) (quotes : List String) : String :=
  let (body, qs) := literalBody s quotes false
  let q := qs.headD "'"
  q ++ body ++ q

def digitLimit : Nat := Nat.pow 10 4300

def intText (n : Int) : Printed :=
  if n.natAbs ≥ digitLimit then .error .hugeInteger else .ok (toString n)

/-- A number; infinities are written as a literal too large to represent. -/
def floatText (x : Float) : String :=
  let s := Decimal.text x
  if s == "inf" then "1e309"
  else if s == "-inf" then "-1e309"
  else if s == "nan" then "(1e309-1e309)"
  else s

def imagText (x : Float) : String :=
  let s := Decimal.text x
  if s == "inf" then "1e309j"
  else
    let cs := s.toList
    String.ofList (if cs.drop (cs.length - 2) == ['.', '0'] then cs.take (cs.length - 2) else cs) ++ "j"

def constant (avoid : Bool) : Constant → Printed
  | .none => .ok "None"
  | .bool true => .ok "True"
  | .bool false => .ok "False"
  | .ellipsis => .ok "..."
  | .int n => intText n
  | .float x => .ok (floatText x)
  | .imag x => .ok (imagText x)
  | .str s marked =>
    .ok ((if marked then "u" else "") ++ if avoid then plainLiteral s allQuotes else quote s)
  | .bytes bs => .ok (quoteBytes bs)

def isInteger : Expr → Bool
  | .const _ (.int _) => true
  | .const _ (.bool _) => true
  | _ => false

def doubleBraces (s : String) : String :=
  String.ofList (s.toList.flatMap fun c => if c == '\x7b' || c == '\x7d' then [c, c] else [c])

/-- Joins the parts of a format string, each with the flag that it is literal text, narrowing the
quotes from part to part. -/
def formatLiteral : List (String × Bool) → List String → String → String
  | [], qs, acc =>
    let q := qs.headD "'"
    "f" ++ q ++ acc ++ q
  | (s, literal) :: rest, qs, acc =>
    let (body, qs) := literalBody s qs literal
    formatLiteral rest qs (acc ++ body)

/-- An embedded expression with its conversion and layout, in braces. -/
def embraced (body : String) (c : Option Char) (spec : String) : Printed :=
  if body.toList.contains '\\' then .error .backslashInFormat
  else
    let gap := if body.toList.head? == some '\x7b' then " " else ""
    let conversion := match c with
      | none => ""
      | some c => "!" ++ c.toString
    .ok ("\x7b" ++ gap ++ body ++ conversion ++ spec ++ "\x7d")

def tupleItems : List String → String
  | [s] => s ++ ","
  | ss => joinWith ", " ss

/-! ### Expressions -/

mutual

/-- An expression where level `p` is asked for; inside a format string `avoid` holds. -/
def expr (avoid : Bool) (p : Nat) : Expr → Printed
  | .boolOp _ op vs => do
    return parenthesize p (boolPrec op) (joinWith (boolText op) (← boolValues avoid (boolPrec op) vs))
  | .named _ t v => do
    return parenthesize p 0 ((← expr avoid precAtom t) ++ " := " ++ (← expr avoid precAtom v))
  | .binOp _ l op r => do
    let level := binOpPrec op
    let (lp, rp) := if op = .pow then (tighter level, level) else (level, tighter level)
    return parenthesize p level
      ((← expr avoid lp l) ++ " " ++ binOpText op ++ " " ++ (← expr avoid rp r))
  | .unaryOp _ op e => do
    return parenthesize p (unaryPrec op) (unaryText op ++ (← expr avoid (unaryPrec op) e))
  | .lambda _ ps b => do
    let ps ← params avoid ps
    let head := if ps == "" then "lambda: " else "lambda " ++ ps ++ ": "
    return parenthesize p precTest (head ++ (← expr avoid precTest b))
  | .ifElse _ t b o => do
    return parenthesize p precTest ((← expr avoid precOr b) ++ " if " ++ (← expr avoid precOr t) ++
      " else " ++ (← expr avoid precTest o))
  | .dict _ es => do
    return "\x7b" ++ joinWith ", " (← entries avoid es) ++ "\x7d"
  | .set _ es => do
    match es with
    | [] => return "\x7b*()\x7d"
    | _ => return "\x7b" ++ joinWith ", " (← exprs avoid precTest es) ++ "\x7d"
  | .comp _ k e cs => do
    let body := (← expr avoid precTest e) ++ (← clauses avoid cs)
    match k with
    | .list => return "[" ++ body ++ "]"
    | .set => return "\x7b" ++ body ++ "\x7d"
    | .generator => return "(" ++ body ++ ")"
  | .dictComp _ k v cs => do
    return "\x7b" ++ (← expr avoid precTest k) ++ ": " ++ (← expr avoid precTest v) ++
      (← clauses avoid cs) ++ "\x7d"
  | .await _ e => do return parenthesize p precAwait ("await " ++ (← expr avoid precAtom e))
  | .yield _ e => do
    match e with
    | none => return parenthesize p precYield "yield"
    | some e => return parenthesize p precYield ("yield " ++ (← expr avoid precAtom e))
  | .yieldFrom _ e => do
    return parenthesize p precYield ("yield from " ++ (← expr avoid precAtom e))
  | .compare _ l ops rs => do
    return parenthesize p precCmp ((← expr avoid precExpr l) ++ (← comparisons avoid ops rs))
  | .call _ f as ks => do
    let args ← exprs avoid precTest as
    return (← expr avoid precAtom f) ++ "(" ++ joinWith ", " (args ++ (← keywords avoid ks)) ++ ")"
  | .formatted _ v c s => do
    return "f" ++ plainLiteral (← embraced (← expr true precOr v) c (← specText s)) allQuotes
  | .joined _ vs => do
    let parts ← formatParts vs
    if avoid then return "f" ++ plainLiteral (String.join (parts.map (·.1))) allQuotes
    else return formatLiteral parts allQuotes ""
  | .const _ c => constant avoid c
  | .attribute _ e a _ _ => do
    return (← expr avoid precAtom e) ++ (if isInteger e then " ." else ".") ++ a
  | .subscript _ e i _ => do
    let base ← expr avoid precAtom e
    match i with
    | .tuple _ (x :: xs) _ => return base ++ "[" ++ tupleItems (← exprs avoid precTest (x :: xs)) ++ "]"
    | i => return base ++ "[" ++ (← expr avoid precTest i) ++ "]"
  | .starred _ e _ => do return "*" ++ (← expr avoid precExpr e)
  | .name _ id _ => .ok id
  | .list _ es _ => do return "[" ++ joinWith ", " (← exprs avoid precTest es) ++ "]"
  | .tuple _ es _ => do
    let items := tupleItems (← exprs avoid precTest es)
    if es.isEmpty || p > precTuple then return "(" ++ items ++ ")" else return items
  | .slice _ l u s => do
    let l ← match l with
      | none => pure ""
      | some e => expr avoid precTest e
    let u ← match u with
      | none => pure ""
      | some e => expr avoid precTest e
    let s ← match s with
      | none => pure ""
      | some e => pure (":" ++ (← expr avoid precTest e))
    return l ++ ":" ++ u ++ s

def exprs (avoid : Bool) (p : Nat) : List Expr → Except PrintError (List String)
  | [] => .ok []
  | e :: es => do return (← expr avoid p e) :: (← exprs avoid p es)

/-- Every operand of a chain of `and` or `or` is asked for one level tighter than the one before. -/
def boolValues (avoid : Bool) (p : Nat) : List Expr → Except PrintError (List String)
  | [] => .ok []
  | e :: es => do return (← expr avoid (tighter p) e) :: (← boolValues avoid (tighter p) es)

def comparisons (avoid : Bool) (ops : List CmpOp) : List Expr → Printed
  | [] => .ok ""
  | e :: es =>
    match ops with
    | [] => .ok ""
    | op :: ops => do
      return " " ++ cmpOpText op ++ " " ++ (← expr avoid precExpr e) ++ (← comparisons avoid ops es)

def entries (avoid : Bool) : List (Entry Expr) → Except PrintError (List String)
  | [] => .ok []
  | ⟨none, v⟩ :: es => do return ("**" ++ (← expr avoid precExpr v)) :: (← entries avoid es)
  | ⟨some k, v⟩ :: es => do
    return ((← expr avoid precTest k) ++ ": " ++ (← expr avoid precTest v)) :: (← entries avoid es)

def clauses (avoid : Bool) : List (Clause Expr) → Printed
  | [] => .ok ""
  | ⟨t, i, ifs, isAsync⟩ :: cs => do
    return (if isAsync then " async for " else " for ") ++ (← expr avoid precTuple t) ++ " in " ++
      (← expr avoid precOr i) ++ String.join ((← exprs avoid precOr ifs).map (" if " ++ ·)) ++
      (← clauses avoid cs)

def keywords (avoid : Bool) : List (Keyword Expr) → Except PrintError (List String)
  | [] => .ok []
  | ⟨_, none, v⟩ :: ks => do return ("**" ++ (← expr avoid precTest v)) :: (← keywords avoid ks)
  | ⟨_, some n, v⟩ :: ks => do
    return (n ++ "=" ++ (← expr avoid precTest v)) :: (← keywords avoid ks)

def param (avoid : Bool) : Param Expr → Printed
  | ⟨_, n, a, d⟩ => do
    let a ← match a with
      | none => pure ""
      | some e => pure (": " ++ (← expr avoid precTest e))
    let d ← match d with
      | none => pure ""
      | some e => pure ("=" ++ (← expr avoid precTest e))
    return n ++ a ++ d

def paramList (avoid : Bool) : List (Param Expr) → Except PrintError (List String)
  | [] => .ok []
  | p :: ps => do return (← param avoid p) :: (← paramList avoid ps)

def params (avoid : Bool) : Params Expr → Printed
  | ⟨positional, plain, star, keyword, doubleStar⟩ => do
    let a ← paramList avoid positional
    let b ← paramList avoid plain
    let s ← match star with
      | none => pure (if keyword.isEmpty then [] else ["*"])
      | some p => pure ["*" ++ (← param avoid p)]
    let k ← paramList avoid keyword
    let d ← match doubleStar with
      | none => pure []
      | some p => pure ["**" ++ (← param avoid p)]
    return joinWith ", " (a ++ (if a.isEmpty then [] else ["/"]) ++ b ++ s ++ k ++ d)

def specText : Option Expr → Printed
  | none => .ok ""
  | some (.joined _ vs) => do return ":" ++ String.join ((← formatParts vs).map (·.1))
  | some _ => .ok ":"

def formatParts : List Expr → Except PrintError (List (String × Bool))
  | [] => .ok []
  | .const _ (.str s _) :: es => do return (doubleBraces s, true) :: (← formatParts es)
  | .formatted _ v c s :: es => do
    return (← embraced (← expr true precOr v) c (← specText s), false) :: (← formatParts es)
  | .joined _ vs :: es => do
    return (String.join ((← formatParts vs).map (·.1)), false) :: (← formatParts es)
  | _ :: es => formatParts es

end

/-! ### Patterns -/

mutual

def pattern (p : Nat) : Pattern → Printed
  | .value _ e => expr false precTest e
  | .singleton _ c => constant false c
  | .sequence _ ps => do return "[" ++ joinWith ", " (← patternList precTest ps) ++ "]"
  | .mapping _ ks ps rest => do
    let items ← patternItems (← exprs false precTest ks) ": " ps
    let rest := match rest with
      | none => []
      | some r => ["**" ++ r]
    return "\x7b" ++ joinWith ", " (items ++ rest) ++ "\x7d"
  | .class _ c ps ns ks => do
    let items ← patternList precTest ps
    let named ← patternItems ns "=" ks
    return (← expr false precAtom c) ++ "(" ++ joinWith ", " (items ++ named) ++ ")"
  | .star _ n => .ok ("*" ++ n.getD "_")
  | .as _ inner n =>
    match n with
    | none => .ok "_"
    | some n =>
      match inner with
      | none => .ok n
      | some q => do return parenthesize p precTest ((← pattern precExpr q) ++ " as " ++ n)
  | .or _ ps => do
    return parenthesize p precExpr (joinWith " | " (← patternList (tighter precExpr) ps))

def patternList (p : Nat) : List Pattern → Except PrintError (List String)
  | [] => .ok []
  | q :: qs => do return (← pattern p q) :: (← patternList p qs)

def patternItems (keys : List String) (sep : String) :
    List Pattern → Except PrintError (List String)
  | [] => .ok []
  | q :: qs =>
    match keys with
    | [] => .ok []
    | k :: keys => do return (k ++ sep ++ (← pattern precTest q)) :: (← patternItems keys sep qs)

end

/-! ### Statements -/

def pad (depth : Nat) (s : String) : String := String.ofList (List.replicate (4 * depth) ' ') ++ s

def aliasText (a : Alias) : String :=
  match a.asName with
  | none => a.name
  | some n => a.name ++ " as " ++ n

def exprText (e : Expr) : Printed := expr false precTest e

def optionText (lead : String) : Option Expr → Printed
  | none => .ok ""
  | some e => do return lead ++ (← exprText e)

def withItemText (w : WithItem) : Printed := do
  return (← exprText w.context) ++ (← optionText " as " w.target)

def decoratorLines (depth : Nat) (ds : List Expr) : Except PrintError (List String) :=
  ds.mapM fun d => do return pad depth ("@" ++ (← exprText d))

def functionHead (h : FunctionHead) : Printed := do
  return (if h.isAsync then "async def " else "def ") ++ h.name ++ "(" ++ (← params false h.params) ++
    ")" ++ (← optionText " -> " h.returns) ++ ":"

def classHead (h : ClassHead) : Printed := do
  let items := (← exprs false precTest h.bases) ++ (← keywords false h.keywords)
  return "class " ++ h.name ++ (if items.isEmpty then "" else "(" ++ joinWith ", " items ++ ")") ++ ":"

def line (depth : Nat) (s : Printed) : Except PrintError (List String) := do
  return [pad depth (← s)]

def leadingText : List Stmt → Option (String × Bool)
  | .expr _ (.const _ (.str s marked)) :: _ => some (s, marked)
  | _ => none

def leadingLine (depth : Nat) (s : String × Bool) : String :=
  pad depth ((if s.2 then "u" else "") ++ plainLiteral s.1 tripleQuotes)

mutual

/-- The lines of a statement; an empty line stands before every definition. -/
def stmt (depth : Nat) : Stmt → Except PrintError (List String)
  | .function _ h body => do
    return "" :: (← decoratorLines depth h.decorators) ++ [pad depth (← functionHead h)] ++
      (← documented (depth + 1) body)
  | .class _ h body => do
    return "" :: (← decoratorLines depth h.decorators) ++ [pad depth (← classHead h)] ++
      (← documented (depth + 1) body)
  | .return _ v => line depth (do return "return" ++ (← optionText " " v))
  | .delete _ ts => line depth (do return "del " ++ joinWith ", " (← exprs false precTest ts))
  | .assign _ ts v => line depth (do
      let ts ← exprs false precTuple ts
      return String.join (ts.map (· ++ " = ")) ++ (← exprText v))
  | .augAssign _ t op v => line depth (do
      return (← exprText t) ++ " " ++ binOpText op ++ "= " ++ (← exprText v))
  | .annAssign _ t a v simple => line depth (do
      let target ← exprText t
      let isName := match t with
        | .name .. => true
        | _ => false
      return (if !simple && isName then "(" ++ target ++ ")" else target) ++ ": " ++
        (← exprText a) ++ (← optionText " = " v))
  | .for _ isAsync t i body orelse => do
    let head := (if isAsync then "async for " else "for ") ++ (← expr false precTuple t) ++ " in " ++
      (← exprText i) ++ ":"
    return pad depth head :: (← stmts (depth + 1) body) ++ (← elseLines depth orelse)
  | .while _ t body orelse => do
    return pad depth ("while " ++ (← exprText t) ++ ":") :: (← stmts (depth + 1) body) ++
      (← elseLines depth orelse)
  | .if _ t body orelse => do
    return pad depth ("if " ++ (← exprText t) ++ ":") :: (← stmts (depth + 1) body) ++
      (← elifLines depth orelse)
  | .with _ isAsync items body => do
    let head := (if isAsync then "async with " else "with ") ++
      joinWith ", " (← items.mapM withItemText) ++ ":"
    return pad depth head :: (← stmts (depth + 1) body)
  | .match _ e cs => do
    return pad depth ("match " ++ (← exprText e) ++ ":") :: (← cases (depth + 1) cs)
  | .raise _ e c => line depth (do
      return "raise" ++ (← optionText " " e) ++ (← optionText " from " c))
  | .try _ isStar body hs orelse final => do
    return pad depth "try:" :: (← stmts (depth + 1) body) ++ (← handlers depth isStar hs) ++
      (← elseLines depth orelse) ++ (← finalLines depth final)
  | .assert _ t m => line depth (do return "assert " ++ (← exprText t) ++ (← optionText ", " m))
  | .import _ ns => line depth (.ok ("import " ++ joinWith ", " (ns.map aliasText)))
  | .importFrom _ m ns level _ => line depth (.ok ("from " ++
      String.ofList (List.replicate level '.') ++ m.getD "" ++ " import " ++
      joinWith ", " (ns.map aliasText)))
  | .global _ ns => line depth (.ok ("global " ++ joinWith ", " ns))
  | .nonlocal _ ns => line depth (.ok ("nonlocal " ++ joinWith ", " ns))
  | .expr _ e => line depth (expr false precYield e)
  | .pass _ => line depth (.ok "pass")
  | .break _ => line depth (.ok "break")
  | .continue _ => line depth (.ok "continue")

def stmts (depth : Nat) : List Stmt → Except PrintError (List String)
  | [] => .ok []
  | s :: ss => do return (← stmt depth s) ++ (← stmts depth ss)

def documented (depth : Nat) : List Stmt → Except PrintError (List String)
  | [] => .ok []
  | s :: ss => do
    let rest ← stmts depth ss
    match leadingText [s] with
    | some t => return leadingLine depth t :: rest
    | none => return (← stmt depth s) ++ rest

def elseLines (depth : Nat) : List Stmt → Except PrintError (List String)
  | [] => .ok []
  | s :: ss => do
    return pad depth "else:" :: (← stmt (depth + 1) s) ++ (← stmts (depth + 1) ss)

def finalLines (depth : Nat) : List Stmt → Except PrintError (List String)
  | [] => .ok []
  | s :: ss => do
    return pad depth "finally:" :: (← stmt (depth + 1) s) ++ (← stmts (depth + 1) ss)

/-- The other branch of a condition; a lone condition in it continues the chain. -/
def elifLines (depth : Nat) : List Stmt → Except PrintError (List String)
  | [] => .ok []
  | [.if _ t body orelse] => do
    return pad depth ("elif " ++ (← exprText t) ++ ":") :: (← stmts (depth + 1) body) ++
      (← elifLines depth orelse)
  | s :: ss => do
    return pad depth "else:" :: (← stmt (depth + 1) s) ++ (← stmts (depth + 1) ss)

def handlers (depth : Nat) (isStar : Bool) :
    List (Handler (List Stmt)) → Except PrintError (List String)
  | [] => .ok []
  | ⟨_, type, name, body⟩ :: hs => do
    let head := (if isStar then "except*" else "except") ++ (← optionText " " type) ++
      (match name with
        | none => ""
        | some n => " as " ++ n) ++ ":"
    return pad depth head :: (← stmts (depth + 1) body) ++ (← handlers depth isStar hs)

def cases (depth : Nat) : List (MatchCase (List Stmt)) → Except PrintError (List String)
  | [] => .ok []
  | ⟨p, g, body⟩ :: cs => do
    let head := "case " ++ (← pattern precTest p) ++ (← optionText " if " g) ++ ":"
    return pad depth head :: (← stmts (depth + 1) body) ++ (← cases depth cs)

end

def withoutLead : List String → List String
  | "" :: ls => ls
  | ls => ls

end Printer

def printBody (body : List Stmt) : Printed := do
  return joinWith "\n" (Printer.withoutLead (← Printer.documented 0 body))

def Expr.print (e : Expr) : Printed := Printer.expr false Printer.precTest e

def Params.print (ps : Params Expr) : Printed := Printer.params false ps

end Notebook.Tree
