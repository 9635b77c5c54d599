import Notebook.Tree.Stmt

/-! The outline of a tree: the nodes that bind, read or suspend, with everything else left out.

Analyses of names are folds over outlines. A node keeps apart what is evaluated where it stands and
what belongs to the scope that it opens. -/

set_option autoImplicit false

namespace Notebook.Tree

open Notebook.Source

inductive Mark where
  /-- A name that is read, bound or unbound. -/
  | name (pos : Pos) (id : String) (ctx : Ctx)
  /-- A name that is read and bound at once. -/
  | update (pos : Pos) (id : String)
  /-- A function or class, which binds its name and opens a scope. -/
  | definition (name : String)
  /-- An anonymous function or a comprehension, which opens a scope. -/
  | scope
  | param (name : String)
  /-- A caught exception, a pattern or the rest of a mapping. -/
  | capture (name : Option String)
  /-- The names that an import binds; a wildcard stands for itself. -/
  | imports (names : List String)
  /-- An import of language features, with the names written in it. -/
  | features (names : List String)
  | global (names : List String)
  | nonlocal (names : List String)
  /-- A node at which execution may be suspended. -/
  | suspend
  | plain
deriving DecidableEq, Repr

inductive Outline where
  | node (mark : Mark) (outer inner : List Outline)

namespace Outline

def leaf (m : Mark) : Outline := .node m [] []

end Outline

def asyncMark (isAsync : Bool) : Mark := if isAsync then .suspend else .plain

mutual

def Expr.outline : Expr → Outline
  | .boolOp _ _ vs => .node .plain (outlines vs) []
  | .named _ t v => .node .plain [t.outline, v.outline] []
  | .binOp _ l _ r => .node .plain [l.outline, r.outline] []
  | .unaryOp _ _ e => .node .plain [e.outline] []
  | .lambda _ ps b => .node .scope (paramsDefaults ps) (paramsOutline ps ++ [b.outline])
  | .ifElse _ t b o => .node .plain [t.outline, b.outline, o.outline] []
  | .dict _ es => .node .plain (keyOutlines es ++ valueOutlines es) []
  | .set _ es => .node .plain (outlines es) []
  | .comp _ _ e cs => .node .scope (e.outline :: clausesOutline cs) []
  | .dictComp _ k v cs => .node .scope (k.outline :: v.outline :: clausesOutline cs) []
  | .await _ e => .node .suspend [e.outline] []
  | .yield _ e => .node .plain (optionOutline e) []
  | .yieldFrom _ e => .node .plain [e.outline] []
  | .compare _ l _ rs => .node .plain (l.outline :: outlines rs) []
  | .call _ f as ks => .node .plain (f.outline :: outlines as ++ keywordsOutline ks) []
  | .formatted _ v _ s => .node .plain (v.outline :: optionOutline s) []
  | .joined _ vs => .node .plain (outlines vs) []
  | .const .. => .leaf .plain
  | .attribute _ e _ _ _ => .node .plain [e.outline] []
  | .subscript _ e i _ => .node .plain [e.outline, i.outline] []
  | .starred _ e _ => .node .plain [e.outline] []
  | .name p id c => .leaf (.name p id c)
  | .list _ es _ => .node .plain (outlines es) []
  | .tuple _ es _ => .node .plain (outlines es) []
  | .slice _ l u s => .node .plain (optionOutline l ++ optionOutline u ++ optionOutline s) []

def outlines : List Expr → List Outline
  | [] => []
  | e :: es => e.outline :: outlines es

def optionOutline : Option Expr → List Outline
  | none => []
  | some e => [e.outline]

def keyOutlines : List (Entry Expr) → List Outline
  | [] => []
  | ⟨k, _⟩ :: es => optionOutline k ++ keyOutlines es

def valueOutlines : List (Entry Expr) → List Outline
  | [] => []
  | ⟨_, v⟩ :: es => v.outline :: valueOutlines es

def clausesOutline : List (Clause Expr) → List Outline
  | [] => []
  | ⟨t, i, ifs, isAsync⟩ :: cs =>
    .node (asyncMark isAsync) (t.outline :: i.outline :: outlines ifs) [] :: clausesOutline cs

def keywordsOutline : List (Keyword Expr) → List Outline
  | [] => []
  | ⟨_, _, v⟩ :: ks => v.outline :: keywordsOutline ks

def paramOutline : Param Expr → Outline
  | ⟨_, n, a, _⟩ => .node (.param n) (optionOutline a) []

def paramDefault : Param Expr → List Outline
  | ⟨_, _, _, d⟩ => optionOutline d

def paramListOutline : List (Param Expr) → List Outline
  | [] => []
  | p :: ps => paramOutline p :: paramListOutline ps

def paramListDefaults : List (Param Expr) → List Outline
  | [] => []
  | p :: ps => paramDefault p ++ paramListDefaults ps

def paramsOutline : Params Expr → List Outline
  | ⟨positional, plain, star, keyword, doubleStar⟩ =>
    paramListOutline positional ++ paramListOutline plain ++
      (match star with
        | none => []
        | some p => [paramOutline p]) ++
      paramListOutline keyword ++
      (match doubleStar with
        | none => []
        | some p => [paramOutline p])

def paramsDefaults : Params Expr → List Outline
  | ⟨positional, plain, _, keyword, _⟩ =>
    paramListDefaults keyword ++ paramListDefaults positional ++ paramListDefaults plain

end

mutual

def Pattern.outline : Pattern → Outline
  | .value _ e => .node .plain [e.outline] []
  | .singleton .. => .leaf .plain
  | .sequence _ ps => .node .plain (patternOutlines ps) []
  | .mapping _ ks ps rest => .node (.capture rest) (outlines ks ++ patternOutlines ps) []
  | .class _ c ps _ ks => .node .plain (c.outline :: patternOutlines ps ++ patternOutlines ks) []
  | .star _ n => .leaf (.capture n)
  | .as _ none n => .leaf (.capture n)
  | .as _ (some p) n => .node (.capture n) [p.outline] []
  | .or _ ps => .node .plain (patternOutlines ps) []

def patternOutlines : List Pattern → List Outline
  | [] => []
  | p :: ps => p.outline :: patternOutlines ps

end

/-- The name that an alias binds; a dotted name binds its first part unless it is imported from. -/
def Alias.binding (isFrom : Bool) (a : Alias) : String :=
  match a.asName with
  | some n => n
  | none =>
    if isFrom then a.name else String.ofList (a.name.toList.takeWhile (· != '.'))

def withItemOutline (w : WithItem) : Outline :=
  .node .plain (w.context.outline :: optionOutline w.target) []

mutual

def Stmt.outline : Stmt → Outline
  | .function _ h body =>
    .node (.definition h.name) (outlines h.decorators ++ paramsDefaults h.params)
      (paramsOutline h.params ++ stmtOutlines body ++ optionOutline h.returns)
  | .class _ h body =>
    .node (.definition h.name)
      (outlines h.bases ++ keywordsOutline h.keywords ++ outlines h.decorators) (stmtOutlines body)
  | .return _ v => .node .plain (optionOutline v) []
  | .delete _ ts => .node .plain (outlines ts) []
  | .assign _ ts v => .node .plain (outlines ts ++ [v.outline]) []
  | .augAssign _ (.name p id c) _ v => .node (.update p id) [.leaf (.name p id c), v.outline] []
  | .augAssign _ t _ v => .node .plain [t.outline, v.outline] []
  | .annAssign _ t a v _ => .node .plain (t.outline :: a.outline :: optionOutline v) []
  | .for _ isAsync t i body orelse =>
    .node (asyncMark isAsync) (t.outline :: i.outline :: stmtOutlines body ++ stmtOutlines orelse) []
  | .while _ t body orelse => .node .plain (t.outline :: stmtOutlines body ++ stmtOutlines orelse) []
  | .if _ t body orelse => .node .plain (t.outline :: stmtOutlines body ++ stmtOutlines orelse) []
  | .with _ isAsync items body =>
    .node (asyncMark isAsync) (items.map withItemOutline ++ stmtOutlines body) []
  | .match _ e cs => .node .plain (e.outline :: caseOutlines cs) []
  | .raise _ e c => .node .plain (optionOutline e ++ optionOutline c) []
  | .try _ _ body hs orelse final =>
    .node .plain
      (stmtOutlines body ++ handlerOutlines hs ++ stmtOutlines orelse ++ stmtOutlines final) []
  | .assert _ t m => .node .plain (t.outline :: optionOutline m) []
  | .import _ ns => .leaf (.imports (ns.map (·.binding false)))
  | .importFrom _ m ns _ _ =>
    if m = some "__future__" then .leaf (.features (ns.map (·.binding true)))
    else .leaf (.imports (ns.map (·.binding true)))
  | .global _ ns => .leaf (.global ns)
  | .nonlocal _ ns => .leaf (.nonlocal ns)
  | .expr _ e => .node .plain [e.outline] []
  | .pass _ | .break _ | .continue _ => .leaf .plain

def stmtOutlines : List Stmt → List Outline
  | [] => []
  | s :: ss => s.outline :: stmtOutlines ss

def handlerOutlines : List (Handler (List Stmt)) → List Outline
  | [] => []
  | ⟨_, t, n, body⟩ :: hs =>
    .node (.capture n) (optionOutline t ++ stmtOutlines body) [] :: handlerOutlines hs

def caseOutlines : List (MatchCase (List Stmt)) → List Outline
  | [] => []
  | ⟨p, g, body⟩ :: cs =>
    .node .plain (p.outline :: optionOutline g ++ stmtOutlines body) [] :: caseOutlines cs

end

end Notebook.Tree
