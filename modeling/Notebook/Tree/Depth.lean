import Notebook.Tree.Stmt

/-! How deep a tree is nested. Work on a tree takes room for every level of it, more for some
constructs than for others, so depth is measured with weights. -/

set_option autoImplicit false

namespace Notebook.Tree

structure Weights where
  /-- A node without parts. -/
  leaf : Nat
  /-- Operators, and what attributes, items and calls belong to. -/
  node : Nat
  unary : Nat
  /-- The right side of a power. -/
  power : Nat
  lambda : Nat
  /-- What follows `else` in a conditional expression. -/
  ternary : Nat
  /-- Parts in brackets. -/
  inside : Nat
  bool : Nat
  list : Nat
  tuple : Nat
  dict : Nat
  stmt : Nat
  /-- A condition that is tried when the one before it fails. -/
  branch : Nat

namespace Weights

def nodes : Weights :=
  { leaf := 1, node := 1, unary := 1, power := 1, lambda := 1, ternary := 1, inside := 1, bool := 1
    list := 1, tuple := 1, dict := 1, stmt := 1, branch := 1 }

def printing : Weights :=
  { leaf := 6, node := 3, unary := 3, power := 3, lambda := 3, ternary := 3, inside := 3, bool := 5
    list := 4, tuple := 5, dict := 6, stmt := 4, branch := 0 }

/-- The rules of the grammar that are being followed at once: operators of one kind in a row are
read one after the other, and parts in brackets start again from the first rule. -/
def reading : Weights :=
  { leaf := 30, node := 0, unary := 1, power := 2, lambda := 2, ternary := 1, inside := 29, bool := 0
    list := 29, tuple := 29, dict := 29, stmt := 7, branch := 1 }

end Weights

mutual

def Expr.depth (w : Weights) : Expr → Nat
  | .boolOp _ _ vs => w.bool + depths w vs
  | .named _ t v => w.node + max (t.depth w) (v.depth w)
  | .binOp _ l op r =>
    max (w.node + l.depth w) ((if op == .pow then w.power else w.node) + r.depth w)
  | .unaryOp _ _ e => w.unary + e.depth w
  | .lambda _ ps b => w.lambda + max (paramsDepth w ps) (b.depth w)
  | .ifElse _ t b o => max (w.node + max (t.depth w) (b.depth w)) (w.ternary + o.depth w)
  | .dict _ es => w.dict + entriesDepth w es
  | .set _ es => w.list + depths w es
  | .comp _ _ e cs => w.inside + max (e.depth w) (clausesDepth w cs)
  | .dictComp _ k v cs => w.inside + max (max (k.depth w) (v.depth w)) (clausesDepth w cs)
  | .await _ e => w.node + e.depth w
  | .yield _ e => w.node + optionDepth w e
  | .yieldFrom _ e => w.node + e.depth w
  | .compare _ l _ rs => w.node + max (l.depth w) (depths w rs)
  | .call _ f as ks =>
    max (w.node + f.depth w) (w.inside + max (depths w as) (keywordsDepth w ks))
  | .formatted _ v _ s => w.inside + max (v.depth w) (optionDepth w s)
  | .joined _ vs => w.node + depths w vs
  | .const .. => w.leaf
  | .attribute _ e _ _ _ => w.node + e.depth w
  | .subscript _ e i _ => max (w.node + e.depth w) (w.inside + i.depth w)
  | .starred _ e _ => w.node + e.depth w
  | .name .. => w.leaf
  | .list _ es _ => w.list + depths w es
  | .tuple _ es _ => w.tuple + depths w es
  | .slice _ l u s => w.node + max (optionDepth w l) (max (optionDepth w u) (optionDepth w s))

def depths (w : Weights) : List Expr → Nat
  | [] => 0
  | e :: es => max (e.depth w) (depths w es)

def optionDepth (w : Weights) : Option Expr → Nat
  | none => 0
  | some e => e.depth w

def entriesDepth (w : Weights) : List (Entry Expr) → Nat
  | [] => 0
  | ⟨k, v⟩ :: es => max (max (optionDepth w k) (v.depth w)) (entriesDepth w es)

def clausesDepth (w : Weights) : List (Clause Expr) → Nat
  | [] => 0
  | ⟨t, i, ifs, _⟩ :: cs =>
    max (w.node + max (max (t.depth w) (i.depth w)) (depths w ifs)) (clausesDepth w cs)

def keywordsDepth (w : Weights) : List (Keyword Expr) → Nat
  | [] => 0
  | ⟨_, _, v⟩ :: ks => max (w.node + v.depth w) (keywordsDepth w ks)

def paramDepth (w : Weights) : Param Expr → Nat
  | ⟨_, _, a, d⟩ => w.node + max (optionDepth w a) (optionDepth w d)

def paramListDepth (w : Weights) : List (Param Expr) → Nat
  | [] => 0
  | p :: ps => max (paramDepth w p) (paramListDepth w ps)

def paramsDepth (w : Weights) : Params Expr → Nat
  | ⟨positional, plain, star, keyword, doubleStar⟩ =>
    max (max (paramListDepth w positional) (paramListDepth w plain))
      (max (paramListDepth w keyword)
        (max (match star with
            | none => 0
            | some p => paramDepth w p)
          (match doubleStar with
            | none => 0
            | some p => paramDepth w p)))

end

mutual

def Pattern.depth (w : Weights) : Pattern → Nat
  | .value _ e => w.node + e.depth w
  | .singleton .. => w.leaf
  | .sequence _ ps => w.list + patternsDepth w ps
  | .mapping _ ks ps _ => w.dict + max (depths w ks) (patternsDepth w ps)
  | .class _ c ps _ ks => w.inside + max (c.depth w) (max (patternsDepth w ps) (patternsDepth w ks))
  | .star .. => w.leaf
  | .as _ none _ => w.leaf
  | .as _ (some p) _ => w.node + p.depth w
  | .or _ ps => w.node + patternsDepth w ps

def patternsDepth (w : Weights) : List Pattern → Nat
  | [] => 0
  | p :: ps => max (p.depth w) (patternsDepth w ps)

end

def Stmt.isIf : Stmt → Bool
  | .if .. => true
  | _ => false

def withItemDepth (w : Weights) (i : WithItem) : Nat :=
  w.node + max (i.context.depth w) (optionDepth w i.target)

mutual

def Stmt.depth (w : Weights) : Stmt → Nat
  | .function _ h body =>
    w.stmt + max (max (depths w h.decorators) (paramsDepth w h.params))
      (max (optionDepth w h.returns) (stmtsDepth w body))
  | .class _ h body =>
    w.stmt + max (max (depths w h.decorators) (depths w h.bases))
      (max (keywordsDepth w h.keywords) (stmtsDepth w body))
  | .return _ v => w.stmt + optionDepth w v
  | .delete _ ts => w.stmt + depths w ts
  | .assign _ ts v => w.stmt + max (depths w ts) (v.depth w)
  | .augAssign _ t _ v => w.stmt + max (t.depth w) (v.depth w)
  | .annAssign _ t a v _ => w.stmt + max (max (t.depth w) (a.depth w)) (optionDepth w v)
  | .for _ _ t i body orelse =>
    w.stmt + max (max (t.depth w) (i.depth w)) (max (stmtsDepth w body) (stmtsDepth w orelse))
  | .while _ t body orelse =>
    w.stmt + max (t.depth w) (max (stmtsDepth w body) (stmtsDepth w orelse))
  | .if _ t body orelse =>
    max (w.stmt + max (t.depth w) (stmtsDepth w body)) (elseDepth w orelse)
  | .with _ _ items body =>
    w.stmt + max (items.foldl (fun d i => max d (withItemDepth w i)) 0) (stmtsDepth w body)
  | .match _ e cs => w.stmt + max (e.depth w) (casesDepth w cs)
  | .raise _ e c => w.stmt + max (optionDepth w e) (optionDepth w c)
  | .try _ _ body hs orelse final =>
    w.stmt + max (max (stmtsDepth w body) (handlersDepth w hs))
      (max (stmtsDepth w orelse) (stmtsDepth w final))
  | .assert _ t m => w.stmt + max (t.depth w) (optionDepth w m)
  | .expr _ e => w.stmt + e.depth w
  | .import .. | .importFrom .. | .global .. | .nonlocal .. => w.stmt
  | .pass _ | .break _ | .continue _ => w.stmt

def stmtsDepth (w : Weights) : List Stmt → Nat
  | [] => 0
  | s :: ss => max (s.depth w) (stmtsDepth w ss)

/-- The alternative of a condition; another condition alone is a branch of the same statement. -/
def elseDepth (w : Weights) : List Stmt → Nat
  | [] => 0
  | [s] => (if s.isIf then w.branch else w.stmt) + s.depth w
  | s :: ss => w.stmt + max (s.depth w) (stmtsDepth w ss)

def handlersDepth (w : Weights) : List (Handler (List Stmt)) → Nat
  | [] => 0
  | ⟨_, t, _, body⟩ :: hs =>
    max (w.stmt + max (optionDepth w t) (stmtsDepth w body)) (handlersDepth w hs)

def casesDepth (w : Weights) : List (MatchCase (List Stmt)) → Nat
  | [] => 0
  | ⟨p, g, body⟩ :: cs =>
    max (w.stmt + max (max (p.depth w) (optionDepth w g)) (stmtsDepth w body)) (casesDepth w cs)

end

/-- Whether following the grammar through a text takes more rules at once than there is room for. -/
def exceedsReading (body : List Stmt) : Bool := 6000 < stmtsDepth .reading body

def exceedsTree (body : List Stmt) : Bool := 2976 < stmtsDepth .nodes body

def exceedsNames (body : List Stmt) : Bool := 985 < stmtsDepth .nodes body

def exceedsChange (body : List Stmt) : Bool := 985 < 2 * stmtsDepth .nodes body

def exceedsPrinting (body : List Stmt) : Bool := 986 < stmtsDepth .printing body

end Notebook.Tree
