import Notebook.Grammar.Rules

set_option autoImplicit false

namespace Notebook.Grammar

open Notebook.Source Notebook.Tree

def exprName : Expr → String
  | .attribute .. => "attribute"
  | .subscript .. => "subscript"
  | .starred .. => "starred"
  | .name .. => "name"
  | .list .. => "list"
  | .tuple .. => "tuple"
  | .lambda .. => "lambda"
  | .call .. => "function call"
  | .boolOp .. | .binOp .. | .unaryOp .. => "expression"
  | .comp _ .generator .. => "generator expression"
  | .comp _ .list .. => "list comprehension"
  | .comp _ .set .. => "set comprehension"
  | .dictComp .. => "dict comprehension"
  | .yield .. | .yieldFrom .. => "yield expression"
  | .await .. => "await expression"
  | .dict .. => "dict literal"
  | .set .. => "set display"
  | .joined .. | .formatted .. => "f-string expression"
  | .const _ .none => "None"
  | .const _ (.bool true) => "True"
  | .const _ (.bool false) => "False"
  | .const _ .ellipsis => "ellipsis"
  | .const .. => "literal"
  | .compare .. => "comparison"
  | .ifElse .. => "conditional expression"
  | .named .. => "named expression"
  | .slice .. => "slice"

inductive TargetKind where
  | assign
  | delete
  | loop
deriving DecidableEq

mutual

def badTarget (k : TargetKind) : Expr → Option Expr
  | .list _ es _ => badTargets k es
  | .tuple _ es _ => badTargets k es
  | .starred p e c => if k = .delete then some (.starred p e c) else badTarget k e
  | .compare p l ops rs =>
    if k = .loop then if ops.head? = some .in then badTarget k l else none
    else some (.compare p l ops rs)
  | .name .. | .subscript .. | .attribute .. => none
  | e => some e

def badTargets (k : TargetKind) : List Expr → Option Expr
  | [] => none
  | e :: es => (badTarget k e).or (badTargets k es)

end

/-- Raises a fault for the part of an expression that cannot be a target, if there is one. -/
def raiseTarget (k : TargetKind) (e : Expr) : R Unit :=
  match badTarget k e with
  | some b =>
    .raiseAt b.pos ((if k = .delete then "cannot delete " else "cannot assign to ") ++ exprName b)
  | none => P.miss

end Notebook.Grammar
