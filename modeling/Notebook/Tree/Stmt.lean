import Notebook.Tree.Expr

set_option autoImplicit false

namespace Notebook.Tree

open Notebook.Source

def isSlashless (s : String) : Bool := !s.toList.contains '/'

/-- A name of an import statement and the name it is bound to, when one is given. -/
structure Alias where
  pos : Pos
  name : String
  asName : Option String
  slashless : isSlashless name = true
deriving DecidableEq, Repr

structure WithItem where
  context : Expr
  target : Option Expr

structure Handler (β : Type) where
  pos : Pos
  type : Option Expr
  name : Option String
  body : β

structure MatchCase (β : Type) where
  pattern : Pattern
  guard : Option Expr
  body : β

structure FunctionHead where
  isAsync : Bool
  name : String
  params : Params Expr
  decorators : List Expr
  returns : Option Expr

structure ClassHead where
  name : String
  bases : List Expr
  keywords : List (Keyword Expr)
  decorators : List Expr

inductive Stmt where
  | function (pos : Pos) (head : FunctionHead) (body : List Stmt)
  | class (pos : Pos) (head : ClassHead) (body : List Stmt)
  | return (pos : Pos) (value : Option Expr)
  | delete (pos : Pos) (targets : List Expr)
  | assign (pos : Pos) (targets : List Expr) (value : Expr)
  | augAssign (pos : Pos) (target : Expr) (op : BinOp) (value : Expr)
  | annAssign (pos : Pos) (target annotation : Expr) (value : Option Expr) (simple : Bool)
  | for (pos : Pos) (isAsync : Bool) (target iter : Expr) (body orelse : List Stmt)
  | while (pos : Pos) (test : Expr) (body orelse : List Stmt)
  | if (pos : Pos) (test : Expr) (body orelse : List Stmt)
  | with (pos : Pos) (isAsync : Bool) (items : List WithItem) (body : List Stmt)
  | match (pos : Pos) (subject : Expr) (cases : List (MatchCase (List Stmt)))
  | raise (pos : Pos) (exc cause : Option Expr)
  | try (pos : Pos) (isStar : Bool) (body : List Stmt) (handlers : List (Handler (List Stmt)))
      (orelse final : List Stmt)
  | assert (pos : Pos) (test : Expr) (message : Option Expr)
  | import (pos : Pos) (names : List Alias)
  | importFrom (pos : Pos) (module : Option String) (names : List Alias) (level : Nat)
      (slashless : module.all isSlashless = true)
  | global (pos : Pos) (names : List String)
  | nonlocal (pos : Pos) (names : List String)
  | expr (pos : Pos) (value : Expr)
  | pass (pos : Pos)
  | break (pos : Pos)
  | continue (pos : Pos)

def Stmt.pos : Stmt → Pos
  | .function p .. | .class p .. | .return p .. | .delete p .. | .assign p .. | .augAssign p ..
  | .annAssign p .. | .for p .. | .while p .. | .if p .. | .with p .. | .match p .. | .raise p ..
  | .try p .. | .assert p .. | .import p .. | .importFrom p .. | .global p .. | .nonlocal p ..
  | .expr p .. | .pass p | .break p | .continue p => p

instance : Inhabited Stmt := ⟨.pass default⟩

end Notebook.Tree
