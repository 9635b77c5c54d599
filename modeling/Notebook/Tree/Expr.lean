import Notebook.Source.Fault

set_option autoImplicit false

namespace Notebook.Tree

open Notebook.Source

inductive Ctx where
  | load
  | store
  | del
deriving DecidableEq, Repr

inductive BoolOp where
  | and
  | or
deriving DecidableEq, Repr

inductive BinOp where
  | add
  | sub
  | mul
  | matMul
  | div
  | mod
  | pow
  | shiftLeft
  | shiftRight
  | bitOr
  | bitXor
  | bitAnd
  | floorDiv
deriving DecidableEq, Repr

inductive UnaryOp where
  | invert
  | not
  | plus
  | minus
deriving DecidableEq, Repr

inductive CmpOp where
  | eq
  | notEq
  | lt
  | ltE
  | gt
  | gtE
  | is
  | isNot
  | in
  | notIn
deriving DecidableEq, Repr

/-- Literal values. A text remembers whether it was written with the mark `u`. -/
inductive Constant where
  | none
  | bool (b : Bool)
  | ellipsis
  | int (n : Int)
  | float (x : Float)
  | imag (x : Float)
  | str (s : String) (marked : Bool)
  | bytes (bs : List UInt8)
deriving Repr

structure Param (α : Type) where
  pos : Pos
  name : String
  annotation : Option α
  default : Option α
deriving Repr

structure Params (α : Type) where
  positional : List (Param α) := []
  plain : List (Param α) := []
  star : Option (Param α) := none
  keyword : List (Param α) := []
  doubleStar : Option (Param α) := none
deriving Repr

structure Keyword (α : Type) where
  pos : Pos
  name : Option String
  value : α
deriving Repr

structure Clause (α : Type) where
  target : α
  iter : α
  conditions : List α
  isAsync : Bool
deriving Repr

/-- An entry of a dictionary display; without a key it unpacks a mapping. -/
structure Entry (α : Type) where
  key : Option α
  value : α
deriving Repr

inductive CompKind where
  | list
  | set
  | generator
deriving DecidableEq, Repr

inductive Expr where
  | boolOp (pos : Pos) (op : BoolOp) (values : List Expr)
  | named (pos : Pos) (target value : Expr)
  | binOp (pos : Pos) (left : Expr) (op : BinOp) (right : Expr)
  | unaryOp (pos : Pos) (op : UnaryOp) (operand : Expr)
  | lambda (pos : Pos) (params : Params Expr) (body : Expr)
  | ifElse (pos : Pos) (test body orelse : Expr)
  | dict (pos : Pos) (entries : List (Entry Expr))
  | set (pos : Pos) (elts : List Expr)
  | comp (pos : Pos) (kind : CompKind) (elt : Expr) (clauses : List (Clause Expr))
  | dictComp (pos : Pos) (key value : Expr) (clauses : List (Clause Expr))
  | await (pos : Pos) (value : Expr)
  | yield (pos : Pos) (value : Option Expr)
  | yieldFrom (pos : Pos) (value : Expr)
  | compare (pos : Pos) (left : Expr) (ops : List CmpOp) (rights : List Expr)
  | call (pos : Pos) (func : Expr) (args : List Expr) (keywords : List (Keyword Expr))
  | formatted (pos : Pos) (value : Expr) (conversion : Option Char) (spec : Option Expr)
  | joined (pos : Pos) (values : List Expr)
  | const (pos : Pos) (value : Constant)
  | attribute (pos : Pos) (value : Expr) (attr : String) (attrPos : Pos) (ctx : Ctx)
  | subscript (pos : Pos) (value index : Expr) (ctx : Ctx)
  | starred (pos : Pos) (value : Expr) (ctx : Ctx)
  | name (pos : Pos) (id : String) (ctx : Ctx)
  | list (pos : Pos) (elts : List Expr) (ctx : Ctx)
  | tuple (pos : Pos) (elts : List Expr) (ctx : Ctx)
  | slice (pos : Pos) (lower upper step : Option Expr)

def Expr.pos : Expr → Pos
  | .boolOp p .. | .named p .. | .binOp p .. | .unaryOp p .. | .lambda p .. | .ifElse p ..
  | .dict p .. | .set p .. | .comp p .. | .dictComp p .. | .await p .. | .yield p ..
  | .yieldFrom p .. | .compare p .. | .call p .. | .formatted p .. | .joined p .. | .const p ..
  | .attribute p .. | .subscript p .. | .starred p .. | .name p .. | .list p .. | .tuple p ..
  | .slice p .. => p

instance : Inhabited Expr := ⟨.const default .none⟩

inductive Pattern where
  | value (pos : Pos) (value : Expr)
  | singleton (pos : Pos) (value : Constant)
  | sequence (pos : Pos) (patterns : List Pattern)
  | mapping (pos : Pos) (keys : List Expr) (patterns : List Pattern) (rest : Option String)
  | class (pos : Pos) (cls : Expr) (patterns : List Pattern) (names : List String)
      (named : List Pattern)
  | star (pos : Pos) (name : Option String)
  | as (pos : Pos) (pattern : Option Pattern) (name : Option String)
  | or (pos : Pos) (patterns : List Pattern)

def Pattern.pos : Pattern → Pos
  | .value p .. | .singleton p .. | .sequence p .. | .mapping p .. | .class p .. | .star p ..
  | .as p .. | .or p .. => p

instance : Inhabited Pattern := ⟨.star default none⟩

end Notebook.Tree
