import Notebook.Grammar.Basic
import Notebook.Tree.Stmt

/-! The rules whose answers are remembered, and the record through which rules refer to each other.

Every rule is an ordinary function of the record `Rules`; the knot is tied once, so a rule may
refer to any other, itself included, without the functions being mutually recursive. -/

set_option autoImplicit false

namespace Notebook.Grammar

open Notebook.Source Notebook.Tree

inductive ExprRule where
  | starExpression
  | namedFault
  | namedExpression
  | starNamedExpression
  | expression
  | disjunction
  | conjunction
  | inversion
  | bitwiseOr
  | bitwiseXor
  | bitwiseAnd
  | shift
  | sum
  | term
  | factor
  | awaitPrimary
  | primary
  | strings
  | group
  | starTarget
  | targetWithStarAtom
  | singleTarget
  | targetPrimary
  | delTarget
  | annotationFault
deriving DecidableEq, Repr

inductive PatternRule where
  | pattern
  | closed
deriving DecidableEq, Repr

/-- A table by number: the root has the entry of zero, the entries of odd numbers are on its left and those of
the other even numbers on its right. -/
inductive Table (α : Type) where
  | empty
  | node (entry : Option α) (left right : Table α)

namespace Table

variable {α : Type}

def get? : Table α → Nat → Option α
  | .empty, _ => none
  | .node a _ _, 0 => a
  | .node _ l r, n + 1 => if n % 2 = 0 then l.get? (n / 2) else r.get? (n / 2)

def entry? : Table α → Option α
  | .empty => none
  | .node a _ _ => a

def left : Table α → Table α
  | .empty => .empty
  | .node _ l _ => l

def right : Table α → Table α
  | .empty => .empty
  | .node _ _ r => r

def fill (a : α) : Nat → Nat → Table α → Table α
  | 0, _, t => t
  | _ + 1, 0, t => .node (some a) t.left t.right
  | fuel + 1, n + 1, t =>
    if n % 2 = 0 then .node t.entry? (fill a fuel (n / 2) t.left) t.right
    else .node t.entry? t.left (fill a fuel (n / 2) t.right)

def insert (t : Table α) (n : Nat) (a : α) : Table α := fill a (n + 1) n t

theorem get?_zero (t : Table α) : t.get? 0 = t.entry? := by
  cases t <;> rfl

theorem get?_succ (t : Table α) (n : Nat) :
    t.get? (n + 1) = if n % 2 = 0 then t.left.get? (n / 2) else t.right.get? (n / 2) := by
  cases t with
  | empty => cases n / 2 <;> simp [get?, left, right]
  | node a l r => rfl

/-- Numbers are halved on the way down, so a level for each of them and one more is enough. -/
theorem get?_fill (a : α) (m : Nat) {fuel n : Nat} (within : n < fuel) (t : Table α) :
    (fill a fuel n t).get? m = if m = n then some a else t.get? m := by
  induction fuel generalizing n m t with
  | zero => cases within
  | succ fuel ih =>
    cases n with
    | zero =>
      cases m with
      | zero => rfl
      | succ m => rw [fill, get?, if_neg (Nat.succ_ne_zero m), get?_succ]
    | succ n =>
      have half : n / 2 < fuel := Nat.lt_of_le_of_lt (Nat.div_le_self n 2) (Nat.lt_of_succ_lt_succ within)
      rw [fill]
      cases m with
      | zero =>
        rw [if_neg (Nat.succ_ne_zero n).symm, get?_zero t]
        split <;> rfl
      | succ m =>
        rw [get?_succ t]
        by_cases even : n % 2 = 0
        · rw [if_pos even, get?, ih _ half]
          by_cases alike : m % 2 = 0
          · rw [if_pos alike, if_pos alike]
            have same : m / 2 = n / 2 ↔ m + 1 = n + 1 := by omega
            simp only [same]
          · rw [if_neg alike, if_neg alike, if_neg (by omega)]
        · rw [if_neg even, get?, ih _ half]
          by_cases alike : m % 2 = 0
          · rw [if_pos alike, if_pos alike, if_neg (by omega)]
          · rw [if_neg alike, if_neg alike]
            have same : m / 2 = n / 2 ↔ m + 1 = n + 1 := by omega
            simp only [same]

theorem get?_insert (t : Table α) (n m : Nat) (a : α) :
    (t.insert n a).get? m = if m = n then some a else t.get? m :=
  get?_fill a m (Nat.lt_succ_self n) t

end Table

/-- Answers already found, by rule and token: a value with the token behind it, or nothing. -/
structure Memo where
  exprs : Table (Option (Expr × Nat)) := .empty
  patterns : Table (Option (Pattern × Nat)) := .empty
  blocks : Table (Option (List Stmt × Nat)) := .empty

abbrev R (α : Type) : Type := P Memo α

structure Rules where
  expr : ExprRule → R Expr
  pattern : PatternRule → R Pattern
  block : R (List Stmt)
  /-- Reads an expression embedded in a string, given its text and place. -/
  embed : List Char → Pos → Except Fault Expr

def ExprRule.index : ExprRule → Nat
  | .starExpression => 0
  | .namedFault => 1
  | .namedExpression => 2
  | .starNamedExpression => 3
  | .expression => 4
  | .disjunction => 5
  | .conjunction => 6
  | .inversion => 7
  | .bitwiseOr => 8
  | .bitwiseXor => 9
  | .bitwiseAnd => 10
  | .shift => 11
  | .sum => 12
  | .term => 13
  | .factor => 14
  | .awaitPrimary => 15
  | .primary => 16
  | .strings => 17
  | .group => 18
  | .starTarget => 19
  | .targetWithStarAtom => 20
  | .singleTarget => 21
  | .targetPrimary => 22
  | .delTarget => 23
  | .annotationFault => 24

def ExprRule.key (r : ExprRule) (i : Nat) : Nat := 25 * i + r.index

/-- Whether answers of a rule are kept; the others are read afresh each time. -/
def ExprRule.kept : ExprRule → Bool
  | .namedExpression | .starNamedExpression | .group | .singleTarget | .annotationFault => false
  | _ => true

/-- Answers from the table when it can, and notes the answer otherwise. -/
def remember {α : Type} (find : Memo → Nat → Option (Option (α × Nat)))
    (note : Memo → Nat → Option (α × Nat) → Memo) (p : R α) : R α :=
  fun e ⟨start, seen, committed, memo⟩ =>
  match find memo start with
  | some (some (a, next)) => .found a ⟨next, seen, committed, memo⟩
  | some none => .missed ⟨start, seen, committed, memo⟩
  | none =>
    match p e ⟨start, seen, committed, memo⟩ with
    | .found a ⟨pos, seen, committed, memo⟩ =>
      .found a ⟨pos, seen, committed, note memo start (some (a, pos))⟩
    | .missed ⟨pos, seen, committed, memo⟩ =>
      .missed ⟨pos, seen, committed, note memo start none⟩
    | .raised x l => .raised x l

def rememberExpr (r : ExprRule) (p : R Expr) : R Expr :=
  if r.kept then
    remember (fun m i => m.exprs.get? (r.key i))
      (fun m i a => { m with exprs := m.exprs.insert (r.key i) a }) p
  else p

def rememberPattern (r : PatternRule) (p : R Pattern) : R Pattern :=
  let k := match r with
    | .pattern => 0
    | .closed => 1
  remember (fun m i => m.patterns.get? (2 * i + k))
    (fun m i a => { m with patterns := m.patterns.insert (2 * i + k) a }) p

def rememberBlock (p : R (List Stmt)) : R (List Stmt) :=
  remember (fun m i => m.blocks.get? i) (fun m i a => { m with blocks := m.blocks.insert i a }) p

end Notebook.Grammar
