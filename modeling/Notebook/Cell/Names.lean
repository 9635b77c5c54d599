import Notebook.Tree.Outline

set_option autoImplicit false

namespace Notebook.Cell

open Notebook.Source Notebook.Tree

def Mark.bound : Mark → List String
  | .name _ id .store => [id]
  | .definition n => [n]
  | .capture (some n) => [n]
  | .imports ns => ns.filter (· != "*")
  | _ => []

def Mark.opens : Mark → Bool
  | .definition _ | .scope => true
  | _ => false

mutual

def bindingOccurrences : Outline → List String
  | .node m outer _ =>
    Mark.bound m ++ if Mark.opens m then [] else bindingOccurrencesAll outer

def bindingOccurrencesAll : List Outline → List String
  | [] => []
  | o :: os => bindingOccurrences o ++ bindingOccurrencesAll os

end

/-- The names that a statement binds in the scope it runs in, each once, in source order. -/
def bindings (s : Stmt) : List String := (bindingOccurrences s.outline).eraseDups

/-- The bare names that a statement deletes. -/
def deletedNames : Stmt → List String
  | .delete _ ts => ts.filterMap fun
    | .name _ id _ => some id
    | _ => none
  | _ => []

def Mark.boundAnywhere : Mark → List String
  | .name _ _ .load => []
  | .name _ id _ => [id]
  | .definition n => [n]
  | .param n => [n]
  | .capture (some n) => [n]
  | .imports ns => ns
  | .features ns => ns
  | .global ns => ns
  | .nonlocal ns => ns
  | _ => []

mutual

def marks : Outline → List Mark
  | .node m outer inner => m :: marksAll outer ++ marksAll inner

def marksAll : List Outline → List Mark
  | [] => []
  | o :: os => marks o ++ marksAll os

end

def bodyMarks (body : List Stmt) : List Mark := marksAll (stmtOutlines body)

def boundAnywhere (body : List Stmt) : List String := (bodyMarks body).flatMap Mark.boundAnywhere

/-- A place where a name is read. -/
structure Reading where
  pos : Pos
  name : String
deriving DecidableEq, Repr

def Mark.reading : Mark → Option Reading
  | .name p id .load => some ⟨p, id⟩
  | .update p id => some ⟨p, id⟩
  | _ => none

def Reading.before (a b : Reading) : Bool :=
  a.pos.line < b.pos.line || (a.pos.line == b.pos.line && a.pos.col ≤ b.pos.col)

def readings (body : List Stmt) : List Reading :=
  ((bodyMarks body).filterMap Mark.reading).mergeSort Reading.before

def Mark.mentioned : Mark → List String
  | .name _ id _ => [id]
  | _ => []

def mentioned (body : List Stmt) : List String := (bodyMarks body).flatMap Mark.mentioned

mutual

def globalsOf : Outline → List String
  | .node m outer _ =>
    match m with
    | .global ns => ns
    | m => if Mark.opens m then [] else globalsOfAll outer

def globalsOfAll : List Outline → List String
  | [] => []
  | o :: os => globalsOf o ++ globalsOfAll os

end

def topLevelGlobals (body : List Stmt) : List String := globalsOfAll (stmtOutlines body)

mutual

def suspends : Outline → Bool
  | .node m outer _ => m == .suspend || suspendsAny outer

def suspendsAny : List Outline → Bool
  | [] => false
  | o :: os => suspends o || suspendsAny os

end

/-- Whether a body suspends outside of any function it defines. -/
def hasTopLevelAwait (body : List Stmt) : Bool := suspendsAny (stmtOutlines body)

end Notebook.Cell
