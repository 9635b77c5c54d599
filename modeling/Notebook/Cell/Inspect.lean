import Notebook.Cell.Compile

set_option autoImplicit false

namespace Notebook.Cell

open Notebook.Text

structure NameInfo where
  name : String
  kind : String
  display : String
  documentation : String
  start : Nat
  length : Nat
deriving DecidableEq, Repr

/-- The names that can stand in place of the text from `start` to `stop`. -/
structure Completion where
  start : Nat
  stop : Nat
  candidates : List String
deriving DecidableEq, Repr

/-- A position moved into a text of a length. -/
def clampPosition (position : Int) (length : Nat) : Nat := min position.toNat length

def wordBefore (cs : List Char) (position : Nat) : List Char :=
  ((cs.take position).reverse.takeWhile isWord).reverse

def wordAfter (cs : List Char) (position : Nat) : List Char := (cs.drop position).takeWhile isWord

namespace Compiler

/-- The declarations in scope at the end of a cell; a cell with a fault adds none. -/
def scopeEntries (prior src : String) : Except Trouble Declarations := do
  let decls ← parseDeclarations prior
  match parseText src with
  | .error (.trouble t) => throw t
  | .error (.fault _) => return decls
  | .ok body => declareBody decls body

/-- What a name is known as: its kind, how it is shown, and its documentation. -/
def describe (c : Compiler) (entries : Declarations) (name : String) : Option (String × String × String) :=
  match entries.lookup name with
  | some line => some ((declarationKind line).name, line, "")
  | none =>
    if keywords.contains name then some ("keyword", name, "")
    else match builtin? name with
      | some b => some ("builtin", name ++ ": " ++ b.type, b.documentation)
      | none => if c.extraGlobals.contains name then some ("global", objectLine name, "") else none

def inspect (c : Compiler) (prior src : String) (position : Int) :
    Except Trouble (Option NameInfo) :=
  let cs := src.toList
  let at_ := clampPosition position cs.length
  let before := wordBefore cs at_
  let word := before ++ wordAfter cs at_
  match word with
  | [] => .ok none
  | first :: _ =>
    if isDigit first then .ok none
    else do
      let name := String.ofList word
      let entries ← scopeEntries prior src
      return (c.describe entries name).map fun (kind, display, documentation) =>
        ⟨name, kind, display, documentation, at_ - before.length, word.length⟩

def codePointLe (a b : String) : Bool := a ≤ b

def complete (c : Compiler) (prior src : String) (position : Int) : Except Trouble Completion :=
  let cs := src.toList
  let stop := clampPosition position cs.length
  let word := wordBefore cs stop
  let start := stop - word.length
  if start > 0 && cs[start - 1]? == some '.' then .ok ⟨start, stop, []⟩
  else do
    let entries ← scopeEntries prior src
    let pool := entries.names ++ builtinNames ++ keywords ++ c.extraGlobals
    let start' := String.ofList word
    let fits n := n.startsWith start' && (start'.startsWith "_" || !n.startsWith "_")
    return ⟨start, stop, ((pool.filter fits).eraseDups).mergeSort codePointLe⟩

end Compiler

end Notebook.Cell
