import Notebook.Datum
import Notebook.Machine.Run

/-! The realm: one lasting set of global names in which every cell body runs.

A body never runs at the top of the realm. It is the body of a function of the namespace of exports
and the loader, which is defined in the realm and called at once. -/

set_option autoImplicit false

namespace Notebook

open Notebook.Machine Notebook.Source Notebook.Tree

def cellFunction : String := "__cell__"

structure Realm where
  globals : Ref
  /-- How many bodies have been run. -/
  count : Nat := 0

namespace Realm

def start (name : String) : M Realm := do
  let globals ← alloc
    { cls := nativeRef "module", payload := .module name, attrs := [("__name__", .str name)] }
  return { globals }

def fileName (r : Realm) : String := s!"<cell-{r.count + 1}>"

def next (r : Realm) : Realm := { r with count := r.count + 1 }

def param (name : String) : Param Expr :=
  { pos := ⟨1, 0⟩, name, annotation := none, default := none }

/-- A body as the body of a function. -/
def wrap (body : List Stmt) (isAsync : Bool) : Stmt :=
  let head : FunctionHead :=
    { isAsync, name := cellFunction
      params := { positional := [], plain := [param "__exports__", param "__require__"], star := none
                  keyword := [], doubleStar := none }
      decorators := [], returns := none }
  .function ⟨1, 0⟩ head (if body.isEmpty then [.pass ⟨1, 0⟩] else body)

/-- Runs a body as the one after those before. Gives what its function returns, which is a coroutine
if the body may suspend. -/
def run (r : Realm) (body : String) (exports require : Value) (isAsync : Bool) : M Value := do
  let file := r.fileName
  remember file (Text.linesWithEnds body)
  let stmts ← statements file body
  let program ← orFault file (Code.compile { file } [wrap stmts isAsync])
  runIn host r.globals program
  match ← own? r.globals cellFunction with
  | some f =>
    dropOwn r.globals cellFunction
    host.call f [exports, require] []
  | none => return .none

end Realm

mutual

/-- Data as values of programs. -/
def Machine.ofDatum : Datum → M Value
  | .none => return .none
  | .bool b => return .bool b
  | .int n => return .int n
  | .float x => return .float x
  | .str s => return .str s
  | .list xs => do newList (← Machine.ofData xs)
  | .dict es => do newDict (← Machine.ofEntries es)
  | .bytes bs => return .bytes bs
  | .set _ | .date _ | .moment _ => return .none

def Machine.ofData : List Datum → M (List Value)
  | [] => return []
  | x :: xs => do return (← Machine.ofDatum x) :: (← Machine.ofData xs)

def Machine.ofEntries : List (Datum × Datum) → M (List (Value × Value))
  | [] => return []
  | (k, x) :: es => do
    return (← Machine.ofDatum k, ← Machine.ofDatum x) :: (← Machine.ofEntries es)

end

end Notebook
