import Notebook.Code.Stmt
import Notebook.Scope.Collect
import Notebook.Scope.Resolve

/-! From statements to code, or to the first fault that shows on the way: language features first,
then names, then the code itself. -/

set_option autoImplicit false

namespace Notebook.Code

open Notebook.Source Notebook.Tree Notebook.Scope

def knownFeatures : List String :=
  ["nested_scopes", "generators", "division", "absolute_import", "with_statement",
    "print_function", "unicode_literals", "barry_as_FLUFL", "generator_stop", "annotations"]

structure Features where
  deferred : Bool := false
  line : Option Nat := none

def featureFault {α : Type} (p : Pos) (message : String) : Except Fault α :=
  .error { message, line := p.line, offset := p.col + 1 }

def addFeatures (f : Features) (p : Pos) : List Alias → Except Fault Features
  | [] => .ok { f with line := some p.line }
  | a :: as =>
    if a.name == "annotations" then addFeatures { f with deferred := true } p as
    else if knownFeatures.contains a.name then addFeatures f p as
    else if a.name == "braces" then featureFault p "not a chance"
    else featureFault p s!"future feature {a.name} is not defined"

/-- Looks for features while only texts and imports of features have been seen, and to the end of
the line where something else comes first; `line` is that of the statement before. -/
def findFeatures (f : Features) (isPast : Bool) (line : Nat) : List Stmt → Except Fault Features
  | [] => .ok f
  | s :: ss =>
    let here := s.pos.line
    if isPast && here > line then .ok f
    else
      match s with
      | .importFrom p (some "__future__") names _ _ =>
        if isPast then
          featureFault p "from __future__ imports must occur at the beginning of the file"
        else do findFeatures (← addFeatures f p names) false here ss
      | .expr _ (.const _ (.str ..)) => findFeatures f isPast here ss
      | _ => findFeatures f true here ss

structure Options where
  file : String
  /-- Whether the text itself may suspend. -/
  topAwait : Bool := false
  /-- Whether annotations are kept as text even if the text does not ask for it. -/
  deferred : Bool := false

def textHeading (body : List Stmt) : Heading :=
  { name := "<module>", isNamed := false, kind := .module
    firstLine := (body.head?.map (·.pos.line)).getD 1 }

def writeText (body : List Stmt) : Gen PUnit := do
  let doc := docOf body
  match doc with
  | some d =>
    emit (.const (.str d false))
    emit (.storeName "__doc__")
  | none => pure ()
  genBody doc.isSome body
  emit (.const .none)
  emit .return

/-- The code of a text. -/
def compile (o : Options) (body : List Stmt) : Except Fault Program := do
  let features ← findFeatures {} false 0 body
  let deferred := o.deferred || features.deferred
  let scope ← resolve (← collect deferred body)
  let setting : Setting :=
    { file := o.file, scope, kind := .module, topAwait := o.topAwait, deferred
      featureLine := features.line }
  let (main, draft) ← (inUnit (textHeading body) scope none [] (writeText body)).run setting {}
  return { units := draft.units, main }

end Notebook.Code
