import Notebook.Machine.Import

set_option autoImplicit false

namespace Notebook.Machine

open Notebook.Text

def notCallable {α : Type} (v : Value) : M α := do
  typeError s!"{quote (← typeName v)} object is not callable"

def callObject (h : Host) (r : Ref) (args : List Value) (keywords : Names) : M Value := do
  let o ← obj r
  match o.payload with
  | .function f => callFunction h f args keywords
  | .class c =>
    match ← findDefined "__call__" (← orderOf o.cls) with
    | some m => h.call m (.ref r :: args) keywords
    | none => instantiate h r c args keywords
  | .loader dir => callLoader h dir args keywords
  | .alias origin _ => h.call origin args keywords
  | .staticMethod f => h.call f args keywords
  | _ =>
    match ← special? (.ref r) "__call__" with
    | some m =>
      match ← kindOf m with
      | .function => h.call m (.ref r :: args) keywords
      | .staticMethod f => h.call f args keywords
      | _ => h.call m args keywords
    | none => notCallable (.ref r)

def callValue (h : Host) (f : Value) (args : List Value) (keywords : Names) : M Value := do
  match f with
  | .builtin n => callBuiltin h n args keywords
  | .native c n => callNative h c n args keywords
  | .bound self (.native c n) => callNative h c n (self :: args) keywords
  | .bound self (.ref r) => callObject h r (self :: args) keywords
  | .bound self g => h.call g (self :: args) keywords
  | .ref r => callObject h r args keywords
  | v => notCallable v

end Notebook.Machine
