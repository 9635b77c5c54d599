set_option autoImplicit false

namespace Notebook.Source

/-- A place in a source text: lines count from 1, columns are UTF-8 bytes from 0. -/
structure Pos where
  line : Nat
  col : Nat
deriving DecidableEq, Repr, Inhabited

/-- The three families of faults that reading a source text can report. -/
inductive FaultKind where
  | malformed
  | indentation
  | tabs
deriving DecidableEq, Repr

/-- A fault of a source text; `offset` counts characters from 1, and 0 stands for "no place". -/
structure Fault where
  kind : FaultKind := .malformed
  message : String
  line : Nat
  offset : Nat
deriving DecidableEq, Repr

end Notebook.Source
