import Notebook.Datum

set_option autoImplicit false

namespace Notebook

inductive Status where
  | success
  /-- The cell was not run: it does not compile. -/
  | diagnostic
  /-- The cell raised an error. -/
  | fault
  /-- What the cell returned and was waited for failed. -/
  | rejected
  | cancelled
deriving DecidableEq, Repr

namespace Status

def all : List Status := [.success, .diagnostic, .fault, .rejected, .cancelled]

def name : Status → String
  | .success => "success"
  | .diagnostic => "diagnostic"
  | .fault => "fault"
  | .rejected => "rejected"
  | .cancelled => "cancelled"

def ofName? (s : String) : Option Status := all.find? fun st => st.name == s

def isOk (s : Status) : Bool := s == .success

theorem ofName?_name (s : Status) : ofName? s.name = some s := by cases s <;> decide

end Status

structure Interruption where
  args : List Datum

namespace Interruption

def same (a b : Interruption) : Bool := Datum.sameAll a.args b.args

/-- How many different ones two are; the type of the first argument that cannot be told apart
quickly is an error. -/
def distinct (a b : Interruption) : Except String Nat :=
  match (a.args ++ b.args).find? fun d => !d.isHashable with
  | some d => .error d.typeName
  | none => .ok (if a.same b then 1 else 2)

end Interruption

end Notebook
