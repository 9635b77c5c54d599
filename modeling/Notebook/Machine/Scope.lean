import Notebook.Machine.Call

set_option autoImplicit false

namespace Notebook.Machine

open Notebook.Text Notebook.Source

namespace Frame

def push (f : Frame) (v : Value) : Frame := { f with stack := v :: f.stack }

def pushAll (f : Frame) (vs : List Value) : Frame := { f with stack := vs ++ f.stack }

def pop (f : Frame) : Value × Frame :=
  match f.stack with
  | v :: rest => (v, { f with stack := rest })
  | [] => (.none, f)

def popMany (f : Frame) (n : Nat) : List Value × Frame :=
  ((f.stack.take n).reverse, { f with stack := f.stack.drop n })

def peek (f : Frame) (depth : Nat) : Value := f.stack.getD (depth - 1) .none

def drop (f : Frame) (n : Nat) : Frame := { f with stack := f.stack.drop n }

def jump (f : Frame) (target : Nat) : Frame := { f with pc := target }

def swap (f : Frame) (depth : Nat) : Frame :=
  match f.stack with
  | top :: _ => { f with stack := (f.stack.set 0 (f.peek depth)).set (depth - 1) top }
  | [] => f

def setSlot (f : Frame) (i : Nat) (v : Option Value) : Frame :=
  { f with slots := f.slots.setIfInBounds i v }

def cellName (f : Frame) (i : Nat) : String :=
  if i < f.code.cells.size then f.code.cells.getD i "" else f.code.free.getD (i - f.code.cells.size) ""

def line (f : Frame) : Nat := f.code.lines.getD f.pc 0

end Frame

def constant : Tree.Constant → Value
  | .none => .none
  | .bool b => .bool b
  | .ellipsis => .ellipsis
  | .int n => .int n
  | .float x => .float x
  | .imag x => .complex 0 x
  | .str s _ => .str s
  | .bytes bs => .bytes bs

/-! Variables. -/

def unboundLocal {α : Type} (name : String) : M α :=
  raise "UnboundLocalError"
    s!"cannot access local variable {quote name} where it is not associated with a value"

def unboundFree {α : Type} (name : String) : M α :=
  raise "NameError"
    s!"cannot access free variable {quote name} where it is not associated with a value in enclosing scope"

def undefined {α : Type} (name : String) : M α := raise "NameError" s!"name {quote name} is not defined"

def builtinDoc : String :=
  "Built-in functions, exceptions, and other objects.\n\n" ++
    "Noteworthy: None is the \x60nil' object; Ellipsis represents \x60...' in slices."

def builtinTable : Names :=
  let values : List (String × Value) := Cell.builtins.filterMap fun b =>
    match b.type with
    | "type" => if (native? (nativeAlias b.name)).isSome then
        some (b.name, .ref (nativeRef (nativeAlias b.name))) else none
    | "builtin_function_or_method" | "Quitter" => some (b.name, .builtin b.name)
    | _ => none
  values ++
    [("Ellipsis", .ellipsis), ("NotImplemented", .notImplemented), ("__name__", .str "builtins"),
      ("__doc__", .str builtinDoc), ("__package__", .str ""),
      ("__build_class__", .builtin "__build_class__"), ("__debug__", .bool true)]

def loadGlobal (f : Frame) (name : String) : M Value := do
  match ← own? f.globals name with
  | some v => return v
  | none =>
    match builtinTable.lookup name with
    | some v => return v
    | none => undefined name

def loadNamed (f : Frame) (name : String) : M Value := do
  let found ← match f.names with
    | some r => own? r name
    | none => pure none
  match found with
  | some v => return v
  | none => loadGlobal f name

def cellRef (f : Frame) (i : Nat) : Ref := f.cells.getD i 0

def cellValue? (f : Frame) (i : Nat) : M (Option Value) := do
  match (← obj (cellRef f i)).payload with
  | .cell v => return v
  | _ => return none

def unboundCell {α : Type} (f : Frame) (i : Nat) : M α :=
  if i < f.code.cells.size then unboundLocal (f.cellName i) else unboundFree (f.cellName i)

def loadCell (f : Frame) (i : Nat) : M Value := do
  match ← cellValue? f i with
  | some v => return v
  | none => unboundCell f i

def loadFast (f : Frame) (i : Nat) : M Value := do
  match f.slots.getD i none with
  | some v => return v
  | none => unboundLocal (f.code.slots.getD i "")

def dropNamed (r : Ref) (name : String) : M Unit := do
  match ← own? r name with
  | some _ => dropOwn r name
  | none => undefined name

def firstArg? (f : Frame) : M (Option Value) := do
  let name := f.code.slots.getD 0 ""
  let i := f.code.cells.toList.idxOf name
  if i < f.code.cells.size then cellValue? f i else return f.slots.getD 0 none

/-- The object that looks up attributes after the class that a method is written in. -/
def superHere (f : Frame) : M Value := do
  if f.code.positional == 0 then raise "RuntimeError" "super(): no arguments"
  let names := f.code.cells.toList ++ f.code.free.toList
  let i := names.idxOf "__class__"
  if i ≥ names.length then raise "RuntimeError" "super(): __class__ cell not found"
  match ← cellValue? f i, ← firstArg? f with
  | some cls, some self => makeSuper [cls, self]
  | none, _ => raise "RuntimeError" "super(): empty __class__ cell"
  | _, none => raise "RuntimeError" "super(): arg[0] deleted"

/-- The names that are bound in a frame. -/
def boundNames (f : Frame) : M Names := do
  match f.names with
  | some r => return (← obj r).attrs
  | none =>
    let shared ← (List.range f.cells.size).filterMapM fun i => do
      return (← cellValue? f i).map fun v => (f.cellName i, v)
    let own := f.code.slots.toList.zipIdx.filterMap fun (n, i) =>
      if n == "" || f.code.cells.contains n then none
      else (f.slots.getD i none).map fun v => (n, v)
    return own ++ shared

def callHere? (f : Frame) (callee : Value) : M (Option Value) := do
  match callee with
  | .ref r => if r == nativeRef "super" then return some (← superHere f) else return none
  | .builtin "globals" => return some (← recordOf f.globals)
  | .builtin "locals" | .builtin "vars" =>
    match f.names with
    | some r => return some (← recordOf r)
    | none => return some (← namesDict (← boundNames f))
  | .builtin "dir" =>
    let names := ((← boundNames f).map (·.1)).toArray.qsort (· < ·)
    return some (← newList (names.toList.map .str))
  | _ => return none

end Notebook.Machine
