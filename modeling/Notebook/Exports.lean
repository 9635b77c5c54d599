/-! The namespace that cells read from and publish to: names with values, in the order in which the
names came in. One name is reserved and never stored. -/

set_option autoImplicit false

namespace Notebook

/-- Lists of names to export mean nothing in a shared namespace. -/
def reservedMarker : String := "__all__"

structure Exports (α : Type) where
  entries : List (String × α) := []
deriving Repr

namespace Exports

variable {α : Type}

def get? (e : Exports α) (name : String) : Option α := e.entries.lookup name

def contains (e : Exports α) (name : String) : Bool := (e.get? name).isSome

def names (e : Exports α) : List String := e.entries.map (·.1)

/-- Sets a value; a name that is there keeps its place, and the reserved name is ignored. -/
def assign (e : Exports α) (name : String) (value : α) : Exports α :=
  if name == reservedMarker then e
  else if e.contains name then
    ⟨e.entries.map fun p => if p.1 == name then (name, value) else p⟩
  else ⟨e.entries ++ [(name, value)]⟩

def remove (e : Exports α) (name : String) : Exports α := ⟨e.entries.filter (·.1 != name)⟩

def clear (_ : Exports α) : Exports α := {}

def popFirst? (e : Exports α) : Option ((String × α) × Exports α) :=
  match e.entries with
  | [] => none
  | p :: rest => some (p, ⟨rest⟩)

def pop? (e : Exports α) (name : String) : Option (α × Exports α) :=
  (e.get? name).map fun v => (v, e.remove name)

def setDefault (e : Exports α) (name : String) (value : α) : α × Exports α :=
  match e.get? name with
  | some v => (v, e)
  | none => (value, e.assign name value)

def update (e : Exports α) (entries : List (String × α)) : Exports α :=
  entries.foldl (fun e p => e.assign p.1 p.2) e

def ofList (entries : List (String × α)) : Exports α := update {} entries

end Exports

end Notebook
