import Notebook.Scope.Basic

set_option autoImplicit false

namespace Notebook.Scope

open Notebook.Source

/-- The names that a block inherits: those bound around it, absent at the top of a text, and those
declared global around it. -/
structure Around where
  bound : Option (List String)
  global : List String

structure Found where
  bindings : List (String × Binding) := []
  around : Around
  locals : List String := []
  free : List String := []

def directiveFault {α : Type} (i : Info) (name message : String) : Except Fault α :=
  let pos := (i.directives.lookup name).getD i.pos
  .error { message, line := pos.line, offset := pos.col + 1 }

def resolveName (i : Info) (f : Found) (name : String) (u : Usage) : Except Fault Found :=
  let put (b : Binding) (f : Found) : Found := { f with bindings := f.bindings ++ [(name, b)] }
  if u.global then
    if u.nonlocal then directiveFault i name s!"name '{name}' is nonlocal and global"
    else .ok <| put .globalDeclared { f with
      around := ⟨f.around.bound.map (·.filter (· != name)), name :: f.around.global⟩ }
  else if u.nonlocal then
    match f.around.bound with
    | none => directiveFault i name "nonlocal declaration not allowed at module level"
    | some bound =>
      if bound.contains name then .ok <| put .free { f with free := name :: f.free }
      else directiveFault i name s!"no binding for nonlocal '{name}' found"
  else if u.binds then
    .ok <| put .local { f with
      locals := name :: f.locals
      around := { f.around with global := f.around.global.filter (· != name) } }
  else if (f.around.bound.getD []).contains name then
    .ok <| put .free { f with free := name :: f.free }
  else .ok <| put .global f

def resolveNames (i : Info) : Found → List (String × Usage) → Except Fault Found
  | f, [] => .ok f
  | f, (n, u) :: rest => do resolveNames i (← resolveName i f n u) rest

/-- What the blocks inside a block inherit, `before` being what the block itself inherited. A class
hides its own names from them. -/
def inherited (i : Info) (before : Around) (f : Found) : Around :=
  match i.kind with
  | .class =>
    { bound := some ("__class__" :: before.bound.getD []), global := before.global }
  | .function =>
    { bound := some (f.locals ++ f.around.bound.getD []), global := f.around.global }
  | _ => { bound := some (f.around.bound.getD []), global := f.around.global }

/-- The names that a block leaves to the blocks around it for the blocks inside, which leave `inner`
to it. -/
def passedOn (i : Info) (f : Found) (inner : List String) : List String :=
  match i.kind with
  | .class => inner.filter (· != "__class__")
  | .function => inner.filter fun n => !f.locals.contains n
  | _ => inner

/-- How a function reaches a name that it found to be its own, or not. -/
def shared (i : Info) (inner : List String) (n : String) (b : Binding) : Binding :=
  if i.kind == .function && b == .local && inner.contains n then .cell else b

/-- The names of a block once it is known which of them the blocks inside it share. -/
def settled (i : Info) (f : Found) (inner : List String) : List (String × Binding) :=
  let extra := match i.kind with
    | .function | .class => (passedOn i f inner).filter fun n =>
      (i.usages.lookup n).isNone && (f.around.bound.getD []).contains n
    | _ => []
  f.bindings.map (fun (n, b) => (n, shared i inner n b)) ++ extra.map (·, .free)

def closureOf (i : Info) (f : Found) (inner : List String) : List String :=
  let through := match i.kind with
    | .class => (passedOn i f inner).filter fun n =>
      let u := i.usage n
      u.binds || u.global
    | _ => []
  ((settled i f inner).filter (·.2 == .free)).map (·.1) ++ through

mutual

def resolveBlock (around : Around) : Block → Except Fault (Resolved × List String)
  | .mk i inner => do
    let f ← resolveNames i { around } i.usages
    let (blocks, free) ← resolveBlocks (inherited i around f) inner
    return (.mk i (settled i f free) (closureOf i f free)
        (i.kind == .class && free.contains "__class__") blocks,
      (f.free ++ passedOn i f free).eraseDups)

def resolveBlocks (around : Around) : List Block → Except Fault (List Resolved × List String)
  | [] => .ok ([], [])
  | b :: bs => do
    let (r, free) ← resolveBlock around b
    let (rs, frees) ← resolveBlocks around bs
    return (r :: rs, (free ++ frees).eraseDups)

end

def resolve (b : Block) : Except Fault Resolved :=
  (resolveBlock { bound := none, global := [] } b).map (·.1)

end Notebook.Scope
