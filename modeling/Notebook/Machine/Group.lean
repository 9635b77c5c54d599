import Notebook.Machine.Args

set_option autoImplicit false

namespace Notebook.Machine

open Notebook.Text

def groupMembers? (v : Value) : M (Option (Exception × List Value)) := do
  match ← payload v with
  | .exception e => return if ← isA v "BaseExceptionGroup" then some (e, e.members) else none
  | _ => return none

def groupClass (name : String) (members : List Value) : M String := do
  if name == "BaseExceptionGroup" && (← members.allM (isA · "Exception")) then return "ExceptionGroup"
  return name

def membersOf (h : Host) (name : String) (args : List Value) : M (List Value) := do
  let callee := "BaseExceptionGroup.__new__()"
  match args with
  | [message, items] =>
    match ← core message with
    | .str _ => pure ()
    | w => typeError s!"{callee} argument 1 must be str, not {← typeName w}"
    let isSequence := (← sequence? items).isSome || (← special? items "__getitem__").isSome
    if !isSequence then typeError "second argument (exceptions) must be a sequence"
    let members ← itemsOf h items
    if members.isEmpty then valueError "second argument (exceptions) must be a non-empty sequence"
    members.zipIdx.forM fun (m, i) => do
      if !(← isA m "BaseException") then
        valueError s!"Item {i} of second argument (exceptions) is not an exception"
    if (← isSubclass (nativeRef name) (nativeRef "Exception")) then
      if !(← members.allM (isA · "Exception")) then
        typeError "Cannot nest BaseExceptions in an ExceptionGroup"
    return members
  | vs => typeError s!"{callee} takes exactly 2 arguments ({vs.length} given)"

def newGroup (message : Value) (items : Value) (members : List Value) : M Value := do
  newOf (← groupClass "BaseExceptionGroup" members)
    (.exception { args := [message, items], members })

/-- A group like another with other members; it keeps where the other comes from. -/
def regroup (e : Exception) (members : List Value) : M Value := do
  let v ← newGroup (argAt e.args 0) (← newList members) members
  match v with
  | .ref r =>
    modifyObj r fun o =>
      match o.payload with
      | .exception x => { o with payload := .exception { e with args := x.args, members } }
      | _ => o
  | _ => pure ()
  return v

def splitGroup (test : Value → M Bool) : (fuel : Nat) → Value → M (Option Value × Option Value)
  | 0, _ => recursionError
  | fuel + 1, v => do
    if ← test v then return (some v, none)
    match ← groupMembers? v with
    | none => return (none, some v)
    | some (e, members) =>
      let parts ← members.mapM (splitGroup test fuel)
      let build (ms : List Value) : M (Option Value) := do
        if ms.isEmpty then return none else return some (← regroup e ms)
      return (← build (parts.filterMap (·.1)), ← build (parts.filterMap (·.2)))

/-- The part of an exception that handlers of some classes take, and the rest. A plain exception is
taken as a group of one. -/
def takeGroup (test : Value → M Bool) (v : Value) : M (Value × Value) := do
  if v.is .none then return (.none, .none)
  if ← test v then
    if (← groupMembers? v).isSome then return (v, .none)
    return (← newGroup (.str "") (← newTuple [v]) [v], .none)
  if (← groupMembers? v).isNone then return (.none, v)
  let (taken, rest) ← splitGroup test nestingLimit v
  return (taken.getD .none, rest.getD .none)

def leaves : (fuel : Nat) → Value → M (List Value)
  | 0, _ => return []
  | fuel + 1, v => do
    match ← groupMembers? v with
    | none => return [v]
    | some (_, members) => return (← members.mapM (leaves fuel)).flatten

def sameOrigin (v w : Value) : M Bool := do
  match ← groupMembers? v, ← groupMembers? w with
  | some (e, _), some (f, _) => return e.context.is f.context && e.cause.is f.cause
  | _, _ => return false

/-- What is raised after handlers of a group: what they left of it or raised again, in its shape,
and what they raised themselves. -/
def mergeGroup (whole : Value) (left : List Value) : M Value := do
  let left := left.filter fun v => !v.is .none
  if (← groupMembers? whole).isNone then return left.headD .none
  let again ← left.filterM (sameOrigin · whole)
  let raised ← left.filterM fun v => do return !(← sameOrigin v whole)
  let kept := (← again.mapM (leaves nestingLimit)).flatten
  let (part, _) ← splitGroup (fun v => do
    return (← groupMembers? v).isNone && kept.any (·.is v)) nestingLimit whole
  let part := if kept.isEmpty then none else part
  if raised.isEmpty then return part.getD .none
  let all := raised ++ part.toList
  newGroup (.str "") (← newList all) all

def groupTest (h : Host) (v : Value) : M (Value → M Bool) := do
  let classes ← match ← payload v with
    | .tuple vs => pure vs
    | _ => pure [v]
  let refs ← classes.mapM fun c => do
    match c, ← asClass c with
    | .ref r, some _ =>
      return if ← isSubclass r (nativeRef "BaseException") then some r else none
    | _, _ => return none
  if refs.all Option.isSome && !refs.isEmpty then
    return fun e => do
      let cls ← classOf e
      (refs.filterMap id).anyM (isSubclass cls)
  match ← payload v with
  | .function _ => return fun e => do truth h (← h.call v [e] [])
  | _ =>
    match v with
    | .builtin _ | .bound .. | .native .. => return fun e => do truth h (← h.call v [e] [])
    | _ => typeError "expected a function, exception type or tuple of exception types"

def groupMethod (h : Host) (v : Value) (e : Exception) (name : String) (args : List Value) :
    M Value := do
  let a ← oneArg ("BaseExceptionGroup." ++ name) args
  match name with
  | "derive" => newGroup (argAt e.args 0) a (← membersOf h "BaseExceptionGroup" [argAt e.args 0, a])
  | "subgroup" => do
    let (part, _) ← splitGroup (← groupTest h a) nestingLimit v
    return part.getD .none
  | _ => do
    let (part, rest) ← splitGroup (← groupTest h a) nestingLimit v
    newTuple [part.getD .none, rest.getD .none]

end Notebook.Machine
