import Notebook.Machine.Step

set_option autoImplicit false

namespace Notebook.Machine

open Notebook.Code (Instr)

def addTrace (f : Frame) (exc : Value) : M Unit := do
  let here : Trace := { function := f.code.name, file := f.code.file, line := f.line }
  match exc with
  | .ref r =>
    modifyObj r fun o =>
      match o.payload with
      | .exception e => { o with payload := .exception { e with traces := here :: e.traces } }
      | _ => o
  | _ => return

def goesOn : Instr → Bool
  | .reraise | .raise 0 | .endAsyncFor => true
  | _ => false

def Frame.caught (f : Frame) (exc : Value) : Option Frame :=
  match f.guards with
  | [] => none
  | g :: guards =>
    some { f with guards, pc := g.target, stack := exc :: f.stack.drop (f.stack.length - g.height) }

/-- As many steps as any frame takes, and as many as there are instructions. -/
def Frame.patience (f : Frame) : Nat := Machine.patience + f.code.instrs.size

/-- Executes a frame from where it stands. -/
def execute (h : Host) : (fuel : Nat) → Frame → M Exit
  | 0, _ => throw .exhausted
  | fuel + 1, f => do
    match f.code.instrs[f.pc]? with
    | none => return .returned .none
    | some i =>
      match ← attempt (step h { f with pc := f.pc + 1 } i) with
      | .ok (.go g) => execute h fuel g
      | .ok (.done v) => return .returned v
      | .ok (.wait v g own) => return .yielded v g own
      | .error e =>
        if !goesOn i then addTrace f e
        match f.caught e with
        | some g => execute h fuel g
        | none => throw (.raised e)

/-- Lets a frame go on with an exception that comes up where it stands. -/
def executeFailed (h : Host) (f : Frame) (exc : Value) : M Exit := do
  addTrace f exc
  match f.caught exc with
  | some g => execute h g.patience g
  | none => throw (.raised exc)

/-- Hands an exception on to what a suspended frame delegates to. One that closes the frame closes
it first. -/
def throwOn (h : Host) (receiver exc : Value) : M Progress := do
  if ← isError exc "GeneratorExit" then
    match ← getAttr? h receiver "close" with
    | some close => discard (h.call close [] [])
    | none => pure ()
    throw (.raised exc)
  resumeAny h receiver (.throw exc)

def enterFrame (h : Host) (f : Frame) (input : Option Input) : M Exit := do
  match input, f.code.instrs[f.pc]? with
  | some (.send v), some .delegate => execute h f.patience (f.push v)
  | some (.throw e), some .delegate =>
    match ← attempt (throwOn h (f.peek 1) e) with
    | .error e => executeFailed h f e
    | .ok p =>
      match afterDelegate f p with
      | .go g => execute h g.patience g
      | .done v => return .returned v
      | .wait v g own => return .yielded v g own
  | some (.send v), some _ => execute h f.patience { f.push v with pc := f.pc + 1 }
  | some (.throw e), _ => executeFailed h f e
  | _, _ => execute h f.patience f

/-- Calls at most some levels deep. -/
def hostAt : Nat → Host
  | 0 => { call := fun _ _ _ => recursionError, enter := fun _ _ => recursionError }
  | n + 1 =>
    { call := fun f args keywords => callValue (hostAt n) f args keywords
      enter := fun f input => enterFrame (hostAt n) f input }

/-- Calls as deep as programs may go: a call and the frame that it enters are two levels. -/
def host : Host := hostAt 1960

end Notebook.Machine
