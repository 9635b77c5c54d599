import Notebook.Loop.Run
import Notebook.Machine.NativeMethod

set_option autoImplicit false

namespace Notebook.Machine

open Notebook.Text Notebook.Loop

def newTask (r : Ref) : M Value := do
  let id ← M.changeLoops (·.spawn (some (.coroutine r))) fun l => .spawn l trivial
  newOf "Task" (.future id)

def isCoroutine (v : Value) : M Bool := do
  match ← payload v with
  | .generator g => return g.flavor == .coroutine
  | .sleep .. => return true
  | _ => return false

def ensureFuture (h : Host) (v : Value) : M Value := do
  match v, ← payload v with
  | _, .future _ => return v
  | .ref r, p =>
    let isAwaitable := match p with
      | .step .. => true
      | _ => false
    if isAwaitable || (← isCoroutine v) then newTask r
    else if (← special? v "__await__").isSome then
      match ← awaitable h v with
      | .ref a => newTask a
      | _ => typeError "An asyncio.Future, a coroutine or an awaitable is required"
    else typeError "An asyncio.Future, a coroutine or an awaitable is required"
  | _, _ => typeError "An asyncio.Future, a coroutine or an awaitable is required"

def createTask (h : Host) (v : Value) : M Value := do
  if !(← read).inLoop then raise "RuntimeError" "no running event loop"
  match v with
  | .ref r =>
    if ← isCoroutine v then return ← newTask r
  | _ => pure ()
  typeError s!"a coroutine was expected, got {← repr h v}"

def objectOf (id : FutureId) : M Value := do
  let heap := (← read).heap
  let found := heap.findIdx? fun o =>
    match o.payload with
    | .future f => f == id
    | _ => false
  match found with
  | some r => return .ref r
  | none => newOf "Task" (.future id)

def currentTask : M Value := do
  match (← read).loops.running with
  | some id => objectOf id
  | none =>
    if (← read).inLoop then return .none
    raise "RuntimeError" "no running event loop"

def gatherFutures (h : Host) : List Value → List (Value × FutureId) → List FutureId →
    M (List FutureId)
  | [], _, acc => return acc.reverse
  | v :: vs, known, acc => do
    match known.find? fun k => k.1.is v with
    | some (_, id) => gatherFutures h vs known (id :: acc)
    | none =>
      match ← ensureFuture h v with
      | .ref r =>
        let id ← futureId r
        gatherFutures h vs ((v, id) :: known) (id :: acc)
      | _ => gatherFutures h vs known acc

def gather (h : Host) (args : List Value) (returnsErrors : Bool) : M Value := do
  let ids ← gatherFutures h args [] []
  let outer ← newFuture
  if ids.isEmpty then settleFuture outer (.result (← newList []))
  else
    let distinct := ids.eraseDups
    .changeLoops (fun l => ((), l.joined outer ids distinct { outer, returnsErrors })) fun l =>
      .joined l outer ids distinct _
    M.change fun w => { w with gathering := (outer, distinct.length) :: w.gathering }
  newOf (if ids.isEmpty then "Future" else "_GatheringFuture") (.future outer)

def memberResult (id : FutureId) : M Value := do
  match (← read).loops.outcome id with
  | .result v => return v
  | .failed e => return e
  | _ =>
    newException "CancelledError" [match (← read).cancelNotes.lookup id with
      | none | some .none => .str ""
      | some note => note]

def gatherDone (g : Gather) (member : FutureId) : M Unit := do
  let w ← read
  let left := ((w.gathering.lookup g.outer).getD 1) - 1
  M.change fun w => { w with gathering := (g.outer, left) :: w.gathering.filter (·.1 != g.outer) }
  if w.loops.isDone g.outer then return
  let fail (e : Value) : M Unit := settleFuture g.outer (.failed e)
  if !g.returnsErrors then
    match w.loops.outcome member with
    | .cancelled => return ← fail (← cancelledError member)
    | .failed e => return ← fail e
    | _ => pure ()
  if left == 0 then
    match w.loops.future? g.outer with
    | some x =>
      if x.cancelRequested then fail (← cancelledError member)
      else
        let results ← newList (← x.members.mapM memberResult)
        settleFuture g.outer (.result results)
    | none => return

/-- The exception that a cancelled task gets: that of the future it awaited, or its own. -/
def cancellation : M Value := do
  let l := (← read).loops
  match l.running with
  | none => newException "CancelledError" []
  | some task =>
    match ((l.future? task).bind (·.task)).bind (·.answers) with
    | some f => cancelledError f
    | none => cancelledError task

def keepCancellation (e : Value) : M Unit := do
  match (← read).loops.running with
  | none => return
  | some task =>
    M.change fun w =>
      { w with
        cancelErrors := (task, e) :: w.cancelErrors.filter (·.1 != task)
        cancelNotes := w.cancelNotes.filter (·.1 != task) }

def inputOf : Signal Value → M Input
  | .go => return .send .none
  | .failed e => return .throw e
  | .cancelled => do return .throw (← cancellation)

def turnAfter (h : Host) (body : Body) : Except Value Progress → M (Turn Body Value Value)
  | .ok (.returned v) => return .returns v
  | .ok (.yielded v _) => do
    match v, ← payload v with
    | .none, _ => return .pauses body
    | .ref _, .future id => return .awaits (.future id) body
    | _, _ =>
      let e ← newException "RuntimeError" [.str s!"Task got bad yield: {← repr h v}"]
      return .raises e
  | .error e => do
    if ← isError e "CancelledError" then
      keepCancellation e
      return .cancelled
    if (← isError e "KeyboardInterrupt") || (← isError e "SystemExit") then return .leaves e
    return .raises e

def coroutineTurn (h : Host) (r : Ref) (body : Body) (signal : Signal Value) :
    M (Turn Body Value Value) := do
  turnAfter h body (← attempt (resumeAny h (.ref r) (← inputOf signal)))

def contain : Turn Body Value Value → M (Turn Body Value Value)
  | .returns _ => return .returns .none
  | .raises e => return .returns e
  | .leaves e => do if ← isError e "KeyboardInterrupt" then return .leaves e else return .returns e
  | t => return t

def containedTurn (h : Host) (r : Ref) (body : Body) (signal : Signal Value) :
    M (Turn Body Value Value) := do
  contain (← coroutineTurn h r body signal)

def taskFunction (h : Host) (name : String) (args : List Value) (keywords : Names) : M Value := do
  match name with
  | "sleep" =>
    if args.isEmpty && keywords.isEmpty then
      typeError "sleep() missing 1 required positional argument: 'delay'"
    newOf "coroutine" (.sleep (optional args keywords 0 "delay" .none)
      (optional args keywords 1 "result" .none) .ahead)
  | "ensure_future" =>
    if args.isEmpty then
      typeError "ensure_future() missing 1 required positional argument: 'coro_or_future'"
    ensureFuture h (argAt args 0)
  | "create_task" =>
    if args.isEmpty then typeError "create_task() missing 1 required positional argument: 'coro'"
    createTask h (argAt args 0)
  | "gather" => do
    gather h args (← truth h ((keywords.lookup "return_exceptions").getD (.bool false)))
  | "iscoroutine" => return .bool (← isCoroutine (argAt args 0))
  | "isfuture" =>
    match ← payload (argAt args 0) with
    | .future _ => return .bool true
    | _ => return .bool false
  | "run" => raise "RuntimeError" "asyncio.run() cannot be called from a running event loop"
  | _ => currentTask

end Notebook.Machine
