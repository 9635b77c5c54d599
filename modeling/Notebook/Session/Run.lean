import Notebook.Session.Basic

/-! Running cells.

A run compiles a cell, runs its body, waits for it if it is asynchronous, and shows the last value.
It goes on in the main task of the session, which is driven from outside, or in a task of its own.
-/

set_option autoImplicit false

namespace Notebook.Session

open Notebook.Machine Notebook.Loop Notebook.Cell

inductive Begun where
  | ended (c : Closing)
  | racing (race : Race) (last : Option String)

/-- A cell after it is compiled: nothing is left to do, or its body is to be run. -/
inductive Prepared where
  | ended (c : Closing)
  | body (c : Compiled)

def registered : Except Trouble (List Diagnostic) → S Prepared
  | .error t => do return .ended (fail .fault (← troubleError t))
  | .ok ds => do
    match ← report ds with
    | .error e => return .ended (fail .fault e)
    | .ok _ => return .ended success

def registerModule (mode : Mode) (name src : String) : S Prepared := do
  let s ← get
  let (result, compiler) := (if mode == .browser then s.browser else s.inner).register name src
  set (if mode == .browser then { s with browser := compiler } else { s with inner := compiler })
  registered result

def updateModules (modules : List (String × String)) : S Unit := modify fun s =>
  { s with world := { s.world with cache := s.world.cache.update modules } }

/-- Goes on with a cell that is compiled: a diagnostic ends its run, and so does an empty body. -/
def proceed (c : Compiled) : S Prepared := do
  if !c.diagnostics.isEmpty then
    match ← report c.diagnostics with
    | .error e => return .ended (fail .fault e)
    | .ok _ => return .ended (.atOnce (.outcome .diagnostic (.diagnostics c.diagnostics)))
  else if c.body == "" then
    modify fun s => { s with declarations := c.declarations }
    return .ended success
  else return .body c

def takeOver : Except Trouble Compiled → S Prepared
  | .error t => do return .ended (fail .fault (← troubleError t))
  | .ok c => do
    updateModules c.updates
    proceed c

def prepare (src : String) : S Prepared := do
  let info := Cell.metadata src
  match info.module, info.mode with
  | some name, mode => registerModule mode name src
  | none, .browser => return .ended success
  | none, .local =>
    let s ← get
    let (result, inner) := s.inner.compile s.files s.declarations src
    set { s with inner }
    takeOver result

/-- Ends a run by showing the last value of the cell, which is kept nowhere. -/
def finish (last : Option String) : S Closing := do
  match last with
  | none => return success
  | some name =>
    let e ← exportsNow
    match e.get? name with
    | none => return success
    | some v =>
      setExports (e.remove name)
      if v.is .none then return success
      return .writing .result v (.outcome .success .none)

def runRealm (c : Compiled) : S (Except Value Value) := do
  let s ← get
  set { s with realm := s.realm.next, declarations := c.declarations }
  inWorld (s.realm.run c.body (.ref s.exports) s.loader c.hasTopLevelAwait)

def startRace (r : Ref) (last : Option String) : S Begun := do
  let s ← get
  let (controller, loops) : Controller × _ := (s.controller.current s.world.loops).2
  let (task, loops) := loops.spawn (some (.contained r))
  let (race, controller, loops) := Race.begin task controller loops
  set { s with controller, world := { s.world with loops } }
  return .racing race last

/-- Runs the body of a cell, if there is one to run; a body that may suspend is raced against the
signal. -/
def start : Prepared → S Begun
  | .ended e => return .ended e
  | .body c => do
    match ← runRealm c with
    | .error exc =>
      if ← inWorldOr false (isError exc "KeyboardInterrupt") then return .ended (.atOnce (.escaped exc))
      return .ended (fail .fault exc)
    | .ok v =>
      match c.hasTopLevelAwait, v with
      | true, .ref r => startRace r c.lastBinding
      | _, _ => do return .ended (← finish c.lastBinding)

/-- Begins a run. -/
def begin (src : String) : S Begun := do start (← prepare src)

def interruption : S Value := do
  let message := (← get).config.interruptMessage
  inWorldOr .none do newException "Interrupted" [← ofDatum message]

def failRace (exc : Value) : S Closing := do
  if !(← inWorldOr true (isError exc "Exception")) then return .atOnce (.escaped exc)
  let interrupted ← inWorldOr false (isError exc "Interrupted")
  return fail (if interrupted then .cancelled else .rejected) exc

def endBy (last : Option String) : RaceEnd Value Value → S Closing
  | .returned .none => finish last
  | .returned exc => return fail .rejected exc
  | .failed exc => failRace exc
  | .taskCancelled => do failRace (← newError "CellError" "cell task was cancelled")
  | .interrupted => do failRace (← interruption)
  | .cancelled => do return .atOnce (.escaped (← inWorldOr .none (newException "CancelledError" [])))
  | .tooDeep => do
    failRace (← newError "RecursionError" "maximum recursion depth exceeded while calling a Python object")

def endRace (race : Race) (signal : Signal Value) (last : Option String) : S Closing := do
  let s ← get
  let (ending, loops) : RaceEnd Value Value × _ := match signal with
    | .go => race.decide s.world.loops
    | _ => race.abandon s.world.loops
  set { s with world := { s.world with loops } }
  endBy last ending

/-- Fires the signal. -/
def interrupt : S Unit := do
  let exc ← interruption
  modify fun s =>
    let (controller, loops) := s.controller.interrupt s.world.inLoop exc s.world.loops
    { s with controller, world := { s.world with loops } }

/-! Tasks. -/

def turnOf : RunEnd → S (Turn Body Value Value)
  | .outcome .. => return .returns .none
  | .escaped exc => do
    let isKind (cls : String) : S Bool := inWorldOr false (isError exc cls)
    if ← isKind "CancelledError" then return .cancelled
    if (← isKind "KeyboardInterrupt") || (← isKind "SystemExit") then return .leaves exc
    return .raises exc

def jobOver (task : FutureId) (c : Closing) : S (Turn Body Value Value) := do
  let e ← c.conclude
  modify fun s => { s with ends := (task, c, e) :: s.ends }
  turnOf e

/-- A run that is a task of its own goes on until it has to wait. -/
def jobBegun (task : FutureId) : Begun → S (Turn Body Value Value)
  | .ended c => jobOver task c
  | .racing race last => return .awaits (.waiter race.waiter) (.job (.racing race last))

def jobTurn (task : FutureId) (job : Job) (signal : Signal Value) : S (Turn Body Value Value) := do
  match job, signal with
  | .start src, .go => do jobBegun task (← begin src)
  | .start _, _ => return .cancelled
  | .racing race last, signal => do jobOver task (← endRace race signal last)

def resume (task : FutureId) (body : Body) (signal : Signal Value) : S (Turn Body Value Value) := do
  match body with
  | .job j => jobTurn task j signal
  | .coroutine r => inWorldOr .cancelled (coroutineTurn host r body signal)
  | .contained r => inWorldOr .cancelled (containedTurn host r body signal)

def runner : Runner S Body Value Value Gather where
  get := do return (← get).world.loops
  set loops := modify fun s => { s with world := { s.world with loops } }
  resume := resume
  act g member := inWorldOr () (gatherDone g member)
  expired := .none

def fuel : Nat := 1000000000

/-- Starts the main task and the loop; gives the main task. -/
def open_ : S FutureId := do
  let s ← get
  let (main, loops) := s.world.loops.spawn none
  set { s with world := { s.world with loops, inLoop := true } }
  discard (runner.advance fuel)
  return main

/-- What the main task comes back with: a value, an error that left the loop, or nothing because
nothing is left to wait for. -/
inductive Back (α : Type) where
  | ok (a : α)
  | left (exc : Value)
  | stuck

/-- Runs a cell in the main task up to what it writes at its end. -/
def closing (main : FutureId) (src : String) : S (Back Closing) := do
  match ← begin src with
  | .ended c => return .ok c
  | .racing race last =>
    match ← runner.wait main (.waiter race.waiter) fuel with
    | .outside _ signal => return .ok (← endRace race signal last)
    | .left e => return .left e
    | _ => return .stuck

/-- Runs a cell in the main task. -/
def run (main : FutureId) (src : String) : S (Back RunEnd) := do
  match ← closing main src with
  | .ok c => return .ok (← c.conclude)
  | .left e => return .left e
  | .stuck => return .stuck

/-- Gives up the turn of the main task some times, or until something holds. -/
def settle (main : FutureId) (until_ : S Bool) : Nat → S (Back Unit)
  | 0 => return .ok ()
  | n + 1 => do
    if ← until_ then return .ok ()
    match ← runner.pause main fuel with
    | .outside .. => settle main until_ n
    | .left e => return .left e
    | _ => return .stuck

def endOfJob (task : FutureId) : S (Option RunEnd) := do
  let s ← get
  match s.world.loops.outcome task with
  | .pending => return none
  | .result _ | .failed _ => return (s.ends.lookup task).map (·.2)
  | .cancelled => do return some (.escaped (← inWorldOr .none (newException "CancelledError" [])))

def spawnJob (src : String) : S FutureId := do
  let s ← get
  let (task, loops) := s.world.loops.spawn (some (.job (.start src)))
  set { s with world := { s.world with loops } }
  return task

def isOver (task : FutureId) : S Bool := do return (← get).world.loops.isDone task

/-- Runs a cell in a task of its own, lets some turns pass, fires the signal and waits for up to
fifty more turns. -/
def runInterrupted (main : FutureId) (src : String) (turns : Nat) : S (Back (Option RunEnd)) := do
  let task ← spawnJob src
  match ← settle main (return false) turns with
  | .left e => return .left e
  | .stuck => return .stuck
  | .ok _ =>
    interrupt
    match ← settle main (isOver task) 50 with
    | .left e => return .left e
    | .stuck => return .stuck
    | .ok _ => return .ok (← endOfJob task)

/-! Bodies and modules by themselves. -/

def runBody (body : String) (require : Datum) (isAsync : Bool) : S (Except Value Value) := do
  let s ← get
  set { s with realm := s.realm.next }
  inWorld do s.realm.run body (.ref s.exports) (← ofDatum require) isAsync

/-- Waits for a value in the main task. -/
def await (main : FutureId) (v : Value) : S (Back (Except Value Value)) := do
  match ← inWorld (ensureFuture host v >>= fun
    | .ref r => futureId r
    | _ => return main) with
  | .error e => return .ok (.error e)
  | .ok task =>
    match ← runner.wait main (.future task) fuel with
    | .outside .. => return .ok (← inWorld (futureResult task))
    | .left e => return .left e
    | _ => return .stuck

/-- The entries of a traceback that lie in cells, outermost first, with their lines of source. -/
def cellTraces (exc : Value) : S (List (Trace × String)) := do
  let traces ← inWorldOr [] do
    match ← payload exc with
    | .exception e => return e.traces
    | _ => return []
  let sources := (← get).world.sources
  return (traces.filter fun t => t.file.startsWith "<cell-").map fun t =>
    (t, Text.trim (((sources.lookup t.file).getD []).getD (t.line - 1) ""))

def firstLine (n : Nat) : S String := do
  return (((← get).world.sources.lookup s!"<cell-{n}>").getD []).headD ""

/-- What a loaded value is: a module of the host, a generated one, or anything else. -/
inductive Loaded where
  | host (r : Ref) (name : String)
  | generated (r : Ref) (name : String) (file : Option String) (path : Option (List String))
      (names : List String)
  | value (text : Except Described String)

def loaded (v : Value) : S Loaded := do
  let w := (← get).world
  match v with
  | .ref r =>
    let o := w.heap.getD r default
    match o.payload with
    | .module label =>
      let name := textNamed o.attrs "__name__" label
      if w.hosts.any (·.2 == r) then return .host r name
      let file := (o.attrs.lookup "__file__").map fun _ => textNamed o.attrs "__file__" ""
      let path ← match o.attrs.lookup "__path__" with
        | some p => do
          let items ← inWorldOr [] (itemsOf host p)
          pure (some (items.filterMap fun
            | .str s => some s
            | _ => none))
        | none => pure none
      return .generated r name file path ((o.attrs.map (·.1)).filter fun n => !n.startsWith "__")
    | _ => do return .value (← shown v)
  | _ => do return .value (← shown v)

def follow (v : Value) : List String → M Value
  | [] => return v
  | n :: ns => do follow (← getAttr host v n) ns

end Notebook.Session
