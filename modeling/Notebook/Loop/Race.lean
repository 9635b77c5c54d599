import Notebook.Loop.Basic

set_option autoImplicit false

namespace Notebook.Loop

variable {κ ν ε γ : Type}

structure Controller where
  signal : Option LatchId := none
deriving DecidableEq, Repr

namespace Controller

def arm (inLoop : Bool) (l : Loops κ ν ε γ) : Controller × Loops κ ν ε γ :=
  if inLoop then
    let (f, l) := l.newLatch
    ({ signal := some f }, l)
  else ({ signal := none }, l)

/-- The armed signal on the running loop, armed anew if it is spent or belongs to another loop. -/
def current (c : Controller) (l : Loops κ ν ε γ) : LatchId × Controller × Loops κ ν ε γ :=
  let fresh : LatchId × Controller × Loops κ ν ε γ :=
    let (f, l) := l.newLatch
    (f, { signal := some f }, l)
  match c.signal with
  | none => fresh
  | some f =>
    if (l.latchOutcome f).isDone || l.loopOfLatch f != l.current then fresh else (f, c, l)

/-- Fires the armed signal with an error and arms a fresh one. A signal of a closed loop is dropped.
-/
def interrupt (c : Controller) (inLoop : Bool) (error : ε) (l : Loops κ ν ε γ) :
    Controller × Loops κ ν ε γ :=
  match c.signal with
  | none => (c, l)
  | some f =>
    if l.isClosed (l.loopOfLatch f) then ({ signal := none }, l)
    else if (l.latchOutcome f).isDone then (c, l)
    else arm inLoop (l.settleLatch f (.failed error))

end Controller

/-- A race under way: the task, the signal, and the waiter that the first of them completes. -/
structure Race where
  task : FutureId
  signal : LatchId
  waiter : WaiterId
deriving DecidableEq, Repr

inductive RaceEnd (ν ε : Type) where
  | returned (value : ν)
  | failed (error : ε)
  /-- The task was cancelled by someone else. -/
  | taskCancelled
  /-- The signal came first without an error. -/
  | interrupted
  /-- The race itself was cancelled. -/
  | cancelled
  /-- The stack was used up by the request to cancel the task. -/
  | tooDeep

namespace Race

/-- Starts a race of a task against the signal. -/
def begin (task : FutureId) (c : Controller) (l : Loops κ ν ε γ) :
    Race × Controller × Loops κ ν ε γ :=
  let (signal, c, l) := c.current l
  let (waiter, l) := l.newWaiter
  let l := l.addCallback task (.complete waiter)
  let l := l.watchLatch signal waiter
  ({ task, signal, waiter }, c, l)

def release (r : Race) (l : Loops κ ν ε γ) : Loops κ ν ε γ :=
  (l.removeWaiter r.task r.waiter).modifyLatch r.signal fun x =>
    { x with waiters := x.waiters.filter (· != r.waiter) }

/-- Ends a race after its waiter is done: a finished task decides, else it is cancelled. -/
def decide (r : Race) (l : Loops κ ν ε γ) : RaceEnd ν ε × Loops κ ν ε γ :=
  let l := r.release l
  match l.outcome r.task with
  | .result v => (.returned v, l)
  | .failed e => (.failed e, l)
  | .cancelled => (.taskCancelled, l)
  | .pending =>
    let (answer, l) := l.cancel r.task
    if answer = .tooDeep then (.tooDeep, l)
    else match l.latchOutcome r.signal with
      | .failed e => (.failed e, l)
      | _ => (.interrupted, l)

def abandon (r : Race) (l : Loops κ ν ε γ) : RaceEnd ν ε × Loops κ ν ε γ :=
  let (answer, l) := (r.release l).cancel r.task
  (if answer = .tooDeep then .tooDeep else .cancelled, l)

end Race

end Notebook.Loop
