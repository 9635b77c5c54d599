import Notebook.Loop.Arena

/-! Scripts of races: a body of a few fixed steps is raced against the signal while a list of acts
goes on beside it. -/

set_option autoImplicit false

namespace Notebook.Loop.Script

open Notebook.Loop.Arena hiding Error World M

abbrev Error := Arena.Error

structure Body (ν : Type) where
  selfCancel : Bool := false
  turns : Nat := 0
  interrupt : Bool := false
  pending : Bool := false
  /-- What the body returns when it is cancelled; without it the cancellation goes on. -/
  catches : Option ν := none
  raises : Option Error := none
  value : ν

inductive Stage where
  | start
  | selfCancelled
  | turns (left : Nat)
  | waiting

abbrev Progress (ν : Type) := Body ν × Stage

abbrev World (ν : Type) := Arena.World (Progress ν) ν

abbrev M (ν : Type) := Arena.M (Progress ν) ν

variable {ν : Type}

abbrev Acted (ν : Type) := List (Deed (Progress ν) ν) × Move (Progress ν) ν

def ending (b : Body ν) : Acted ν :=
  match b.raises with
  | some e => ([], .raises e)
  | none => ([.note .finish], .returns b.value)

def afterTurns (b : Body ν) (next : FutureId) : Acted ν :=
  let fires : List (Deed (Progress ν) ν) := if b.interrupt then [.interrupt] else []
  if b.pending then (fires ++ [.create], .awaits next (b, .waiting))
  else
    let (deeds, move) := ending b
    (fires ++ deeds, move)

def takeTurns (b : Body ν) (next : FutureId) : Nat → Acted ν
  | 0 => afterTurns b next
  | n + 1 => ([], .pauses (b, .turns n))

def cancelledBody (b : Body ν) : Acted ν :=
  ([.note .cancelled], b.catches.elim .cancelled .returns)

def conduct : Conduct (Progress ν) ν := fun task (b, stage) signal w =>
  let next := w.loops.futures.size
  match stage, signal with
  | .start, .go =>
    if b.selfCancel then ([.note .start, .cancel task], .pauses (b, .selfCancelled))
    else
      let (deeds, move) := takeTurns b next b.turns
      (.note .start :: deeds, move)
  | .start, _ => ([], .cancelled)
  | .selfCancelled, .go => takeTurns b next b.turns
  | .turns n, .go => takeTurns b next n
  | .waiting, .go => ending b
  | _, _ => cancelledBody b

def runner (unit : ν) : Runner (M ν) (Coroutine (Progress ν)) ν Error Empty :=
  Arena.runner conduct unit

inductive Act where
  | turn
  | interrupt
  | cancel
  | resolve
deriving DecidableEq, Repr

inductive Answer (ν : Type) where
  | nothing
  | result (value : ν)
  | error (e : Error)
  | taskCancelled
  | hang
  | current (done same : Bool)
  | outside (done : Bool)

def fuel : Nat := 1000000

/-- Runs a main task on the loop in use, from its first turn to the end of the loop's run. -/
def runMain (unit : ν) (main : FutureId → M ν (Answer ν)) : M ν (Answer ν) := do
  let r := runner unit
  let w ← get
  let (task, loops) := w.loops.spawn none
  set { w with loops, inLoop := true }
  let out ← match ← r.advance fuel with
    | .outside .. => do
      let a ← main task
      match ← r.conclude task with
      | some (.left e) => pure (.error e)
      | _ => pure a
    | .left e => pure (.error e)
    | _ => pure .hang
  modify fun w => { w with inLoop := false }
  return out

/-- Gives up the turn of the main task some times. -/
def turns (unit : ν) (main : FutureId) : Nat → M ν (Option Error)
  | 0 => return none
  | n + 1 => do
    match ← (runner unit).pause main fuel with
    | .left e => return some e
    | _ => turns unit main n

def turnsUntil (unit : ν) (main task : FutureId) : Nat → M ν (Option Error)
  | 0 => return none
  | n + 1 => do
    if (← get).loops.isDone task then return none
    match ← (runner unit).pause main fuel with
    | .left e => return some e
    | _ => turnsUntil unit main task n

def act (unit : ν) (main race : FutureId) : Act → M ν (Option Error)
  | .turn => turns unit main 1
  | .interrupt => do
    perform .interrupt
    return none
  | .cancel => do
    perform (.cancel race)
    return none
  | .resolve => do
    modify fun w =>
      let (f, controller, loops) := w.controller.current w.loops
      { w with controller, loops := loops.settleLatch f (.result ()) }
    return none

def acts (unit : ν) (main race : FutureId) : List Act → M ν (Option Error)
  | [] => return none
  | a :: as => do
    match ← act unit main race a with
    | some e => return some e
    | none => acts unit main race as

/-- Races a body, or a task of it, while acts go on beside it. -/
def race (unit : ν) (b : Body ν) (asTask : Bool) (as : List Act) : M ν (Answer ν) :=
  runMain unit fun main => do
    let t := (← get).loops.futures.size
    if asTask then perform (.start (.body (b, .start)))
    let task := (← get).loops.futures.size
    perform (.start (if asTask then .raceTask t else .race (b, .start)))
    match ← acts unit main task as with
    | some e => return .error e
    | none => pure ()
    match ← turnsUntil unit main task 50 with
    | some e => return .error e
    | none => pure ()
    let hangs := !(← get).loops.isDone task
    if hangs then perform (.cancel task)
    match ← turns unit main 5 with
    | some e => return .error e
    | none => pure ()
    if hangs then return .hang
    match (← get).loops.outcome task with
    | .result v => return .result v
    | .failed e => return .error e
    | _ => return .taskCancelled

def interruptStep (unit : ν) (inLoop : Bool) : M ν (Answer ν) :=
  if inLoop then runMain unit fun _ => do
    perform .interrupt
    return .nothing
  else do
    perform .interrupt
    return .nothing

/-- Looks at the armed signal on a running loop; `last` is the one seen before. -/
def currentStep (unit : ν) (last : Option LatchId) : M ν (Answer ν) :=
  runMain unit fun _ => do
    let (found, w) := (← get).look
    set w
    return .current (found.any fun i => (w.loops.latchOutcome i).isDone) (last == found)

def currentOutside : M ν (Answer ν) := do
  let (found, w) := (← get).look
  set w
  match found with
  | none =>
    return .error
      { type := "AttributeError", message := "'NoneType' object has no attribute 'done'" }
  | some _ => return .error { type := "RuntimeError", message := "no running event loop" }

def renewLoop (close : Bool) : M ν (Answer ν) := do
  modify fun w => { w with loops := w.loops.renew close }
  return .nothing

def signalState (w : World ν) : String :=
  match w.controller.signal with
  | none => "none"
  | some f =>
    match w.loops.latchOutcome f with
    | .pending => "pending"
    | .cancelled => "cancelled"
    | .result _ => "result"
    | .failed _ => "exception"

end Notebook.Loop.Script
