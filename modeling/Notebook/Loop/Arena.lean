import Notebook.Loop.Race
import Notebook.Loop.Run

/-! Races on one controller: tasks of any kind, and races of them against the signal, on event loops
that come and go. -/

set_option autoImplicit false

namespace Notebook.Loop.Arena

/-- An error by class and message. -/
structure Error where
  type : String
  message : String
  /-- Whether the error leaves the event loop. -/
  leaves : Bool := false
deriving DecidableEq, Repr

/-- The error of a request to cancel that uses up the stack. -/
def tooDeep : Error :=
  { type := "RecursionError", message := "maximum recursion depth exceeded while calling a Python object" }

/-- What a task runs: a body, a race that is still to begin, or a race under way. -/
inductive Coroutine (β : Type) where
  | body (b : β)
  | raceBody (b : β)
  | raceTask (task : FutureId)
  | racing (r : Race)

inductive Launch (β : Type) where
  | body (b : β)
  /-- A race of a body, which becomes a task of its own. -/
  | race (b : β)
  | raceTask (task : FutureId)

def Launch.coroutine {β : Type} : Launch β → Coroutine β
  | .body b => .body b
  | .race b => .raceBody b
  | .raceTask t => .raceTask t

inductive Event where
  | start
  | cancelled
  | finish
deriving DecidableEq, Repr

def Event.name : Event → String
  | .start => "start"
  | .cancelled => "cancelled"
  | .finish => "finish"

/-- A controller with its loops and the log of the bodies. -/
structure World (β ν : Type) where
  message : String
  controller : Controller := {}
  loops : Loops (Coroutine β) ν Error Empty := {}
  log : List Event := []
  /-- Whether a loop runs. -/
  inLoop : Bool := false
  /-- How often someone asked for an interrupt. -/
  interrupts : Nat := 0

variable {β ν : Type}

namespace World

def interrupted (w : World β ν) : Error := { type := "Interrupted", message := w.message }

/-- Fires the signal. -/
def interrupt (w : World β ν) : World β ν :=
  let (controller, loops) := w.controller.interrupt w.inLoop w.interrupted w.loops
  { w with controller, loops, interrupts := w.interrupts + 1 }

/-- Asks for the armed signal; without a running loop there is one only if it is still pending, and
then it cannot be told whether it belongs to the loop. -/
def look (w : World β ν) : Option LatchId × World β ν :=
  if w.inLoop then
    let (i, controller, loops) := w.controller.current w.loops
    (some i, { w with controller, loops })
  else
    match w.controller.signal with
    | none => (none, w)
    | some i =>
      if (w.loops.latchOutcome i).isDone then (none, { w with controller := { signal := none } })
      else (some i, w)

end World

inductive Deed (β ν : Type) where
  | note (e : Event)
  | interrupt
  /-- Makes a future. -/
  | create
  | start (c : Launch β)
  | resolve (f : FutureId) (v : ν)
  | fail (f : FutureId) (e : Error)
  | cancel (f : FutureId)

def Deed.perform (w : World β ν) : Deed β ν → World β ν
  | .note e => { w with log := w.log ++ [e] }
  | .interrupt => w.interrupt
  | .create => { w with loops := w.loops.create.2 }
  | .start c => { w with loops := (w.loops.spawn (some c.coroutine)).2 }
  | .resolve f v => { w with loops := w.loops.settleOwn f (.result v) }
  | .fail f e => { w with loops := w.loops.settleOwn f (.failed e) }
  | .cancel f => { w with loops := (w.loops.cancel f).2 }

inductive Move (β ν : Type) where
  | awaits (f : FutureId) (b : β)
  | pauses (b : β)
  | returns (v : ν)
  | raises (e : Error)
  | cancelled

def Move.turn : Move β ν → Turn (Coroutine β) ν Error
  | .awaits f b => .awaits (.future f) (.body b)
  | .pauses b => .pauses (.body b)
  | .returns v => .returns v
  | .raises e => if e.leaves then .leaves e else .raises e
  | .cancelled => .cancelled

/-- Bodies of any kind: what one does in its turn, as the world is then. -/
abbrev Conduct (β ν : Type) := FutureId → β → Signal Error → World β ν → List (Deed β ν) × Move β ν

abbrev M (β ν : Type) := StateM (World β ν)

def perform (d : Deed β ν) : M β ν Unit := modify fun w => d.perform w

def bodyTurn (act : Conduct β ν) (task : FutureId) (b : β) (signal : Signal Error) :
    M β ν (Turn (Coroutine β) ν Error) := do
  let (deeds, move) := act task b signal (← get)
  modify fun w => deeds.foldl Deed.perform w
  return move.turn

def raceTurn (r : Race) (signal : Signal Error) : M β ν (Turn (Coroutine β) ν Error) := do
  let w ← get
  let (ending, loops) : RaceEnd ν Error × _ := match signal with
    | .go => r.decide w.loops
    | _ => r.abandon w.loops
  set { w with loops }
  match ending with
  | .returned v => return .returns v
  | .failed e => return .raises e
  | .taskCancelled => return .raises { type := "CellError", message := "cell task was cancelled" }
  | .interrupted => return .raises w.interrupted
  | .cancelled => return .cancelled
  | .tooDeep => return .raises tooDeep

def startRace (task : FutureId) : M β ν (Turn (Coroutine β) ν Error) := do
  let w ← get
  let (r, controller, loops) := Race.begin task w.controller w.loops
  set { w with controller, loops }
  return .awaits (.waiter r.waiter) (.racing r)

def resume (act : Conduct β ν) (task : FutureId) :
    Coroutine β → Signal Error → M β ν (Turn (Coroutine β) ν Error)
  | .body b, s => bodyTurn act task b s
  | .raceBody b, .go => do
    let w ← get
    let (controller, loops) : Controller × _ := (w.controller.current w.loops).2
    let (t, loops) := loops.spawn (some (.body b))
    set { w with controller, loops }
    startRace t
  | .raceTask t, .go => startRace t
  | .raceBody _, _ => return .cancelled
  | .raceTask _, _ => return .cancelled
  | .racing r, s => raceTurn r s

def runner (act : Conduct β ν) (unit : ν) : Runner (M β ν) (Coroutine β) ν Error Empty where
  get := do return (← get).loops
  set l := modify fun w => { w with loops := l }
  resume := resume act
  act a _ := nomatch a
  expired := unit

/-! Runs. -/

def isHost (l : Loops (Coroutine β) ν Error Empty) (t : FutureId) : Bool :=
  ((l.future? t).bind (·.task)).any (·.body.isNone)

/-- What happens next: something is done from outside, or the loop in use runs an entry of its queue.
-/
inductive Step (β ν : Type) where
  | deed (d : Deed β ν)
  | entry
  /-- Asks for the armed signal. -/
  | look
  /-- Starts a task that is driven from outside. -/
  | host
  /-- Lets a task that is driven from outside give up its turn. -/
  | pause (t : FutureId)
  /-- Ends a task that is driven from outside. -/
  | conclude (t : FutureId)
  /-- A loop begins or ceases to run. -/
  | loop (runs : Bool)
  /-- The loop in use is replaced by a fresh one, and perhaps closed. -/
  | renew (close : Bool)

def nextEntry (act : Conduct β ν) (unit : ν) (w : World β ν) : World β ν :=
  match w.loops.take? with
  | none => w
  | some (h, loops) => ((runner act unit).run h { w with loops }).2

def Step.perform (act : Conduct β ν) (unit : ν) (w : World β ν) : Step β ν → World β ν
  | .deed d => d.perform w
  | .entry => nextEntry act unit w
  | .look => w.look.2
  | .host => { w with loops := (w.loops.spawn none).2 }
  | .pause t =>
    if isHost w.loops t then
      { w with loops := { w.loops with running := none }.soon w.loops.current (.turn t .go) }
    else w
  | .conclude t =>
    if isHost w.loops t then
      { w with loops := { w.loops.finish t (.result unit) with running := none } }
    else w
  | .loop runs => { w with inLoop := runs }
  | .renew close => { w with loops := w.loops.renew close }

/-- A world after some steps. -/
def World.after (act : Conduct β ν) (unit : ν) (w : World β ν) (steps : List (Step β ν)) : World β ν :=
  steps.foldl (Step.perform act unit) w

end Notebook.Loop.Arena
