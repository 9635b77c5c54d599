import Notebook.Loop.Basic

set_option autoImplicit false

namespace Notebook.Loop

variable {κ ν ε γ : Type}

inductive Turn (κ ν ε : Type) where
  | awaits (what : Awaited) (body : κ)
  /-- Gives up the turn until the next pass. -/
  | pauses (body : κ)
  | returns (value : ν)
  | raises (error : ε)
  | cancelled
  /-- An error that leaves the event loop. -/
  | leaves (error : ε)

/-- What running a loop needs: access to the loops, bodies, and what other callbacks do. -/
structure Runner (m : Type → Type) (κ ν ε γ : Type) where
  get : m (Loops κ ν ε γ)
  set : Loops κ ν ε γ → m Unit
  resume : FutureId → κ → Signal ε → m (Turn κ ν ε)
  act : γ → FutureId → m Unit
  /-- What a timer completes a future with. -/
  expired : ν

/-- Where running a loop stops: at a turn of the task that is driven from outside, at an error that
leaves the loop, with nothing left to run, or out of fuel. -/
inductive Halt (ε : Type) where
  | outside (task : FutureId) (signal : Signal ε)
  | left (error : ε)
  | idle
  | exhausted

def Loops.takeSignal (l : Loops κ ν ε γ) (f : FutureId) (s : Signal ε) :
    Signal ε × Loops κ ν ε γ :=
  match (l.future? f).bind (·.task) with
  | none => (s, l)
  | some t =>
    let answers := if t.mustCancel then none else t.awaiting.bind (·.future?)
    let l := l.modifyTask f fun t => { t with mustCancel := false, awaiting := none, answers }
    (if t.mustCancel then .cancelled else s, l)

def Loops.watch (l : Loops κ ν ε γ) (what : Awaited) (task : FutureId) : Loops κ ν ε γ :=
  match what with
  | .future f => l.addCallback f (.wake task)
  | .waiter i => l.watchWaiter i task

/-- Lets a task await something; a cancellation that waits is handed on. -/
def Loops.await (l : Loops κ ν ε γ) (task : FutureId) (what : Awaited) : Loops κ ν ε γ :=
  let l := l.watch what task
  let l := l.modifyTask task fun t => { t with awaiting := some what }
  match (l.future? task).bind (·.task) with
  | some t =>
    if t.mustCancel then
      let (answer, l) := l.handOn (fun f l => l.cancel f) (some what)
      if answer = .taken then l.modifyTask task fun t => { t with mustCancel := false } else l
    else l
  | none => l

def Loops.finish (l : Loops κ ν ε γ) (task : FutureId) (o : Outcome ν ε) : Loops κ ν ε γ :=
  let must := ((l.future? task).bind (·.task)).elim false (·.mustCancel)
  match o with
  | .result v =>
    if must then (l.modifyTask task fun t => { t with mustCancel := false }).settle task .cancelled
    else l.settle task (.result v)
  | o => l.settle task o

/-- How what is done reaches a task that awaits it. -/
def Outcome.signal : Outcome ν ε → Signal ε
  | .failed e => .failed e
  | .cancelled => .cancelled
  | _ => .go

def Loops.signalOf (l : Loops κ ν ε γ) : Awaited → Signal ε
  | .future f => (l.outcome f).signal
  | .waiter i => if l.waiterState i = .cancelled then .cancelled else .go

variable {m : Type → Type} [Monad m]

namespace Runner

variable (r : Runner m κ ν ε γ)

def modify (f : Loops κ ν ε γ → Loops κ ν ε γ) : m Unit := do r.set (f (← r.get))

/-- Does what a task asks for at the end of its turn; tells what stops the loop, if anything. -/
def endTurn (f : FutureId) : Turn κ ν ε → m (Option (Halt ε))
  | .awaits what body => do
    r.modify fun l => (l.modifyTask f fun t => { t with body := some body }).await f what
    return none
  | .pauses body => do
    r.modify fun l =>
      (l.modifyTask f fun t => { t with body := some body }).soon (l.loopOf f) (.turn f .go)
    return none
  | .returns v => do
    r.modify (·.finish f (.result v))
    return none
  | .raises e => do
    r.modify (·.finish f (.failed e))
    return none
  | .cancelled => do
    r.modify (·.finish f .cancelled)
    return none
  | .leaves e => do
    r.modify (·.finish f (.failed e))
    return some (.left e)

/-- Lets the body of a task take its turn; a task without a body is driven from outside. -/
def takeTurn (f : FutureId) (s : Signal ε) (l : Loops κ ν ε γ) : m (Option (Halt ε)) := do
  match (l.future? f).bind (·.task) with
  | none => return none
  | some t =>
    r.set { l with running := some f }
    match t.body with
    | none => return some (.outside f s)
    | some body =>
      let result ← r.resume f body s
      r.modify fun l => { l with running := none }
      r.endTurn f result

/-- A turn of a task; tells what stops the loop, if anything. -/
def turn (f : FutureId) (s : Signal ε) : m (Option (Halt ε)) := do
  let l ← r.get
  if l.isDone f then return none
  let (s, l) := l.takeSignal f s
  r.takeTurn f s l

/-- Runs one entry of the queue. -/
def run : Handle ε γ → m (Option (Halt ε))
  | .turn f s => r.turn f s
  | .expire f => do
    r.modify (·.settleOwn f (.result r.expired))
    return none
  | .wake t source => do r.turn t ((← r.get).signalOf source)
  | .complete w => do
    r.modify fun l => (l.settleWaiter w .completed).2
    return none
  | .act a f => do
    r.act a f
    return none

def advance : (fuel : Nat) → m (Halt ε)
  | 0 => return .exhausted
  | fuel + 1 => do
    match (← r.get).take? with
    | none => return .idle
    | some (h, l) =>
      r.set l
      match ← r.run h with
      | some halt => return halt
      | none => advance fuel

def runSome : Nat → m (Option (Halt ε))
  | 0 => return none
  | n + 1 => do
    match (← r.get).take? with
    | none => return none
    | some (h, l) =>
      r.set l
      match ← r.run h with
      | some halt => return some halt
      | none => runSome n

/-- Ends the task that is driven from outside: the pass under way is completed and one more follows,
in which the loop learns that it is to stop. -/
def conclude (task : FutureId) : m (Option (Halt ε)) := do
  r.modify fun l => { l.finish task (.result r.expired) with running := none }
  let l ← r.get
  match ← r.runSome ((l.queues[l.current]?.map (·.left)).getD 0) with
  | some halt => return some halt
  | none =>
    let l ← r.get
    r.runSome ((l.queues[l.current]?.map (·.ready.length)).getD 0)

def pause (task : FutureId) (fuel : Nat) : m (Halt ε) := do
  r.modify fun l => { l with running := none }.soon l.current (.turn task .go)
  r.advance fuel

def wait (task : FutureId) (what : Awaited) (fuel : Nat) : m (Halt ε) := do
  r.modify fun l => { l.await task what with running := none }
  r.advance fuel

end Runner

end Notebook.Loop
