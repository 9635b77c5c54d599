/-! Event loops: futures, tasks and the queue of what is ready to run.

A task is a future with a body that runs in turns. Completing a future puts its callbacks at the end
of the queue of its loop; nothing runs before its turn. A race waits at a waiter for the first of a
task and a latch; these two are of the engine's own and no program holds them. -/

set_option autoImplicit false

namespace Notebook.Loop

/-- Number of a future. -/
abbrev FutureId := Nat

abbrev LatchId := Nat

abbrev WaiterId := Nat

inductive Awaited where
  | future (f : FutureId)
  | waiter (i : WaiterId)
deriving DecidableEq, Repr

def Awaited.future? : Awaited → Option FutureId
  | .future f => some f
  | .waiter _ => none

inductive Outcome (ν ε : Type) where
  | pending
  | cancelled
  | result (value : ν)
  | failed (error : ε)

inductive Callback (γ : Type) where
  /-- Resumes a task that awaits the future. -/
  | wake (task : FutureId)
  | complete (waiter : WaiterId)
  | other (action : γ)

/-- The part of a future that is a task. A task without a body is driven from outside. -/
structure Task (κ : Type) where
  body : Option κ
  awaiting : Option Awaited := none
  mustCancel : Bool := false
  /-- The future whose end the turn under way answers, unless a request to cancel does. -/
  answers : Option FutureId := none
  /-- How often the task was asked to be cancelled before it was done. -/
  cancels : Nat := 0

structure Future (κ ν ε γ : Type) where
  loop : Nat
  outcome : Outcome ν ε := .pending
  callbacks : List (Callback γ) := []
  task : Option (Task κ) := none
  /-- Futures that are cancelled in place of this one. -/
  members : List FutureId := []
  cancelRequested : Bool := false

structure Latch (ε : Type) where
  loop : Nat
  outcome : Outcome Unit ε := .pending
  /-- What the latch completes when it is done. -/
  waiters : List WaiterId := []

inductive WaiterState where
  | pending
  | completed
  | cancelled
deriving DecidableEq, Repr

structure Waiter where
  loop : Nat
  state : WaiterState := .pending
  /-- The tasks to be resumed. -/
  tasks : List FutureId := []

inductive Signal (ε : Type) where
  | go
  | cancelled
  | failed (error : ε)

inductive Handle (ε γ : Type) where
  | turn (task : FutureId) (signal : Signal ε)
  /-- Resumes a task that awaited something. -/
  | wake (task : FutureId) (source : Awaited)
  /-- Completes a waiter unless it is done. -/
  | complete (waiter : WaiterId)
  | act (action : γ) (future : FutureId)
  /-- The end of a sleep: completes a future unless it is done. -/
  | expire (future : FutureId)

/-- One event loop: its queue, how many entries of it belong to the pass under way, and its timers.
-/
structure Queue (ε γ : Type) where
  ready : List (Handle ε γ) := []
  left : Nat := 0
  isClosed : Bool := false
  now : Float := 0
  timers : List (Float × FutureId) := []

/-- What comes of a request to cancel a future. -/
inductive Request where
  /-- Nothing that is to be cancelled was found. -/
  | refused
  | taken
  /-- The stack was used up before the request was taken. -/
  | tooDeep
deriving DecidableEq, Repr

structure Loops (κ ν ε γ : Type) where
  futures : Array (Future κ ν ε γ) := #[]
  latches : Array (Latch ε) := #[]
  waiters : Array Waiter := #[]
  queues : Array (Queue ε γ) := #[{}]
  /-- The loop in use. -/
  current : Nat := 0
  /-- The task whose turn it is. -/
  running : Option FutureId := none
  /-- How far the stack lets a request to cancel be handed on. -/
  reach : Nat := 980

variable {κ ν ε γ : Type}

/-- Whether a callback completes a waiter. -/
def Callback.completes (i : WaiterId) : Callback γ → Bool
  | .complete w => w == i
  | _ => false

def Callback.handle (f : FutureId) : Callback γ → Handle ε γ
  | .wake t => .wake t (.future f)
  | .complete w => .complete w
  | .other a => .act a f

def Outcome.isDone : Outcome ν ε → Bool
  | .pending => false
  | _ => true

namespace Loops

def future? (l : Loops κ ν ε γ) (f : FutureId) : Option (Future κ ν ε γ) := l.futures[f]?

def outcome (l : Loops κ ν ε γ) (f : FutureId) : Outcome ν ε :=
  match l.future? f with
  | some x => x.outcome
  | none => .pending

def isDone (l : Loops κ ν ε γ) (f : FutureId) : Bool := (l.outcome f).isDone

def isCancelled (l : Loops κ ν ε γ) (f : FutureId) : Bool :=
  match l.outcome f with
  | .cancelled => true
  | _ => false

def modifyFuture (l : Loops κ ν ε γ) (f : FutureId) (g : Future κ ν ε γ → Future κ ν ε γ) :
    Loops κ ν ε γ :=
  { l with futures := l.futures.modify f g }

def modifyTask (l : Loops κ ν ε γ) (f : FutureId) (g : Task κ → Task κ) : Loops κ ν ε γ :=
  l.modifyFuture f fun x => { x with task := x.task.map g }

def modifyQueue (l : Loops κ ν ε γ) (n : Nat) (g : Queue ε γ → Queue ε γ) : Loops κ ν ε γ :=
  { l with queues := l.queues.modify n g }

def soon (l : Loops κ ν ε γ) (n : Nat) (h : Handle ε γ) : Loops κ ν ε γ :=
  l.modifyQueue n fun q => { q with ready := q.ready ++ [h] }

def soonAll (l : Loops κ ν ε γ) (n : Nat) (hs : List (Handle ε γ)) : Loops κ ν ε γ :=
  l.modifyQueue n fun q => { q with ready := q.ready ++ hs }

/-- A new future on the loop in use. -/
def create (l : Loops κ ν ε γ) : FutureId × Loops κ ν ε γ :=
  (l.futures.size, { l with futures := l.futures.push { loop := l.current } })

/-- A new task on the loop in use; its first turn comes after everything that is ready. -/
def spawn (l : Loops κ ν ε γ) (body : Option κ) : FutureId × Loops κ ν ε γ :=
  let f := l.futures.size
  let l := { l with futures := l.futures.push { loop := l.current, task := some { body } } }
  (f, l.soon l.current (.turn f .go))

def addCallback (l : Loops κ ν ε γ) (f : FutureId) (c : Callback γ) : Loops κ ν ε γ :=
  match l.future? f with
  | none => l
  | some x =>
    if x.outcome.isDone then l.soon x.loop (c.handle f)
    else l.modifyFuture f fun x => { x with callbacks := x.callbacks ++ [c] }

def joined (l : Loops κ ν ε γ) (f : FutureId) (members watched : List FutureId) (action : γ) :
    Loops κ ν ε γ :=
  watched.foldl (fun l m => l.addCallback m (.other action))
    (l.modifyFuture f fun x => { x with members })

def removeWaiter (l : Loops κ ν ε γ) (f : FutureId) (waiter : WaiterId) : Loops κ ν ε γ :=
  l.modifyFuture f fun x => { x with callbacks := x.callbacks.filter (!·.completes waiter) }

/-- Ends a future that is pending and makes its callbacks due. -/
def settle (l : Loops κ ν ε γ) (f : FutureId) (o : Outcome ν ε) : Loops κ ν ε γ :=
  match l.future? f with
  | none => l
  | some x =>
    if x.outcome.isDone then l
    else
      let l := l.modifyFuture f fun x => { x with outcome := o, callbacks := [] }
      l.soonAll x.loop (x.callbacks.map (·.handle f))

def settleOwn (l : Loops κ ν ε γ) (f : FutureId) (o : Outcome ν ε) : Loops κ ν ε γ :=
  if (l.future? f).any (·.task.isNone) then l.settle f o else l

/-! Latches and waiters. -/

def latch? (l : Loops κ ν ε γ) (i : LatchId) : Option (Latch ε) := l.latches[i]?

def latchOutcome (l : Loops κ ν ε γ) (i : LatchId) : Outcome Unit ε :=
  match l.latch? i with
  | some x => x.outcome
  | none => .pending

def modifyLatch (l : Loops κ ν ε γ) (i : LatchId) (g : Latch ε → Latch ε) : Loops κ ν ε γ :=
  { l with latches := l.latches.modify i g }

def newLatch (l : Loops κ ν ε γ) : LatchId × Loops κ ν ε γ :=
  (l.latches.size, { l with latches := l.latches.push { loop := l.current } })

def watchLatch (l : Loops κ ν ε γ) (i : LatchId) (waiter : WaiterId) : Loops κ ν ε γ :=
  match l.latch? i with
  | none => l
  | some x =>
    if x.outcome.isDone then l.soon x.loop (.complete waiter)
    else l.modifyLatch i fun x => { x with waiters := x.waiters ++ [waiter] }

def settleLatch (l : Loops κ ν ε γ) (i : LatchId) (o : Outcome Unit ε) : Loops κ ν ε γ :=
  match l.latch? i with
  | none => l
  | some x =>
    if x.outcome.isDone then l
    else
      let l := l.modifyLatch i fun x => { x with outcome := o, waiters := [] }
      l.soonAll x.loop (x.waiters.map .complete)

def waiter? (l : Loops κ ν ε γ) (i : WaiterId) : Option Waiter := l.waiters[i]?

def waiterState (l : Loops κ ν ε γ) (i : WaiterId) : WaiterState :=
  match l.waiter? i with
  | some x => x.state
  | none => .pending

def modifyWaiter (l : Loops κ ν ε γ) (i : WaiterId) (g : Waiter → Waiter) : Loops κ ν ε γ :=
  { l with waiters := l.waiters.modify i g }

def newWaiter (l : Loops κ ν ε γ) : WaiterId × Loops κ ν ε γ :=
  (l.waiters.size, { l with waiters := l.waiters.push { loop := l.current } })

def watchWaiter (l : Loops κ ν ε γ) (i : WaiterId) (task : FutureId) : Loops κ ν ε γ :=
  match l.waiter? i with
  | none => l
  | some x =>
    if x.state = .pending then l.modifyWaiter i fun x => { x with tasks := x.tasks ++ [task] }
    else l.soon x.loop (.wake task (.waiter i))

def settleWaiter (l : Loops κ ν ε γ) (i : WaiterId) (state : WaiterState) : Bool × Loops κ ν ε γ :=
  match l.waiter? i with
  | none => (false, l)
  | some x =>
    if x.state = .pending then
      let l := l.modifyWaiter i fun x => { x with state, tasks := [] }
      (true, l.soonAll x.loop (x.tasks.map fun t => .wake t (.waiter i)))
    else (false, l)

/-! Cancelling. -/

def handOn (l : Loops κ ν ε γ) (cancel : FutureId → Loops κ ν ε γ → Request × Loops κ ν ε γ)
    (awaiting : Option Awaited) : Request × Loops κ ν ε γ :=
  match awaiting with
  | none => (.refused, l)
  | some (.future f) => cancel f l
  | some (.waiter i) =>
    let (pending, l) := l.settleWaiter i .cancelled
    (if pending then .taken else .refused, l)

/-- Hands a request to cancel on to futures in turn; no more is asked when the stack is used up. -/
def handOnAll (cancel : FutureId → Loops κ ν ε γ → Request × Loops κ ν ε γ) :
    List FutureId → Loops κ ν ε γ → Request × Loops κ ν ε γ
  | [], l => (.refused, l)
  | m :: ms, l =>
    match cancel m l with
    | (.tooDeep, l) => (.tooDeep, l)
    | (.refused, l) => handOnAll cancel ms l
    | (.taken, l) =>
      let (rest, l) := handOnAll cancel ms l
      (if rest = .tooDeep then .tooDeep else .taken, l)

/-- Cancels a future. A task hands the request on to what it awaits, or takes it at its next turn;
`room` is how far the stack lets the request go from here. -/
def cancelWithin : (room : Nat) → FutureId → Loops κ ν ε γ → Request × Loops κ ν ε γ
  | 0, _, l => (.tooDeep, l)
  | room + 1, f, l =>
    match l.future? f with
    | none => (.refused, l)
    | some x =>
      if x.outcome.isDone then (.refused, l)
      else match x.task with
        | none =>
          if x.members.isEmpty then (.taken, l.settle f .cancelled)
          else
            let (answer, l) := handOnAll (cancelWithin room) x.members l
            (answer,
              if answer = .taken then l.modifyFuture f fun x => { x with cancelRequested := true }
              else l)
        | some t =>
          let l := l.modifyTask f fun t => { t with cancels := t.cancels + 1 }
          let (answer, l) := l.handOn (cancelWithin room) t.awaiting
          if answer = .refused then (.taken, l.modifyTask f fun t => { t with mustCancel := true })
          else (answer, l)

def cancel (l : Loops κ ν ε γ) (f : FutureId) : Request × Loops κ ν ε γ :=
  cancelWithin l.reach f l

def cancelTargets (l : Loops κ ν ε γ) : (fuel : Nat) → FutureId → List FutureId
  | 0, _ => []
  | fuel + 1, f =>
    match l.future? f with
    | none => []
    | some x =>
      if x.outcome.isDone then []
      else match x.task with
        | none => if x.members.isEmpty then [f] else x.members.flatMap (cancelTargets l fuel)
        | some t =>
          let further := ((t.awaiting.bind (·.future?)).map (cancelTargets l fuel)).getD []
          if further.isEmpty then [f] else further

/-- A sleep of some seconds: a future that a timer completes. -/
def sleep (l : Loops κ ν ε γ) (delay : Float) : FutureId × Loops κ ν ε γ :=
  let (f, l) := l.create
  (f, l.modifyQueue l.current fun q =>
    let due := q.now + delay
    let (before, after) := q.timers.span fun t => t.1 ≤ due
    { q with timers := before ++ (due, f) :: after })

def take? (l : Loops κ ν ε γ) : Option (Handle ε γ × Loops κ ν ε γ) :=
  match l.queues[l.current]? with
  | none => none
  | some q =>
    match q.ready with
    | h :: rest =>
      let left := if q.left == 0 then rest.length else q.left - 1
      some (h, l.modifyQueue l.current fun q => { q with ready := rest, left })
    | [] =>
      match q.timers with
      | [] => none
      | (due, f) :: rest =>
        some (.expire f, l.modifyQueue l.current fun q => { q with timers := rest, now := due })

/-- Starts a fresh loop and uses it; the one before stays as it is, or is closed. -/
def renew (l : Loops κ ν ε γ) (close : Bool) : Loops κ ν ε γ :=
  let l := if close then l.modifyQueue l.current fun q => { q with isClosed := true } else l
  { l with queues := l.queues.push {}, current := l.queues.size, running := none }

def isClosed (l : Loops κ ν ε γ) (n : Nat) : Bool := (l.queues[n]?.map (·.isClosed)).getD false

def loopOf (l : Loops κ ν ε γ) (f : FutureId) : Nat := (l.future? f).elim 0 (·.loop)

def loopOfLatch (l : Loops κ ν ε γ) (i : LatchId) : Nat := (l.latch? i).elim 0 (·.loop)

end Loops

end Notebook.Loop
