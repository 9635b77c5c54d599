import Notebook.Proofs.Steady

/-! Histories of a session: what is done with it from outside, one thing after another, and the
cells that begin on the way.

A cell begins in the main task or in a task of its own, which starts when the event loop comes to it.
What holds of a session through a history is shown in three parts: for quiet changes, for the
compiling with which a cell begins, and for changes of files. -/

set_option autoImplicit false

namespace Notebook.Session

open Notebook.Machine Notebook.Loop Notebook.Cell

/-! Beginning a cell. -/

def isRunHere (src : String) : Bool :=
  (metadata src).module.isNone && (metadata src).mode == .local

/-- What compiling a cell here gives. -/
def State.compiled (s : State) (src : String) : Except Trouble Compiled × Compiler :=
  s.inner.compile s.files s.declarations src

/-- A session right after a cell is registered or compiled, with its modules recorded. -/
def State.taken (s : State) (src : String) : State :=
  match (metadata src).module, (metadata src).mode with
  | some name, .browser => { s with browser := (s.browser.register name src).2 }
  | some name, .local => { s with inner := (s.inner.register name src).2 }
  | none, .browser => s
  | none, .local =>
    match s.compiled src with
    | (.error _, inner) => { s with inner }
    | (.ok c, inner) =>
      { s with inner, world := { s.world with cache := s.world.cache.update c.updates } }

theorem prepare_quiet (src : String) (s : State) : Quiet (s.taken src) (prepare src s).2 := by
  unfold prepare State.taken
  cases named : (metadata src).module with
  | some name =>
    cases mode : (metadata src).mode with
    | browser => exact Quiet.permits.registered _ _
    | «local» => exact Quiet.permits.registered _ _
  | none =>
    cases mode : (metadata src).mode with
    | browser => exact .refl s
    | «local» =>
      change Quiet _ (takeOver (s.compiled src).1 { s with inner := (s.compiled src).2 }).2
      obtain ⟨result, inner⟩ := s.compiled src
      cases result with
      | error t => exact Quiet.permits.registered (.error t) _
      | ok c => exact Quiet.permits.proceed c _

theorem begin_quiet (src : String) (s : State) : Quiet (s.taken src) (begin src s).2 := by
  unfold begin
  rw [bind_apply]
  exact (prepare_quiet src s).trans (Quiet.start _ _)

/-! Operations. -/

/-- What is done with a session from outside. -/
inductive Op where
  | write (path : String) (bytes : List UInt8)
  | delete (path : String)
  | run (src : String)
  | runInterrupted (src : String) (turns : Nat)
  | settle (turns : Nat)
  | interrupt
  | reset
  | close
  /-- Whatever programs do besides, such as showing a value. -/
  | execute (x : M Unit)

/-- A session after an operation. -/
def Op.perform (main : FutureId) (s : State) : Op → State
  | .write path bytes => { s with files := s.files.write path bytes }
  | .delete path => { s with files := s.files.delete path }
  | .run src => (Session.run main src s).2
  | .runInterrupted src turns => (Session.runInterrupted main src turns s).2
  | .settle turns => (Session.settle main (return false) turns s).2
  | .interrupt => (Session.interrupt s).2
  | .reset => (Session.reset s).2
  | .close => (Session.close s).2
  | .execute x => (inWorld x s).2

/-- A session after a list of operations. -/
def State.after (main : FutureId) (s : State) (ops : List Op) : State :=
  ops.foldl (Op.perform main) s

/-! Cells that begin. -/

section Begins

-- What is required of a state and a cell that begins in it.
variable (P : State → String → Prop)

def State.withLoops (s : State) (loops : Loops Body Value Value Gather) : State :=
  { s with world := { s.world with loops } }

def turnBegins (f : FutureId) (signal : Signal Value) (s : State) : Prop :=
  s.world.loops.isDone f = false → ∀ src,
    let (signal, loops) := s.world.loops.takeSignal f signal
    ((loops.future? f).bind (·.task)).bind (·.body) = some (.job (.start src)) → signal = .go →
      P (s.withLoops { loops with running := some f }) src

def handleBegins (s : State) : Handle Value Gather → Prop
  | .turn f signal => turnBegins P f signal s
  | .wake t source => turnBegins P t (s.world.loops.signalOf source) s
  | _ => True

def advanceBegins : (fuel : Nat) → State → Prop
  | 0, _ => True
  | fuel + 1, s =>
    match s.world.loops.take? with
    | none => True
    | some (h, loops) =>
      handleBegins P (s.withLoops loops) h ∧
        match runner.run h (s.withLoops loops) with
        | (some _, _) => True
        | (none, s') => advanceBegins fuel s'

def waitBegins (main : FutureId) (what : Awaited) (s : State) : Prop :=
  advanceBegins P fuel
    (s.withLoops { s.world.loops.await main what with running := none })

def pauseBegins (main : FutureId) (s : State) : Prop :=
  advanceBegins P fuel (s.withLoops
    ({ s.world.loops with running := none }.soon s.world.loops.current (.turn main .go)))

def settleBegins (main : FutureId) (until_ : S Bool) : Nat → State → Prop
  | 0, _ => True
  | n + 1, s =>
    match until_ s with
    | (true, _) => True
    | (false, s) =>
      pauseBegins P main s ∧
        match runner.pause main fuel s with
        | (.outside .., s) => settleBegins main until_ n s
        | _ => True

def runBegins (main : FutureId) (src : String) (s : State) : Prop :=
  P s src ∧
    match begin src s with
    | (.racing race _, s) => waitBegins P main (.waiter race.waiter) s
    | _ => True

def runInterruptedBegins (main : FutureId) (src : String) (turns : Nat) (s : State) : Prop :=
  match spawnJob src s with
  | (task, s) =>
    settleBegins P main (return false) turns s ∧
      match settle main (return false) turns s with
      | (.ok _, s) => settleBegins P main (isOver task) 50 (Session.interrupt s).2
      | _ => True

def Op.begins (main : FutureId) (s : State) : Op → Prop
  | .run src => runBegins P main src s
  | .runInterrupted src turns => runInterruptedBegins P main src turns s
  | .settle turns => settleBegins P main (return false) turns s
  | _ => True

/-- A requirement of every cell that begins in a list of operations. -/
def Begins (main : FutureId) : State → List Op → Prop
  | _, [] => True
  | s, op :: ops => op.begins P main s ∧ Begins main (op.perform main s) ops

def Begun.isEnded : Begun → Bool
  | .ended _ => true
  | .racing .. => false

theorem runBegins_of_ended {main : FutureId} {src : String} {s : State} (required : P s src)
    (ended : (begin src s).1.isEnded = true) : runBegins P main src s := by
  refine ⟨required, ?_⟩
  generalize begin src s = begun at ended ⊢
  obtain ⟨b, s'⟩ := begun
  cases b with
  | ended e => trivial
  | racing race last => cases ended

section

variable {P} (always : ∀ s src, P s src)

include always

theorem advanceBegins_of_always (fuel : Nat) (s : State) : advanceBegins P fuel s := by
  induction fuel generalizing s with
  | zero => trivial
  | succ fuel ih =>
    unfold advanceBegins
    split
    next => trivial
    next h loops _ =>
      refine ⟨?_, ?_⟩
      · cases h <;> first | trivial | exact fun _ _ _ _ => always _ _
      · split
        · trivial
        · exact ih _

theorem settleBegins_of_always (main : FutureId) (until_ : S Bool) (n : Nat) (s : State) :
    settleBegins P main until_ n s := by
  induction n generalizing s with
  | zero => trivial
  | succ n ih =>
    unfold settleBegins
    split
    · trivial
    · refine ⟨advanceBegins_of_always always _ _, ?_⟩
      split
      · exact ih _
      · trivial

theorem begins_of_always (main : FutureId) (s : State) (ops : List Op) : Begins P main s ops := by
  induction ops generalizing s with
  | nil => trivial
  | cons op ops ih =>
    refine ⟨?_, ih _⟩
    cases op with
    | run src =>
      refine ⟨always s src, ?_⟩
      split
      · exact advanceBegins_of_always always _ _
      · trivial
    | runInterrupted src turns =>
      refine ⟨settleBegins_of_always always main _ turns _, ?_⟩
      split
      · exact settleBegins_of_always always main _ 50 _
      · trivial
    | settle turns => exact settleBegins_of_always always main _ turns s
    | _ => trivial

end

end Begins

theorem advance_succ (fuel : Nat) (s : State) :
    runner.advance (fuel + 1) s = match s.world.loops.take? with
      | none => (.idle, s)
      | some (h, loops) =>
        match runner.run h (s.withLoops loops) with
        | (some halt, s') => (halt, s')
        | (none, s') => runner.advance fuel s' := by
  have got : runner.get s = (s.world.loops, s) := rfl
  rw [Runner.advance, bind_apply, got]
  dsimp only
  cases s.world.loops.take? with
  | none => rfl
  | some entry =>
    obtain ⟨h, l⟩ := entry
    have put : runner.set l s = ((), s.withLoops l) := rfl
    dsimp only
    rw [bind_apply, put, bind_apply]
    obtain ⟨halt, s'⟩ := runner.run h (s.withLoops l)
    cases halt <;> rfl

/-! What a history keeps. -/

/-- A property of sessions that quiet changes keep, and cells that begin as required; with it the
requirement gives something more. -/
structure Upkeep (Inv : State → Prop) (P Q : State → String → Prop) : Prop where
  quiet : ∀ {s s'}, Quiet s s' → Inv s → Inv s'
  taken : ∀ {s src}, Inv s → P s src → Inv (s.taken src)
  gives : ∀ {s src}, Inv s → P s src → Q s src

namespace Upkeep

variable {Inv : State → Prop} {P Q : State → String → Prop}

theorem quietly (u : Upkeep Inv P Q) {α : Type} {x : S α} (hx : Follows Quiet x) {s : State} (hs : Inv s) :
    Inv (x s).2 := u.quiet (hx s) hs

theorem loops (u : Upkeep Inv P Q) {s : State} (hs : Inv s)
    (loops : Loops Body Value Value Gather) : Inv (s.withLoops loops) := u.quiet (.loops s loops) hs

theorem begin (u : Upkeep Inv P Q) {s : State} {src : String} (hs : Inv s) (hp : P s src) :
    Inv (begin src s).2 := u.quiet (begin_quiet src s) (u.taken hs hp)

theorem jobTurn (u : Upkeep Inv P Q) {s : State} (hs : Inv s) (task : FutureId) (job : Job) (signal : Signal Value)
    (hp : ∀ src, job = .start src → signal = .go → P s src) :
    Inv (jobTurn task job signal s).2 := by
  unfold Session.jobTurn
  split
  next src =>
    rw [bind_apply]
    exact u.quietly (Quiet.permits.jobBegun _ _) (u.begin hs (hp src rfl rfl))
  next => exact u.quietly (Quiet.permits.pure _) hs
  next => exact u.quietly (Quiet.permits.bind (Quiet.endRace _ _ _) fun _ => Quiet.permits.jobOver _ _) hs

theorem resume (u : Upkeep Inv P Q) {s : State} (hs : Inv s) (f : FutureId) (body : Body)
    (signal : Signal Value)
    (hp : ∀ src, body = .job (.start src) → signal = .go → P s src) :
    Inv (resume f body signal s).2 := by
  cases body with
  | job j => exact u.jobTurn hs f j signal fun src h => hp src (congrArg _ h)
  | coroutine r => exact u.quietly (Quiet.permits.inWorldOr _ _) hs
  | contained r => exact u.quietly (Quiet.permits.inWorldOr _ _) hs

theorem takeTurn (u : Upkeep Inv P Q) {s : State} (hs : Inv s) (f : FutureId)
    (signal : Signal Value) (l : Loops Body Value Value Gather)
    (hp : ∀ src, ((l.future? f).bind (·.task)).bind (·.body) = some (.job (.start src)) →
      signal = .go → P (s.withLoops { l with running := some f }) src) :
    Inv (runner.takeTurn f signal l s).2 := by
  unfold Runner.takeTurn
  generalize (l.future? f).bind (·.task) = task at hp ⊢
  cases task with
  | none => exact hs
  | some t =>
    have first : Inv (s.withLoops { l with running := some f }) := u.loops hs _
    obtain ⟨body⟩ := t
    cases body with
    | none => exact first
    | some body =>
      have second := u.resume first f body signal fun src h => hp src (congrArg some h)
      have third := u.quietly (Quiet.modifyLoops fun l => { l with running := none }) second
      exact u.quietly (Quiet.endTurn f _) third

theorem turn (u : Upkeep Inv P Q) {s : State} (hs : Inv s) (f : FutureId) (signal : Signal Value)
    (hb : turnBegins P f signal s) :
    turnBegins Q f signal s ∧ Inv (runner.turn f signal s).2 := by
  refine ⟨fun undone src body go => u.gives (u.loops hs _) (hb undone src body go), ?_⟩
  change Inv ((if s.world.loops.isDone f = true then pure none
    else runner.takeTurn f (s.world.loops.takeSignal f signal).1
      (s.world.loops.takeSignal f signal).2 : S _) s).2
  split
  next => exact hs
  next done => exact u.takeTurn hs f _ _ (hb (Bool.eq_false_iff.mpr done))

theorem handle (u : Upkeep Inv P Q) {s : State} (hs : Inv s) (h : Handle Value Gather)
    (hb : handleBegins P s h) :
    handleBegins Q s h ∧ Inv (runner.run h s).2 := by
  cases h with
  | turn f signal => exact u.turn hs f signal hb
  | expire f => exact ⟨trivial, u.loops hs _⟩
  | wake t source => exact u.turn hs t _ hb
  | complete w => exact ⟨trivial, u.loops hs _⟩
  | act g f =>
    refine ⟨trivial, u.quietly (Quiet.permits.bind (Quiet.permits.inWorldOr _ (gatherDone g f)) fun _ => ?_) hs⟩
    exact Quiet.permits.pure _

theorem advance (u : Upkeep Inv P Q) (fuel : Nat) {s : State} (hs : Inv s)
    (hb : advanceBegins P fuel s) :
    advanceBegins Q fuel s ∧ Inv (runner.advance fuel s).2 := by
  induction fuel generalizing s with
  | zero => exact ⟨trivial, hs⟩
  | succ fuel ih =>
    rw [advance_succ]
    unfold advanceBegins at hb ⊢
    cases next : s.world.loops.take? with
    | none => exact ⟨trivial, hs⟩
    | some entry =>
      obtain ⟨h, l⟩ := entry
      rw [next] at hb
      obtain ⟨handled, rest⟩ := hb
      have ⟨first, kept⟩ := u.handle (u.loops hs l) h handled
      dsimp only
      generalize runner.run h (s.withLoops l) = ran at kept rest ⊢
      obtain ⟨halt, s'⟩ := ran
      cases halt with
      | some halt => exact ⟨⟨first, trivial⟩, kept⟩
      | none =>
        have ⟨more, final⟩ := ih kept rest
        exact ⟨⟨first, more⟩, final⟩

theorem wait (u : Upkeep Inv P Q) {s : State} (hs : Inv s) (main : FutureId) (what : Awaited)
    (hb : waitBegins P main what s) :
    waitBegins Q main what s ∧ Inv (runner.wait main what fuel s).2 := by
  have waiting := u.loops hs { s.world.loops.await main what with running := none }
  unfold Runner.wait
  rw [bind_apply]
  exact u.advance fuel waiting hb

theorem pause (u : Upkeep Inv P Q) {s : State} (hs : Inv s) (main : FutureId)
    (hb : pauseBegins P main s) :
    pauseBegins Q main s ∧ Inv (runner.pause main fuel s).2 := by
  have paused := u.loops hs
    ({ s.world.loops with running := none }.soon s.world.loops.current (.turn main .go))
  unfold Runner.pause
  rw [bind_apply]
  exact u.advance fuel paused hb

theorem settle (u : Upkeep Inv P Q) (main : FutureId) {until_ : S Bool} (hu : Follows Quiet until_) (n : Nat)
    {s : State} (hs : Inv s) (hb : settleBegins P main until_ n s) :
    settleBegins Q main until_ n s ∧
      Inv (settle main until_ n s).2 := by
  induction n generalizing s with
  | zero => exact ⟨trivial, hs⟩
  | succ n ih =>
    unfold settleBegins at hb ⊢
    have asked := u.quietly hu hs
    rw [Session.settle, bind_apply]
    generalize until_ s = answer at hb asked ⊢
    obtain ⟨isOver, s⟩ := answer
    cases isOver with
    | true => exact ⟨trivial, asked⟩
    | false =>
      dsimp only at hb asked ⊢
      obtain ⟨paused, rest⟩ := hb
      have ⟨first, kept⟩ := u.pause asked main paused
      rw [if_neg Bool.false_ne_true, bind_apply]
      generalize runner.pause main fuel s = ran at kept rest ⊢
      obtain ⟨halt, s⟩ := ran
      cases halt with
      | outside task signal =>
        have ⟨more, final⟩ := ih kept rest
        exact ⟨⟨first, more⟩, final⟩
      | left e => exact ⟨⟨first, trivial⟩, kept⟩
      | idle => exact ⟨⟨first, trivial⟩, kept⟩
      | exhausted => exact ⟨⟨first, trivial⟩, kept⟩

theorem closing (u : Upkeep Inv P Q) (main : FutureId) (src : String) {s : State} (hs : Inv s)
    (hb : runBegins P main src s) :
    runBegins Q main src s ∧ Inv (closing main src s).2 := by
  obtain ⟨required, rest⟩ := hb
  have kept := u.begin hs required
  unfold runBegins Session.closing
  rw [bind_apply]
  generalize Session.begin src s = begun at kept rest ⊢
  obtain ⟨b, s'⟩ := begun
  cases b with
  | ended e => exact ⟨⟨u.gives hs required, trivial⟩, kept⟩
  | racing race last =>
    have ⟨first, kept⟩ := u.wait kept main (.waiter race.waiter) rest
    refine ⟨⟨u.gives hs required, first⟩, ?_⟩
    dsimp only
    rw [bind_apply]
    generalize runner.wait main (.waiter race.waiter) fuel s' = ran at kept ⊢
    obtain ⟨halt, s'⟩ := ran
    cases halt with
    | outside task signal =>
      exact u.quietly (Quiet.permits.bind (Quiet.endRace race signal last) fun _ => Quiet.permits.pure _) kept
    | left e => exact kept
    | idle => exact kept
    | exhausted => exact kept

theorem run (u : Upkeep Inv P Q) (main : FutureId) (src : String) {s : State} (hs : Inv s)
    (hb : runBegins P main src s) :
    runBegins Q main src s ∧ Inv (run main src s).2 := by
  obtain ⟨gives, kept⟩ := u.closing main src hs hb
  refine ⟨gives, ?_⟩
  unfold Session.run
  rw [bind_apply]
  generalize Session.closing main src s = out at kept ⊢
  obtain ⟨back, s'⟩ := out
  cases back with
  | ok c => exact u.quietly (Quiet.permits.bind (Quiet.permits.conclude c) fun _ => Quiet.permits.pure _) kept
  | left e => exact kept
  | stuck => exact kept

theorem runInterrupted (u : Upkeep Inv P Q) (main : FutureId) (src : String) (turns : Nat)
    {s : State} (hs : Inv s) (hb : runInterruptedBegins P main src turns s) :
    runInterruptedBegins Q main src turns s ∧
      Inv (runInterrupted main src turns s).2 := by
  have spawned : Inv (spawnJob src s).2 := u.loops hs _
  unfold runInterruptedBegins at hb ⊢
  unfold Session.runInterrupted
  rw [bind_apply]
  generalize spawnJob src s = spawn at hb spawned ⊢
  obtain ⟨task, s⟩ := spawn
  dsimp only at hb spawned ⊢
  obtain ⟨settled, rest⟩ := hb
  have ⟨first, kept⟩ := u.settle main (Quiet.permits.pure false) turns spawned settled
  rw [bind_apply]
  generalize Session.settle main (return false) turns s = ran at kept rest ⊢
  obtain ⟨back, s⟩ := ran
  cases back with
  | left e => exact ⟨⟨first, trivial⟩, kept⟩
  | stuck => exact ⟨⟨first, trivial⟩, kept⟩
  | ok _ =>
    dsimp only at kept rest ⊢
    have fired := u.quietly Quiet.interrupt kept
    have ⟨second, kept⟩ := u.settle main (Quiet.permits.isOver task) 50 fired rest
    refine ⟨⟨first, second⟩, ?_⟩
    rw [bind_apply, bind_apply]
    generalize Session.settle main (isOver task) 50 (Session.interrupt s).2 = ran at kept ⊢
    obtain ⟨back, s⟩ := ran
    cases back with
    | left e => exact kept
    | stuck => exact kept
    | ok _ => exact u.quietly (Quiet.permits.bind (Quiet.permits.endOfJob task) fun _ => Quiet.permits.pure _) kept

theorem opened (u : Upkeep Inv P Q) {s : State} (hs : Inv s) (h : s.world.loops = {}) :
    Inv (open_ s).2 := by
  let first : Loops Body Value Value Gather := (({} : Loops Body Value Value Gather).spawn none).2
  let s' : State := { s with world := { s.world with loops := first, inLoop := true } }
  have same : (open_ s).2 = (runner.advance fuel s').2 := by
    obtain ⟨config, inner, browser, files, declarations, exports, realm, loader, controller, sink,
      last, world⟩ := s
    obtain ⟨heap, handled, streams, hasInput, loops⟩ := world
    subst h
    rfl
  have kept : Inv s' := u.quiet (s := s) ⟨rfl, rfl, rfl, rfl, rfl, rfl, rfl, .aside rfl rfl⟩ hs
  obtain ⟨n, hn⟩ : ∃ n, fuel = n + 1 := ⟨999999999, rfl⟩
  have began : advanceBegins P (n + 1) s' := by
    change turnBegins P 0 .go (s'.withLoops _) ∧ True
    refine ⟨fun _ src body => ?_, trivial⟩
    cases body
  rw [same, hn]
  exact (u.advance (n + 1) kept began).2

/-- What quiet changes and beginning cells keep, a history keeps, if its changes of files do. -/
theorem history (u : Upkeep Inv P Q) (main : FutureId) (ops : List Op) {s : State} (hs : Inv s)
    (write : ∀ s path bytes, Inv s → Inv { s with files := s.files.write path bytes })
    (delete : ∀ path, .delete path ∈ ops →
      ∀ s, Inv s → Inv { s with files := s.files.delete path })
    (close : .close ∈ ops → ∀ s, Inv s → Inv (close s).2)
    (hb : Begins P main s ops) :
    Begins Q main s ops ∧ Inv (s.after main ops) := by
  induction ops generalizing s with
  | nil => exact ⟨trivial, hs⟩
  | cons op ops ih =>
    obtain ⟨here, later⟩ := hb
    have step : op.begins Q main s ∧ Inv (op.perform main s) := by
      cases op with
      | write path bytes => exact ⟨trivial, write s path bytes hs⟩
      | delete path => exact ⟨trivial, delete path List.mem_cons_self s hs⟩
      | run src => exact u.run main src hs here
      | runInterrupted src turns => exact u.runInterrupted main src turns hs here
      | settle turns => exact u.settle main (Quiet.permits.pure false) turns hs here
      | interrupt => exact ⟨trivial, u.quietly Quiet.interrupt hs⟩
      | reset => exact ⟨trivial, u.quietly Quiet.permits.reset hs⟩
      | close => exact ⟨trivial, close List.mem_cons_self s hs⟩
      | execute x => exact ⟨trivial, u.quietly (Quiet.inWorld x) hs⟩
    have ⟨rest, final⟩ := ih step.2 (fun path h => delete path (List.mem_cons_of_mem _ h))
      (fun h => close (List.mem_cons_of_mem _ h)) later
    exact ⟨⟨step.1, rest⟩, final⟩

end Upkeep

end Notebook.Session
