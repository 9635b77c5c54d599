import Notebook.Session.Run

/-! What a session keeps while it does not compile: its compilers and files stay, and its world goes
only where programs can lead it.

Most of what a session does is put together from executions of programs and from writing things down.
A relation between states that these two keep to is kept to by the rest. -/

set_option autoImplicit false

namespace Notebook.Session

open Notebook.Machine Notebook.Loop Notebook.Cell

theorem bind_apply {α β : Type} (x : S α) (f : α → S β) (s : State) :
    (x >>= f) s = f (x s).1 (x s).2 := rfl

theorem pure_apply {α : Type} (a : α) (s : State) : (pure a : S α) s = (a, s) := rfl

theorem get_apply (s : State) : (get : S State) s = (s, s) := rfl

theorem jobTurn_start (task : FutureId) (src : String) (s : State) :
    jobTurn task (.start src) .go s = jobBegun task (begin src s).1 (begin src s).2 := by
  rw [jobTurn, bind_apply]

theorem jobTurn_racing (task : FutureId) (race : Race) (last : Option String) (signal : Signal Value) (s : State) :
    jobTurn task (.racing race last) signal s
      = jobOver task (endRace race signal last s).1 (endRace race signal last s).2 := by
  rw [jobTurn, bind_apply]

/-- Actions that change a session as a relation allows, from whatever state. -/
def Follows {α : Type} (R : State → State → Prop) (x : S α) : Prop := ∀ s, R s (x s).2

theorem Follows.ite {α : Type} {R : State → State → Prop} {c : Prop} [Decidable c] {x y : S α}
    (hx : Follows R x) (hy : Follows R y) : Follows R (if c then x else y) := by
  split
  · exact hx
  · exact hy

/-- Whether what is written is kept nowhere. -/
def Sink.isConsole : Sink → Bool
  | .record _ => false
  | .console => true

/-- A relation between states that allows executions of programs, additions to a record, and changes of
the declarations and of the count of bodies; ends of runs are remembered. -/
structure Permits (R : State → State → Prop) : Prop where
  refl : ∀ s, R s s
  trans : ∀ {s s' s''}, R s s' → R s' s'' → R s s''
  programs : ∀ {α : Type} (x : M α) (s : State), R s (inWorld x s).2
  records : ∀ (s : State) (r r' : Record Value), s.sink = .record r → R s { s with sink := .record r' }
  notes : ∀ (s : State) (declarations : String) (count : Nat),
    R s { s with declarations, realm := { s.realm with count } }
  remembers : ∀ (s : State) (x : FutureId × Closing × RunEnd), R s { s with ends := x :: s.ends }

namespace Permits

variable {R : State → State → Prop} (p : Permits R) {α β : Type}

include p

theorem pure (a : α) : Follows R (pure a : S α) := p.refl

theorem get : Follows R (get : S State) := p.refl

theorem bind {x : S α} {f : α → S β} (hx : Follows R x) (hf : ∀ a, Follows R (f a)) :
    Follows R (x >>= f) := fun s => p.trans (hx s) (hf _ _)

theorem inWorldOr (a : α) (x : M α) : Follows R (inWorldOr a x) := by
  refine p.bind (p.programs x) fun r => ?_
  cases r with
  | ok a => exact p.pure a
  | error _ => exact p.pure a

/-! Writing. -/

theorem write (c : Channel) (v : Value) : Follows R (write c v) := by
  intro s
  unfold Session.write
  rw [bind_apply, get_apply]
  cases sink : s.sink with
  | record r => exact p.records s r _ sink
  | console => exact p.programs _ s

theorem conclude (c : Closing) : Follows R c.conclude := by
  cases c with
  | atOnce e => exact p.pure _
  | writing c v e =>
    refine p.bind (p.write _ _) fun r => ?_
    cases r with
    | ok _ => exact p.pure _
    | error _ => exact p.pure _

theorem troubleError (t : Trouble) : Follows R (troubleError t) := by
  unfold Session.troubleError
  split
  · exact p.inWorldOr _ _
  · exact p.inWorldOr _ _

theorem reportOf (d : Diagnostic) : Follows R (reportOf d) := by
  refine p.bind p.get fun s => ?_
  split
  · split
    · exact p.pure _
    · exact p.bind (p.inWorldOr _ _) fun _ => p.pure _
  · exact p.bind (p.inWorldOr _ _) fun _ => p.pure _

theorem report (ds : List Diagnostic) : Follows R (report ds) := by
  induction ds with
  | nil => exact p.pure _
  | cons d ds ih =>
    refine p.bind (p.reportOf d) fun r => ?_
    cases r with
    | error e => exact p.pure _
    | ok text =>
      refine p.bind (p.write _ _) fun r => ?_
      cases r with
      | error e => exact p.pure _
      | ok _ => exact ih

/-! Names. -/

theorem exportsNow : Follows R exportsNow := by
  refine p.bind p.get fun s => ?_
  split <;> exact p.pure _

theorem setExports (e : Exports Value) : Follows R (setExports e) :=
  p.bind p.get fun _ => p.inWorldOr _ _

theorem reset : Follows R reset :=
  p.bind (fun s => p.notes s "" s.realm.count) fun _ => p.setExports _

/-! Running bodies. -/

theorem registered (result : Except Trouble (List Diagnostic)) : Follows R (registered result) := by
  cases result with
  | error t => exact p.bind (p.troubleError t) fun _ => p.pure _
  | ok ds =>
    refine p.bind (p.report ds) fun r => ?_
    cases r with
    | error e => exact p.pure _
    | ok _ => exact p.pure _

theorem proceed (c : Compiled) : Follows R (proceed c) := by
  refine .ite ?_ (.ite ?_ (p.pure _))
  · refine p.bind (p.report _) fun r => ?_
    cases r with
    | error e => exact p.pure _
    | ok _ => exact p.pure _
  · exact p.bind (fun s => p.notes s _ s.realm.count) fun _ => p.pure _

theorem finish (last : Option String) : Follows R (finish last) := by
  cases last with
  | none => exact p.pure _
  | some name =>
    refine p.bind p.exportsNow fun e => ?_
    split
    · exact p.pure _
    · exact p.bind (p.setExports _) fun _ => .ite (p.pure _) (p.pure _)

theorem runRealm (c : Compiled) : Follows R (runRealm c) := fun s =>
  p.trans (p.notes s c.declarations (s.realm.count + 1)) (p.programs _ _)

theorem start (race : ∀ r last, Follows R (startRace r last)) (prepared : Prepared) :
    Follows R (start prepared) := by
  cases prepared with
  | ended e => exact p.pure _
  | body c =>
    refine p.bind (p.runRealm c) fun r => ?_
    cases r with
    | error exc =>
      exact p.bind (p.inWorldOr _ _) fun _ => .ite (p.pure _) (p.pure _)
    | ok v =>
      dsimp only
      split
      · exact race _ _
      · exact p.bind (p.finish _) fun _ => p.pure _

theorem prepare (compile : ∀ (s : State) (inner browser : Compiler) (cache : Module.Cache Ref),
      R s { s with inner, browser, world := { s.world with cache } }) (src : String) :
    Follows R (prepare src) := by
  intro s
  unfold Session.prepare
  cases (metadata src).module with
  | some name =>
    cases (metadata src).mode with
    | browser =>
      exact p.trans (compile s s.inner (s.browser.register name src).2 s.world.cache) (p.registered _ _)
    | «local» =>
      exact p.trans (compile s (s.inner.register name src).2 s.browser s.world.cache) (p.registered _ _)
  | none =>
    cases (metadata src).mode with
    | browser => exact p.refl s
    | «local» =>
      change R s (takeOver (s.inner.compile s.files s.declarations src).1
        { s with inner := (s.inner.compile s.files s.declarations src).2 }).2
      obtain ⟨result, inner⟩ := s.inner.compile s.files s.declarations src
      cases result with
      | error t => exact p.trans (compile s inner s.browser s.world.cache) (p.registered (.error t) _)
      | ok c =>
        exact p.trans (compile s inner s.browser (s.world.cache.update c.updates)) (p.proceed c _)

theorem interruption : Follows R interruption := p.bind p.get fun _ => p.inWorldOr _ _

theorem failRace (exc : Value) : Follows R (failRace exc) :=
  p.bind (p.inWorldOr _ _) fun _ =>
    .ite (p.pure _) (p.bind (p.inWorldOr _ _) fun _ => p.pure _)

theorem endBy (last : Option String) (ending : RaceEnd Value Value) :
    Follows R (endBy last ending) := by
  unfold Session.endBy
  split
  · exact p.finish last
  · exact p.pure _
  · exact p.failRace _
  · exact p.bind (p.inWorldOr _ _) fun _ => p.failRace _
  · exact p.bind p.interruption fun _ => p.failRace _
  · exact p.bind (p.inWorldOr _ _) fun _ => p.pure _
  · exact p.bind (p.inWorldOr _ _) fun _ => p.failRace _

theorem turnOf (e : RunEnd) : Follows R (turnOf e) := by
  cases e with
  | outcome _ _ => exact p.pure _
  | escaped exc =>
    refine p.bind (p.inWorldOr _ _) fun _ => .ite (p.pure _) ?_
    exact p.bind (p.inWorldOr _ _) fun _ =>
      p.bind (p.inWorldOr _ _) fun _ => .ite (p.pure _) (p.pure _)

theorem jobOver (task : FutureId) (c : Closing) : Follows R (jobOver task c) :=
  p.bind (p.conclude c) fun e =>
    p.bind (fun s => p.remembers s _) fun _ => p.turnOf e

theorem jobBegun (task : FutureId) (b : Begun) : Follows R (jobBegun task b) := by
  cases b with
  | ended c => exact p.jobOver task c
  | racing race last => exact p.pure _

theorem isOver (task : FutureId) : Follows R (isOver task) := p.bind p.get fun _ => p.pure _

theorem endOfJob (task : FutureId) : Follows R (endOfJob task) := by
  refine p.bind p.get fun s => ?_
  split
  · exact p.pure _
  · exact p.pure _
  · exact p.pure _
  · exact p.bind (p.inWorldOr _ _) fun _ => p.pure _

end Permits

/-! Quiet changes. -/

/-- A change of a session that leaves alone what compiling reads and writes, and where the names and
the globals of cells and what is written are kept. -/
structure Quiet (s s' : State) : Prop where
  inner : s'.inner = s.inner
  browser : s'.browser = s.browser
  files : s'.files = s.files
  config : s'.config = s.config
  exports : s'.exports = s.exports
  globals : s'.realm.globals = s.realm.globals
  console : s'.sink.isConsole = s.sink.isConsole
  world : s.world.Leads s'.world

namespace Quiet

variable {s s' s'' : State}

theorem refl (s : State) : Quiet s s := ⟨rfl, rfl, rfl, rfl, rfl, rfl, rfl, .refl _⟩

theorem trans (h : Quiet s s') (h' : Quiet s' s'') : Quiet s s'' where
  inner := h'.inner.trans h.inner
  browser := h'.browser.trans h.browser
  files := h'.files.trans h.files
  config := h'.config.trans h.config
  exports := h'.exports.trans h.exports
  globals := h'.globals.trans h.globals
  console := h'.console.trans h.console
  world := h.world.trans h'.world

theorem inWorld {α : Type} (x : M α) (s : State) : Quiet s (inWorld x s).2 := by
  have leads := x.leads s.world
  unfold Session.inWorld
  split <;> rename_i h <;> rw [h] at leads <;> exact ⟨rfl, rfl, rfl, rfl, rfl, rfl, rfl, leads⟩

theorem permits : Permits Quiet where
  refl := refl
  trans := trans
  programs := inWorld
  records s r r' sink := ⟨rfl, rfl, rfl, rfl, rfl, rfl, by rw [sink]; rfl, .refl _⟩
  notes _ _ _ := ⟨rfl, rfl, rfl, rfl, rfl, rfl, rfl, .refl _⟩
  remembers _ _ := ⟨rfl, rfl, rfl, rfl, rfl, rfl, rfl, .refl _⟩

theorem loops (s : State) (loops : Loops Body Value Value Gather) :
    Quiet s { s with world := { s.world with loops } } := ⟨rfl, rfl, rfl, rfl, rfl, rfl, rfl, .aside rfl rfl⟩

theorem startRace (r : Ref) (last : Option String) : Follows Quiet (startRace r last) :=
  fun _ => ⟨rfl, rfl, rfl, rfl, rfl, rfl, rfl, .aside rfl rfl⟩

theorem start (prepared : Prepared) : Follows Quiet (start prepared) := permits.start startRace prepared

theorem endRace (race : Race) (signal : Signal Value) (last : Option String) :
    Follows Quiet (endRace race signal last) :=
  fun s => (loops s _).trans (permits.endBy last _ _)

theorem interrupt : Follows Quiet interrupt :=
  permits.bind permits.interruption fun _ _ => ⟨rfl, rfl, rfl, rfl, rfl, rfl, rfl, .aside rfl rfl⟩

theorem modifyLoops (f : Loops Body Value Value Gather → Loops Body Value Value Gather) :
    Follows Quiet (runner.modify f) := fun s => loops s _

theorem endTurn (f : FutureId) (turn : Turn Body Value Value) : Follows Quiet (runner.endTurn f turn) := by
  cases turn <;> exact permits.bind (modifyLoops _) fun _ => permits.pure _

end Quiet

end Notebook.Session
