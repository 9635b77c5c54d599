import Notebook.Proofs.Execution
import Notebook.Proofs.Report

/-! Runs of cells in a session in which no other run is under way: while one waits, nothing is written
or declared, so what its beginning and its end do is all that is done. -/

set_option autoImplicit false

namespace Notebook.Machine

open Notebook.Loop

theorem gives_bodiless {t : Turn Body Value Value} (body : Body) (none : t.body? = none) :
    (pure t : M (Turn Body Value Value)).Gives fun t _ => ∀ b, t.body? = some b → b = body :=
  .pure fun _ _ same => absurd (none.symm.trans same) (Option.some_ne_none _).symm

theorem turnAfter_body (h : Host) (body : Body) (result : Except Value Progress) :
    (turnAfter h body result).Gives fun t _ => ∀ b, t.body? = some b → b = body := by
  rcases result with e | (v | ⟨v, own⟩)
  · refine .bind fun _ => .ite (.bind fun _ => gives_bodiless body rfl) ?_
    exact .bind fun _ => .bind fun _ => .ite (gives_bodiless body rfl) (gives_bodiless body rfl)
  · exact gives_bodiless body rfl
  · refine .bind fun held => ?_
    split
    · exact .pure fun _ _ same => (Option.some.inj same).symm
    · exact .pure fun _ _ same => (Option.some.inj same).symm
    · exact .bind fun _ => .bind fun _ => gives_bodiless body rfl

theorem coroutineTurn_body (h : Host) (r : Ref) (body : Body) (signal : Signal Value) :
    (coroutineTurn h r body signal).Gives fun t _ => ∀ b, t.body? = some b → b = body :=
  .bind fun _ => .bind fun _ => turnAfter_body h body _

theorem containedTurn_body (h : Host) (r : Ref) (body : Body) (signal : Signal Value) :
    (containedTurn h r body signal).Gives fun t _ => ∀ b, t.body? = some b → b = body := by
  intro w t w' ran
  obtain ⟨inner, w₁, turned, ran⟩ := M.of_bind_ok ran
  have same := coroutineTurn_body h r body signal w inner w₁ turned
  cases inner with
  | returns v =>
    cases ran
    exact nofun
  | raises e =>
    cases ran
    exact nofun
  | leaves e =>
    obtain ⟨isInterrupt, w₂, _, ran⟩ := M.of_bind_ok ran
    cases isInterrupt <;> cases ran <;> exact nofun
  | awaits what b =>
    cases ran
    exact same
  | pauses b =>
    cases ran
    exact same
  | cancelled =>
    cases ran
    exact same

end Notebook.Machine

namespace Notebook.Session

open Notebook.Machine Notebook.Loop Notebook.Cell

/-! Tasks of programs. -/

theorem inWorld_loops {α : Type} (x : M α) (s : State) :
    s.world.loops.Leads Body.IsOwn (inWorld x s).2.world.loops := by
  have loops := x.loops s.world
  unfold Session.inWorld
  split <;> rename_i h <;> rw [h] at loops <;> exact loops

theorem inWorldOr_loops {α : Type} (a : α) (x : M α) (s : State) :
    s.world.loops.Leads Body.IsOwn (inWorldOr a x s).2.world.loops := by
  have first := inWorld_loops x s
  unfold Session.inWorldOr
  rw [bind_apply]
  generalize Session.inWorld x s = out at first ⊢
  obtain ⟨r, s'⟩ := out
  cases r <;> exact first

theorem inWorldOr_gives {α : Type} {a : α} {x : M α} {P : α → World → Prop} (default : ∀ w, P a w)
    (h : x.Gives P) (s : State) : P (inWorldOr a x s).1 (inWorldOr a x s).2.world := by
  unfold Session.inWorldOr Session.inWorld
  rw [bind_apply]
  cases ran : x.run s.world with
  | ok b w => exact h s.world b w ran
  | error e w => cases e <;> exact default w

theorem resume_program (f : FutureId) {body : Body} (signal : Signal Value) (s : State)
    (own : ∀ j, body ≠ .job j) :
    Aside s (resume f body signal s).2 ∧
      s.world.loops.Leads Body.IsOwn (resume f body signal s).2.world.loops ∧
      ∀ b, (resume f body signal s).1.body? = some b → b = body := by
  cases body with
  | job j => exact absurd rfl (own j)
  | coroutine r =>
    exact ⟨.inWorldOr _ _ s, inWorldOr_loops _ _ s,
      inWorldOr_gives (fun _ => nofun) (coroutineTurn_body host r _ signal) s⟩
  | contained r =>
    exact ⟨.inWorldOr _ _ s, inWorldOr_loops _ _ s,
      inWorldOr_gives (fun _ => nofun) (containedTurn_body host r _ signal) s⟩

theorem inWorld_ends {α : Type} (x : M α) (s : State) : (inWorld x s).2.ends = s.ends := by
  unfold Session.inWorld
  cases x.run s.world with
  | ok b w => rfl
  | error e w => cases e <;> rfl

theorem inWorldOr_ends {α : Type} (a : α) (x : M α) (s : State) : (inWorldOr a x s).2.ends = s.ends := by
  have first := inWorld_ends x s
  unfold Session.inWorldOr
  rw [bind_apply]
  generalize Session.inWorld x s = out at first ⊢
  obtain ⟨r, s'⟩ := out
  cases r <;> exact first

theorem turned_program {s : State} {l : Loops Body Value Value Gather} {f : FutureId} {body : Body}
    (signal : Signal Value) (leads : s.world.loops.Leads Body.IsOwn l) (here : l.body? f = some body)
    (own : ∀ j, body ≠ .job j) :
    let out := resume f body signal (s.withLoops l)
    let s' := out.2.withLoops ({ out.2.world.loops with running := none }.afterTurn f out.1)
    Aside s s' ∧ s.world.loops.Turned Body.IsOwn f s'.world.loops ∧ s'.ends = s.ends := by
  intro out s'
  obtain ⟨aside, loops, same⟩ := resume_program f signal (s.withLoops l) own
  have before : l.Leads Body.IsOwn { out.2.world.loops with running := none } :=
    loops.trans (.aside rfl rfl)
  obtain ⟨x, t, hx, -⟩ := Loops.future?_of_body? here
  have still : { out.2.world.loops with running := none }.body? f = some body :=
    (Loops.body?_of_leads before hx).trans here
  refine ⟨((Aside.withLoops s l).trans aside).trans (.withLoops _ _), ?_, ?_⟩
  · exact (Loops.Turned.ofLeads (leads.trans before)).trans
      (.afterTurn _ f fun b hb => (same b hb) ▸ still)
  · cases body with
    | job j => exact absurd rfl (own j)
    | coroutine r => exact inWorldOr_ends _ _ (s.withLoops l)
    | contained r => exact inWorldOr_ends _ _ (s.withLoops l)

/-! Sessions in which no run is a task under way. -/

def IsProgram (b : Body) : Prop := ∀ j, b ≠ .job j

theorem isProgram_of_isOwn (b : Body) (h : b.IsOwn) : IsProgram b := by
  rintro j rfl
  exact h

def JobsOver (but : Option FutureId) (l : Loops Body Value Value Gather) : Prop :=
  ∀ f j, but ≠ some f → l.body? f = some (.job j) → l.isDone f = true

theorem JobsOver.turned {but : Option FutureId} {l l' : Loops Body Value Value Gather}
    (h : JobsOver but l) {f : FutureId} (turned : l.Turned IsProgram f l') : JobsOver but l' := by
  intro k j other hb
  rcases turned.body k _ hb with before | ⟨-, mine⟩
  · have done := h k j other before
    rw [Loops.isDone, turned.done k done]
    exact done
  · exact absurd rfl (mine j)

/-- No run of a cell that is a task of its own is under way. -/
def State.Idle (s : State) : Prop := JobsOver none s.world.loops

/-- A change in which no task ends, and tasks that come in are programs. -/
def Endless (s s' : State) : Prop := ∀ f, s.world.loops.Turned IsProgram f s'.world.loops

theorem Endless.ofLeads {s s' : State} (h : s.world.loops.Leads Body.IsOwn s'.world.loops) :
    Endless s s' := fun _ => (Loops.Turned.ofLeads h).mono isProgram_of_isOwn

theorem Endless.idle {s s' : State} (h : Endless s s') (idle : s.Idle) : s'.Idle := idle.turned (h 0)

theorem runs_idle (s₀ : State) : Runs fun s => Aside s₀ s ∧ s.Idle where
  leads leads h := ⟨h.1.trans (.withLoops _ _), Endless.idle (.ofLeads leads) h.2⟩
  step {s _ _} stepped h := by
    cases stepped with
    | aside leads => exact ⟨h.1.trans (.withLoops _ _), Endless.idle (.ofLeads leads) h.2⟩
    | outside leads _ _ => exact ⟨h.1.trans (.withLoops _ _), Endless.idle (.ofLeads leads) h.2⟩
    | act g f =>
      exact ⟨h.1.trans (.inWorldOr _ _ _), Endless.idle (.ofLeads (inWorldOr_loops _ _ _)) h.2⟩
    | @turn l f body signal leads pending here =>
      have own : ∀ j, body ≠ .job j := by
        rintro j rfl
        have idle : (s.withLoops l).Idle := Endless.idle (.ofLeads leads) h.2
        cases pending.symm.trans (idle f j nofun here)
      obtain ⟨aside, turned, -⟩ := turned_program signal leads here own
      exact ⟨h.1.trans aside, JobsOver.turned h.2 (turned.mono isProgram_of_isOwn)⟩

/-! Beginning a cell. -/

theorem endless_permits : Permits Endless where
  refl _ _ := .ofFutures rfl
  trans first second f := (first f).trans (second f)
  programs x s := .ofLeads (inWorld_loops x s)
  records _ _ _ _ _ := .ofFutures rfl
  notes _ _ _ _ := .ofFutures rfl
  remembers _ _ _ := .ofFutures rfl

theorem turned_current {own : Body → Prop} {f : FutureId} (c : Controller)
    (l : Loops Body Value Value Gather) : l.Turned own f (c.current l).2.2 := by
  unfold Controller.current
  dsimp only
  split
  · exact .ofFutures rfl
  · split <;> exact .ofFutures rfl

theorem futures_interrupt (c : Controller) (inLoop : Bool) (exc : Value)
    (l : Loops Body Value Value Gather) : (c.interrupt inLoop exc l).2.futures = l.futures := by
  have settled (i : LatchId) : (l.settleLatch i (.failed exc)).futures = l.futures := by
    unfold Loops.settleLatch
    split
    · rfl
    · split <;> rfl
  unfold Controller.interrupt Controller.arm
  split
  · rfl
  · split
    · rfl
    · split
      · rfl
      · split <;> exact settled _

theorem turned_raceBegin {own : Body → Prop} {f : FutureId} (task : FutureId) (c : Controller)
    (l : Loops Body Value Value Gather) : l.Turned own f (Race.begin task c l).2.2 := by
  have waiting : l.Turned own f (c.current l).2.2.newWaiter.2 :=
    (turned_current c l).trans (.ofFutures rfl)
  have watched (l : Loops Body Value Value Gather) (i : LatchId) (waiter : WaiterId) :
      l.Turned own f (l.watchLatch i waiter) := by
    unfold Loops.watchLatch
    split
    · exact .ofFutures rfl
    · split <;> exact .ofFutures rfl
  exact (waiting.trans (.ofLeads (.addCallback _ task _))).trans (watched _ _ _)

theorem endless_startRace (r : Ref) (last : Option String) : Follows Endless (startRace r last) := by
  intro s f
  have spawned (l : Loops Body Value Value Gather) :
      l.Turned IsProgram f (l.spawn (some (.contained r))).2 := .ofLeads (.spawn l nofun)
  exact ((turned_current s.controller s.world.loops).trans (spawned _)).trans (turned_raceBegin _ _ _)

theorem endless_begin (src : String) : Follows Endless (begin src) :=
  endless_permits.bind (endless_permits.prepare (fun _ _ _ _ _ => .ofFutures rfl) src)
    fun p => endless_permits.start endless_startRace p

theorem run_course {main : FutureId} {src : String} {s s' : State} {e : RunEnd} (idle : s.Idle)
    (ran : run main src s = (.ok e, s')) : Course src s e s' := by
  have still := (endless_begin src s).idle idle
  unfold run closing at ran
  rw [bind_apply, bind_apply] at ran
  cases began : Session.begin src s with
  | mk b s₁ =>
    rw [began] at ran still
    cases b with
    | ended c =>
      cases ran
      exact .atOnce began rfl
    | racing race last =>
      dsimp only at ran still
      rw [bind_apply] at ran
      have waited := (runs_idle s₁).wait main (.waiter race.waiter) ⟨.refl s₁, still⟩
      cases waiting : runner.wait main (.waiter race.waiter) fuel s₁ with
      | mk halt s₂ =>
        rw [waiting] at ran waited
        cases halt with
        | outside task signal =>
          cases ran
          exact .raced began waited.1 rfl rfl
        | left e => cases ran
        | idle => cases ran
        | exhausted => cases ran

/-! A run that is a task of its own. -/

/-- How far the run of a cell has come that is a task of its own and was started in an idle session: it is
ahead, its body is raced, it is over, or its task was cancelled before it began. -/
inductive JobStage (src : String) (task : FutureId) (s₀ s : State) : Prop where
  | ahead (before : Aside s₀ s) (body : s.world.loops.body? task = some (.job (.start src)))
      (pending : s.world.loops.isDone task = false)
  | racing {s₁ s₂ : State} {race : Race} {last : Option String} (before : Aside s₀ s₁)
      (began : begin src s₁ = (.racing race last, s₂)) (since : Aside s₂ s)
      (body : s.world.loops.body? task = some (.job (.racing race last)))
      (pending : s.world.loops.isDone task = false)
  | finished {s₁ s₂ : State} {e : RunEnd} (before : Aside s₀ s₁) (course : Course src s₁ e s₂)
      (since : Aside s₂ s) (kept : (s.ends.lookup task).map (·.2) = some e) (done : s.world.loops.isDone task = true)
  | dropped (cancelled : s.world.loops.outcome task = .cancelled)

/-- A change by others: programs, and what the event loop does besides turns. -/
structure ByOthers (task : FutureId) (s s' : State) : Prop where
  aside : Aside s s'
  ends : s'.ends = s.ends
  body : ∀ b, s.world.loops.body? task = some b → s'.world.loops.body? task = some b
  outcome : ∀ b, s.world.loops.body? task = some b → s'.world.loops.outcome task = s.world.loops.outcome task
  done : s.world.loops.isDone task = true → s'.world.loops.outcome task = s.world.loops.outcome task

theorem ByOthers.ofTurned {task f : FutureId} {s s' : State} {own : Body → Prop} (aside : Aside s s')
    (ends : s'.ends = s.ends) (turned : s.world.loops.Turned own f s'.world.loops) (other : task ≠ f) :
    ByOthers task s s' :=
  ⟨aside, ends, fun b hb => turned.kept task b hb, fun b hb => turned.task task b other hb,
    turned.done task⟩

theorem ByOthers.ofLeads {task : FutureId} {s s' : State} (aside : Aside s s')
    (ends : s'.ends = s.ends) (leads : s.world.loops.Leads Body.IsOwn s'.world.loops) :
    ByOthers task s s' :=
  .ofTurned aside ends (.ofLeads leads) (Nat.succ_ne_self task).symm

theorem JobStage.byOthers {src : String} {task : FutureId} {s₀ s s' : State} (h : JobStage src task s₀ s)
    (others : ByOthers task s s') : JobStage src task s₀ s' := by
  cases h with
  | ahead before body pending =>
    refine .ahead (before.trans others.aside) (others.body _ body) ?_
    rw [Loops.isDone, others.outcome _ body]
    exact pending
  | racing before began since body pending =>
    refine .racing before began (since.trans others.aside) (others.body _ body) ?_
    rw [Loops.isDone, others.outcome _ body]
    exact pending
  | finished before course since kept done =>
    refine .finished before course (since.trans others.aside) (others.ends ▸ kept) ?_
    rw [Loops.isDone, others.done done]
    exact done
  | dropped cancelled =>
    refine .dropped ((others.done ?_).trans cancelled)
    rw [Loops.isDone, cancelled]
    rfl

structure TurnsAside (s : State) (out : Turn Body Value Value × State) : Prop where
  aside : Aside s out.2
  ends : out.2.ends = s.ends
  leads : s.world.loops.Leads Body.IsOwn out.2.world.loops
  finished : out.1.body? = none

theorem turnOf_ends (e : RunEnd) (s : State) : TurnsAside s (turnOf e s) := by
  cases e with
  | outcome status detail => exact ⟨.refl s, rfl, .refl _, rfl⟩
  | escaped exc =>
    have asked (cls : String) {s' : State} (h : Aside s s') (ends : s'.ends = s.ends)
        (leads : s.world.loops.Leads Body.IsOwn s'.world.loops) :
        Aside s (inWorldOr false (isError exc cls) s').2 ∧
          (inWorldOr false (isError exc cls) s').2.ends = s.ends ∧
          s.world.loops.Leads Body.IsOwn (inWorldOr false (isError exc cls) s').2.world.loops :=
      ⟨h.trans (.inWorldOr _ _ s'), (inWorldOr_ends _ _ s').trans ends,
        leads.trans (inWorldOr_loops _ _ s')⟩
    obtain ⟨aside₁, ends₁, leads₁⟩ := asked "CancelledError" (.refl s) rfl (.refl _)
    unfold turnOf
    dsimp only
    rw [bind_apply]
    generalize inWorldOr false (isError exc "CancelledError") s = first at aside₁ ends₁ leads₁ ⊢
    obtain ⟨isCancelled, s₂⟩ := first
    cases isCancelled with
    | true => exact ⟨aside₁, ends₁, leads₁, rfl⟩
    | false =>
      obtain ⟨aside₂, ends₂, leads₂⟩ := asked "KeyboardInterrupt" aside₁ ends₁ leads₁
      rw [if_neg Bool.false_ne_true, bind_apply]
      dsimp only at aside₂ ends₂ leads₂ ⊢
      generalize inWorldOr false (isError exc "KeyboardInterrupt") s₂ = second at aside₂ ends₂ leads₂ ⊢
      obtain ⟨isInterrupt, s₃⟩ := second
      obtain ⟨aside₃, ends₃, leads₃⟩ := asked "SystemExit" aside₂ ends₂ leads₂
      rw [bind_apply]
      dsimp only at aside₃ ends₃ leads₃ ⊢
      generalize inWorldOr false (isError exc "SystemExit") s₃ = third at aside₃ ends₃ leads₃ ⊢
      obtain ⟨isExit, s₄⟩ := third
      dsimp only at aside₃ ends₃ leads₃ ⊢
      cases isInterrupt || isExit with
      | true => exact ⟨aside₃, ends₃, leads₃, rfl⟩
      | false => exact ⟨aside₃, ends₃, leads₃, rfl⟩

/-- The end of a run that is a task of its own: it is remembered, and the task ends. -/
structure EndsJob (task : FutureId) (c : Closing) (s : State) (out : Turn Body Value Value × State) : Prop where
  aside : Aside (c.conclude s).2 out.2
  ends : out.2.ends = (task, c, (c.conclude s).1) :: (c.conclude s).2.ends
  leads : (c.conclude s).2.world.loops.Leads Body.IsOwn out.2.world.loops
  finished : out.1.body? = none

/-- A session that remembers how a run ended. -/
def State.remembering (s : State) (task : FutureId) (c : Closing) (e : RunEnd) : State :=
  { s with ends := (task, c, e) :: s.ends }

theorem jobOver_apply (task : FutureId) (c : Closing) (s : State) :
    jobOver task c s = turnOf (c.conclude s).1 ((c.conclude s).2.remembering task c (c.conclude s).1) := rfl

theorem jobOver_ends (task : FutureId) (c : Closing) (s : State) : EndsJob task c s (jobOver task c s) := by
  have noted : Aside (c.conclude s).2 ((c.conclude s).2.remembering task c (c.conclude s).1) :=
    ⟨⟨rfl, rfl, rfl, rfl, rfl, rfl, rfl, .refl _⟩, rfl, rfl, rfl⟩
  have turned := turnOf_ends (c.conclude s).1 ((c.conclude s).2.remembering task c (c.conclude s).1)
  rw [jobOver_apply]
  exact ⟨noted.trans turned.aside, turned.ends, turned.leads, turned.finished⟩

def OneJob (src : String) (task : FutureId) (s₀ s : State) : Prop :=
  JobStage src task s₀ s ∧ JobsOver (some task) s.world.loops

theorem OneJob.leads {src : String} {task : FutureId} {s₀ s s' : State} (h : OneJob src task s₀ s)
    (aside : Aside s s') (ends : s'.ends = s.ends)
    (leads : s.world.loops.Leads Body.IsOwn s'.world.loops) : OneJob src task s₀ s' :=
  ⟨h.1.byOthers (.ofLeads aside ends leads), h.2.turned (Endless.ofLeads leads 0)⟩

theorem endless_conclude (c : Closing) : Follows Endless c.conclude := endless_permits.conclude c

theorem oneJob_over {src : String} {task : FutureId} {s₀ s₁ s : State} {c : Closing}
    (before : Aside s₀ s₁) (course : Course src s₁ (c.conclude s).1 (c.conclude s).2)
    {body : Body} (here : s.world.loops.body? task = some body) (others : JobsOver (some task) s.world.loops) :
    OneJob src task s₀ ((jobOver task c s).2.withLoops
      ({ (jobOver task c s).2.world.loops with running := none }.afterTurn task (jobOver task c s).1)) := by
  have ends := jobOver_ends task c s
  have endless := endless_conclude c s
  generalize jobOver task c s = out at ends ⊢
  obtain ⟨turn, s'⟩ := out
  have leads : (c.conclude s).2.world.loops.Leads Body.IsOwn { s'.world.loops with running := none } :=
    ends.leads.trans (.aside rfl rfl)
  have kept := (endless 0).kept task body here
  obtain ⟨x, t, hx, -⟩ := Loops.future?_of_body? kept
  have still := (Loops.body?_of_leads leads hx).trans kept
  have turned : (c.conclude s).2.world.loops.Turned IsProgram task
      ({ s'.world.loops with running := none }.afterTurn task turn) :=
    ((Loops.Turned.ofLeads leads).mono isProgram_of_isOwn).trans
      (.afterTurn _ task fun b hb => by cases ends.finished.symm.trans hb)
  have kept : s'.ends = (task, c, (c.conclude s).1) :: (c.conclude s).2.ends := ends.ends
  have remembered : (s'.ends.lookup task).map (·.2) = some (c.conclude s).1 := by simp [kept]
  exact ⟨.finished before course (ends.aside.trans (.withLoops _ _)) remembered
    (Loops.isDone_afterTurn still ends.finished), (others.turned (endless 0)).turned turned⟩

theorem oneJob_racing {src : String} {task : FutureId} {s₀ s₁ s : State} {race : Race}
    {last : Option String} (before : Aside s₀ s₁) (began : begin src s₁ = (.racing race last, s))
    {body : Body} (here : s₁.world.loops.body? task = some body)
    (pending : s₁.world.loops.isDone task = false) (others : JobsOver (some task) s₁.world.loops) :
    OneJob src task s₀ (s.withLoops ({ s.world.loops with running := none }.afterTurn task
      (.awaits (.waiter race.waiter) (.job (.racing race last))))) := by
  have endless : Endless s₁ s := by
    have all := endless_begin src s₁
    rw [began] at all
    exact all
  let l : Loops Body Value Value Gather := { s.world.loops with running := none }
  let l' := l.modifyTask task fun t => { t with body := some (.job (.racing race last)) }
  have turned : s₁.world.loops.Turned IsProgram (task + 1) l := (endless (task + 1)).trans (.ofFutures rfl)
  have other : task ≠ task + 1 := (Nat.succ_ne_self task).symm
  obtain ⟨x, t, hx, ht, -⟩ := Loops.future?_of_body? (turned.kept task body here)
  have waits : l'.Leads Body.IsOwn (l'.await task (.waiter race.waiter)) := .await l' task _
  have body' : l'.body? task = some (.job (.racing race last)) := by
    rw [Loops.body?_modifyTask, if_pos rfl, hx, Option.bind_some, ht]
    rfl
  obtain ⟨y, _, hy, -⟩ := Loops.future?_of_body? body'
  have ends : l'.outcome task = s₁.world.loops.outcome task :=
    (l.outcome_modifyTask task _ task).trans (turned.task task body other here)
  have after := Loops.Turned.ofLeads (f := task + 1) waits
  refine ⟨.racing before began (.withLoops _ _) ((Loops.body?_of_leads waits hy).trans body') ?_, ?_⟩
  · change (l'.await task (.waiter race.waiter)).isDone task = false
    rw [Loops.isDone, after.task task _ other body', ends]
    exact pending
  · refine JobsOver.turned ?_ (after.mono isProgram_of_isOwn)
    intro k j hk hb
    have apart : task ≠ k := fun same => hk (congrArg some same)
    rw [Loops.body?_modifyTask, if_neg apart] at hb
    rw [Loops.isDone, l.outcome_modifyTask]
    exact (others.turned turned) k j hk hb

theorem oneJob_dropped {src : String} {task : FutureId} {s₀ s : State} {body : Body}
    (here : s.world.loops.body? task = some body) (pending : s.world.loops.isDone task = false)
    (others : JobsOver (some task) s.world.loops) :
    OneJob src task s₀ (s.withLoops ({ s.world.loops with running := none }.afterTurn task .cancelled)) := by
  have turned : s.world.loops.Turned IsProgram task
      ({ s.world.loops with running := none }.afterTurn task .cancelled) := by
    have stopped : s.world.loops.Turned IsProgram task { s.world.loops with running := none } :=
      .ofFutures rfl
    exact stopped.trans (.finish _ task .cancelled)
  have now : ({ s.world.loops with running := none }.afterTurn task .cancelled).outcome task = .cancelled :=
    Loops.outcome_settle (l := { s.world.loops with running := none }) here pending .cancelled
  exact ⟨.dropped now, others.turned turned⟩

theorem endless_endRace (race : Race) (signal : Signal Value) (last : Option String) :
    Follows Endless (endRace race signal last) := by
  intro s
  have released : s.world.loops.Leads Body.IsOwn (s.world.loops.removeWaiter race.task race.waiter) :=
    .modifyFuture _ fun _ _ => ⟨rfl, fun _ => rfl, fun _ => rfl⟩
  have left (f : FutureId) : s.world.loops.Turned IsProgram f (race.release s.world.loops) :=
    ((Loops.Turned.ofLeads released).mono isProgram_of_isOwn).trans (.ofFutures rfl)
  have cancelled (f : FutureId) :
      s.world.loops.Turned IsProgram f ((race.release s.world.loops).cancel race.task).2 :=
    (left f).trans (.ofLeads (.cancel _ _))
  have loops (ending : RaceEnd Value Value) {l : Loops Body Value Value Gather}
      (h : ∀ f, s.world.loops.Turned IsProgram f l) :
      Endless s (endBy last ending (s.withLoops l)).2 := by
    have first : Endless s (s.withLoops l) := h
    exact endless_permits.trans first (endless_permits.endBy last ending _)
  have abandoned := loops (race.abandon s.world.loops).1 cancelled
  cases signal with
  | go =>
    refine loops (race.decide s.world.loops).1 fun f => ?_
    change s.world.loops.Turned IsProgram f (race.decide s.world.loops).2
    unfold Race.decide
    dsimp only
    split
    · exact left f
    · exact left f
    · exact left f
    · split
      · exact cancelled f
      · split <;> exact cancelled f
  | cancelled => exact abandoned
  | failed e => exact abandoned

theorem oneJob_turn {src : String} {task : FutureId} {s₀ s : State} {j : Job} (signal : Signal Value)
    (h : OneJob src task s₀ s) (here : s.world.loops.body? task = some (.job j))
    (pending : s.world.loops.isDone task = false) :
    OneJob src task s₀ ((jobTurn task j signal s).2.withLoops
      ({ (jobTurn task j signal s).2.world.loops with running := none }.afterTurn task
        (jobTurn task j signal s).1)) := by
  obtain ⟨stage, others⟩ := h
  cases stage with
  | ahead before body _ =>
    obtain rfl : j = .start src := by cases here.symm.trans body; rfl
    cases signal with
    | go =>
      rw [jobTurn_start]
      have endless := endless_begin src s
      cases began : begin src s with
      | mk b s₁ =>
        rw [began] at endless
        cases b with
        | ended c =>
          exact oneJob_over before (.atOnce began rfl) ((endless 0).kept task _ here)
            (others.turned (endless 0))
        | racing race last => exact oneJob_racing before began here pending others
    | cancelled => exact oneJob_dropped here pending others
    | failed e => exact oneJob_dropped here pending others
  | @racing s₁ s₂ race last before began since body _ =>
    obtain rfl : j = .racing race last := by cases here.symm.trans body; rfl
    have endless := endless_endRace race signal last s
    rw [jobTurn_racing]
    exact oneJob_over before (.raced began since rfl rfl) ((endless 0).kept task _ here)
      (others.turned (endless 0))
  | finished _ _ _ _ done => cases pending.symm.trans done
  | dropped cancelled =>
    rw [Loops.isDone, cancelled] at pending
    cases pending

theorem OneJob.ne {src : String} {task f : FutureId} {s₀ s : State} {body : Body}
    (h : OneJob src task s₀ s) (here : s.world.loops.body? f = some body) (own : IsProgram body)
    (pending : s.world.loops.isDone f = false) : task ≠ f := by
  rintro rfl
  cases h.1 with
  | ahead _ job _ => exact own _ (Option.some.inj (here.symm.trans job))
  | racing _ _ _ job _ => exact own _ (Option.some.inj (here.symm.trans job))
  | finished _ _ _ _ done => cases pending.symm.trans done
  | dropped cancelled =>
    rw [Loops.isDone, cancelled] at pending
    cases pending

theorem runs_oneJob (src : String) (task : FutureId) (s₀ : State) : Runs (OneJob src task s₀) where
  leads leads h := h.leads (.withLoops _ _) rfl leads
  step {s _ _} stepped h := by
    cases stepped with
    | aside leads => exact h.leads (.withLoops _ _) rfl leads
    | outside leads _ _ => exact h.leads (.withLoops _ _) rfl leads
    | act g f => exact h.leads (.inWorldOr _ _ _) (inWorldOr_ends _ _ _) (inWorldOr_loops _ _ _)
    | @turn l f body signal leads pending here =>
      have now : OneJob src task s₀ (s.withLoops l) := h.leads (.withLoops _ _) rfl leads
      have program (own : IsProgram body) :
          OneJob src task s₀ ((resume f body signal (s.withLoops l)).2.withLoops
            ({ (resume f body signal (s.withLoops l)).2.world.loops with running := none }.afterTurn f
              (resume f body signal (s.withLoops l)).1)) := by
        obtain ⟨aside, turned, ends⟩ := turned_program signal leads here own
        exact ⟨h.1.byOthers (.ofTurned aside ends turned (now.ne here own pending)),
          h.2.turned (turned.mono isProgram_of_isOwn)⟩
      cases body with
      | job j =>
        by_cases same : task = f
        · subst same
          exact oneJob_turn signal now here pending
        · cases pending.symm.trans (now.2 f j (fun h => same (Option.some.inj h)) here)
      | coroutine r => exact program nofun
      | contained r => exact program nofun

end Notebook.Session
