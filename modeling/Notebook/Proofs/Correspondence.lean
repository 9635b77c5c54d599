import Notebook.Proofs.Course

/-! Through every history of a session whose writes are recorded, the outcome of a run, what it writes
and what it changes correspond. -/

set_option autoImplicit false

namespace Notebook.Session

open Notebook.Machine Notebook.Loop Notebook.Cell

/-! Runs that are interrupted. -/

theorem OneJob.ofFutures {src : String} {task : FutureId} {s₀ s s' : State} (h : OneJob src task s₀ s)
    (aside : Aside s s') (ends : s'.ends = s.ends)
    (same : s'.world.loops.futures = s.world.loops.futures) : OneJob src task s₀ s' := by
  have turned (f : FutureId) : s.world.loops.Turned IsProgram f s'.world.loops := .ofFutures same
  exact ⟨h.1.byOthers (.ofTurned aside ends (turned (task + 1)) (Nat.succ_ne_self task).symm),
    h.2.turned (turned 0)⟩

theorem spawnJob_oneJob {s : State} (idle : s.Idle) (src : String) :
    OneJob src (spawnJob src s).1 s (spawnJob src s).2 := by
  let l := s.world.loops
  let l' := (l.spawn (some (.job (.start src)))).2
  have job := (l.future?_spawn (some (.job (.start src))) l.futures.size).trans (if_pos rfl)
  refine ⟨.ahead (.withLoops s _) ?_ ?_, fun f j other hb => ?_⟩
  · change l'.body? l.futures.size = _
    rw [Loops.body?, job]
    rfl
  · change l'.isDone l.futures.size = false
    rw [Loops.isDone, Loops.outcome, job]
    rfl
  · have apart : f ≠ l.futures.size := fun same => other (congrArg some same.symm)
    have before := (l.future?_spawn (some (.job (.start src))) f).trans (if_neg apart)
    have here : l.body? f = some (.job j) := by
      change l'.body? f = _ at hb
      rw [Loops.body?, before] at hb
      exact hb
    change l'.isDone f = true
    rw [Loops.isDone, Loops.outcome, before]
    exact idle f j (fun same => by cases same) here

theorem interrupt_oneJob {src : String} {task : FutureId} {s₀ s : State} (h : OneJob src task s₀ s) :
    OneJob src task s₀ (interrupt s).2 := by
  have made : OneJob src task s₀ (interruption s).2 :=
    h.leads (.inWorldOr _ _ s) (inWorldOr_ends _ _ s) (inWorldOr_loops _ _ s)
  unfold interrupt
  rw [bind_apply]
  generalize interruption s = out at made ⊢
  obtain ⟨exc, s₁⟩ := out
  refine made.ofFutures ?_ rfl (futures_interrupt s₁.controller s₁.world.inLoop exc s₁.world.loops)
  exact ⟨⟨rfl, rfl, rfl, rfl, rfl, rfl, rfl, .aside rfl rfl⟩, rfl, rfl, rfl⟩

theorem endOfJob_course {src : String} {task : FutureId} {s₀ s s' : State} {status : Status} {detail : Detail}
    (h : OneJob src task s₀ s) (ended : endOfJob task s = (some (.outcome status detail), s')) :
    ∃ s₁ s₂, Aside s₀ s₁ ∧ Course src s₁ (.outcome status detail) s₂ ∧ Aside s₂ s' := by
  unfold endOfJob at ended
  rw [bind_apply, get_apply] at ended
  dsimp only at ended
  have atEnd (done : s.world.loops.isDone task = true) (goes : s.world.loops.outcome task ≠ .cancelled)
      (ended : (((s.ends.lookup task).map (·.2), s) : Option RunEnd × State) = (some (.outcome status detail), s')) :
      ∃ s₁ s₂, Aside s₀ s₁ ∧ Course src s₁ (.outcome status detail) s₂ ∧ Aside s₂ s' := by
    obtain ⟨last, rfl⟩ := Prod.mk.inj ended
    cases h.1 with
    | ahead _ _ pending => cases pending.symm.trans done
    | racing _ _ _ _ pending => cases pending.symm.trans done
    | finished before course since kept =>
      cases kept.symm.trans last
      exact ⟨_, _, before, course, since⟩
    | dropped cancelled => exact absurd cancelled goes
  cases outcome : s.world.loops.outcome task with
  | pending =>
    rw [outcome] at ended
    cases ended
  | cancelled =>
    rw [outcome] at ended
    cases ended
  | failed e =>
    rw [outcome] at ended atEnd
    exact atEnd (by rw [Loops.isDone, outcome]; rfl) (fun same => by cases same) ended
  | result v =>
    rw [outcome] at ended atEnd
    exact atEnd (by rw [Loops.isDone, outcome]; rfl) (fun same => by cases same) ended

/-- In an idle session the run of a cell that is a task of its own is nothing but its beginning and its
end. -/
theorem runInterrupted_course {main : FutureId} {src : String} {turns : Nat} {s s' : State}
    {status : Status} {detail : Detail} (idle : s.Idle)
    (ran : runInterrupted main src turns s = (.ok (some (.outcome status detail)), s')) :
    ∃ s₁ s₂, Aside s s₁ ∧ Course src s₁ (.outcome status detail) s₂ ∧ Aside s₂ s' := by
  have spawned := spawnJob_oneJob idle src
  unfold runInterrupted at ran
  rw [bind_apply] at ran
  generalize spawnJob src s = out at spawned ran
  obtain ⟨task, s₁⟩ := out
  have runs := runs_oneJob src task s
  have settled : OneJob src task s (settle main (pure false) turns s₁).2 :=
    runs.settle main (fun _ h => h) turns spawned
  dsimp only at settled ran
  rw [bind_apply] at ran
  generalize settle main (pure false) turns s₁ = out at settled ran
  obtain ⟨back, s₂⟩ := out
  cases back with
  | left e => cases ran
  | stuck => cases ran
  | ok _ =>
    have fired := interrupt_oneJob settled
    dsimp only at fired ran
    rw [bind_apply] at ran
    generalize interrupt s₂ = out at fired ran
    obtain ⟨_, s₃⟩ := out
    have waited : OneJob src task s (settle main (isOver task) 50 s₃).2 :=
      runs.settle main (fun _ h => h) 50 fired
    dsimp only at waited ran
    rw [bind_apply] at ran
    generalize settle main (isOver task) 50 s₃ = out at waited ran
    obtain ⟨back, s₄⟩ := out
    cases back with
    | left e => cases ran
    | stuck => cases ran
    | ok _ =>
      dsimp only at waited ran
      rw [bind_apply] at ran
      generalize ended : endOfJob task s₄ = out at ran
      obtain ⟨e, s₅⟩ := out
      cases ran
      exact endOfJob_course waited ended

/-! Histories. -/

/-- A session whose writes are recorded, with given settings. -/
def State.Records (config : Config) (s : State) : Prop := s.sink.isConsole = false ∧ s.config = config

theorem State.Records.record {config : Config} {s : State} (h : s.Records config) :
    ∃ r, s.sink = .record r := by
  have kind := h.1
  cases sink : s.sink with
  | record r => exact ⟨r, rfl⟩
  | console =>
    rw [sink] at kind
    cases kind

theorem records_upkeep (config : Config) :
    Upkeep (State.Records config) (fun _ _ => True) (fun _ _ => True) where
  quiet quiet h := ⟨quiet.console.trans h.1, quiet.config.trans h.2⟩
  taken {s src} h _ := by
    unfold State.taken
    split
    · exact h
    · exact h
    · exact h
    · split <;> exact h
  gives _ _ := trivial

/-- In every history of a session whose writes are recorded, by the default template: when a cell is
run while no other run is under way, its outcome, what it writes and what it changes correspond. That
is so for runs in the main task and for runs in a task of their own, before and after which the event
loop runs only programs. -/
theorem corresponds_history (places : Path.Places) (config : Config) (files : Files) (realm : String)
    (template : config.template = .str defaultTemplate) (ops : List Op) (src : String) :
    let session := State.start places config files false realm
    let main := (open_ session).1
    let s := (open_ session).2.after main ops
    s.Idle →
      (∀ e s', run main src s = (.ok e, s') → Corresponds s src e s') ∧
      ∀ turns status detail s',
        runInterrupted main src turns s = (.ok (some (.outcome status detail)), s') →
          ∃ s₁ s₂, Aside s s₁ ∧ Corresponds s₁ src (.outcome status detail) s₂ ∧ Aside s₂ s' := by
  intro session main s idle
  have u := records_upkeep config
  have started : session.Records config := ⟨rfl, rfl⟩
  have records : s.Records config :=
    (u.history main ops (u.opened started rfl) (fun _ _ _ h => h) (fun _ _ _ h => h)
      (fun _ _ h => h) (begins_of_always (fun _ _ => trivial) main _ ops)).2
  have corresponds {s₁ s₂ : State} {e : RunEnd} (aside : Aside s s₁) (course : Course src s₁ e s₂) :
      Corresponds s₁ src e s₂ := by
    have kept := u.quiet aside.toQuiet records
    obtain ⟨r, hr⟩ := kept.record
    exact course.corresponds hr (by rw [kept.2, template])
  refine ⟨fun e s' ran => corresponds (.refl s) (run_course idle ran), fun turns status detail s' ran => ?_⟩
  obtain ⟨s₁, s₂, before, course, after⟩ := runInterrupted_course idle ran
  exact ⟨s₁, s₂, before, corresponds before course, after⟩

def isJob : Body → Bool
  | .job _ => true
  | _ => false

def isNoRun (x : Future Body Value Value Gather) : Bool :=
  x.outcome.isDone || (x.task.bind (·.body)).all fun b => !isJob b

theorem idle_of_all {s : State} (h : s.world.loops.futures.all isNoRun = true) : s.Idle := by
  intro f j _ here
  obtain ⟨x, t, hx, task, body⟩ := Loops.future?_of_body? here
  obtain ⟨bound, rfl⟩ := Array.getElem?_eq_some_iff.mp hx
  have each := Array.all_eq_true.mp h f bound
  rw [isNoRun, task, Option.bind_some, body] at each
  rw [Loops.isDone, Loops.outcome_of_future? hx]
  simpa [isJob] using each

def Back.isOk {α : Type} : Back α → Bool
  | .ok _ => true
  | _ => false

set_option maxRecDepth 100000 in
/-- A cell that shows a value, run twice. -/
theorem corresponds_shown_value :
    let session := State.start ⟨"/w", "/home/user"⟩ { rootDir := .str "/w" } {} false
    let main := (open_ session).1
    let s := (open_ session).2.after main [.run "1"]
    s.Idle ∧ ∃ e s', run main "1" s = (.ok e, s') ∧ Corresponds s "1" e s' := by
  intro session main s
  have both : (s.world.loops.futures.all isNoRun && (run main "1" s).1.isOk) = true := by decide +kernel
  obtain ⟨finished, ok⟩ := Bool.and_eq_true_iff.mp both
  have idle : s.Idle := idle_of_all finished
  have corresponds :=
    (corresponds_history ⟨"/w", "/home/user"⟩ { rootDir := .str "/w" } {} cellFunction rfl
      [.run "1"] "1" idle).1
  generalize ran : run main "1" s = out at ok ⊢
  obtain ⟨back, s'⟩ := out
  cases back with
  | ok e => exact ⟨idle, e, s', rfl, corresponds e s' ran⟩
  | left e => cases ok
  | stuck => cases ok

end Notebook.Session
