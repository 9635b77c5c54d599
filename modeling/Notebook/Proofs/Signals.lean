import Notebook.Proofs.ArenaWiring

/-! What becomes of the signal of a race: it stays armed until the first interrupt, which fires it.

A race takes the armed signal when it begins, and the signal is not armed anew before it is fired, as
long as the loop in use stays. So whether a race under way finds its signal fired tells whether an
interrupt came in the meantime. -/

set_option autoImplicit false

namespace Notebook.Loop.Arena

open Notebook.Loop.Loops

variable {β ν : Type}

namespace World

/-- A race that a task runs. -/
def Races (w : World β ν) (f : FutureId) (r : Race) : Prop :=
  (w.loops.future? f).bind (·.body?) = some (.racing r)

structure Armed (w : World β ν) (i : LatchId) : Prop where
  signal : w.controller.signal = some i
  isOpen : w.loops.isClosed w.loops.current = false
  latch : ∃ x, w.loops.latch? i = some x ∧ x.outcome = .pending ∧ x.loop = w.loops.current

def Fired (w : World β ν) (i : LatchId) : Prop :=
  ∃ x, w.loops.latch? i = some x ∧ x.outcome = .failed w.interrupted

def Holds (w : World β ν) : Prop := ∀ i, w.controller.signal = some i → ∃ x, w.loops.latch? i = some x

theorem races_iff {w : World β ν} {f : FutureId} {r : Race} :
    w.Races f r ↔ w.loops.stageOf stageOf f = .racing r := by
  unfold Races Loops.stageOf Future.stage
  cases w.loops.future? f with
  | none => exact ⟨nofun, nofun⟩
  | some x =>
    rw [Option.bind_some, Option.elim_some]
    cases x.body? with
    | none => exact ⟨nofun, nofun⟩
    | some b => cases b <;> simp [stageOf]

structure Goes (w w' : World β ν) : Prop where
  frame : w.loops.Frame w'.loops
  message : w'.message = w.message
  count : w.interrupts ≤ w'.interrupts
  armed : ∀ i, w.Armed i →
    (w'.Armed i ∧ w'.interrupts = w.interrupts) ∨ (w'.Fired i ∧ w.interrupts < w'.interrupts)
  fired : ∀ i, w.Fired i → w'.Fired i
  holds : w.Holds → w'.Holds

namespace Goes

variable {w w' w'' : World β ν}

theorem refl (w : World β ν) : w.Goes w := 
  ⟨.refl _, rfl, Nat.le_refl _, fun _ h => .inl ⟨h, rfl⟩, fun _ => id, id⟩

theorem trans (h : w.Goes w') (h' : w'.Goes w'') : w.Goes w'' where
  frame := h.frame.trans h'.frame
  message := h'.message.trans h.message
  count := Nat.le_trans h.count h'.count
  armed i armed := by
    rcases h.armed i armed with ⟨still, same⟩ | ⟨fired, more⟩
    · rw [← same]
      exact h'.armed i still
    · exact .inr ⟨h'.fired i fired, Nat.lt_of_lt_of_le more h'.count⟩
  fired i fired := h'.fired i (h.fired i fired)
  holds holds := h'.holds (h.holds holds)

theorem aside (frame : w.loops.Frame w'.loops)
    (signals : ∀ i x, w.loops.latch? i = some x →
      ∃ x', w'.loops.latch? i = some x' ∧ x'.outcome = x.outcome ∧ x'.loop = x.loop)
    (controller : w'.controller = w.controller) (message : w'.message = w.message)
    (count : w'.interrupts = w.interrupts) : w.Goes w' where
  frame := frame
  message := message
  count := Nat.le_of_eq count.symm
  armed i armed := by
    obtain ⟨x, hx, pending, here⟩ := armed.latch
    obtain ⟨x', hx', outcome, loop⟩ := signals i x hx
    refine .inl ⟨⟨controller ▸ armed.signal, ?_, x', hx', outcome.trans pending, ?_⟩, count⟩
    · rw [frame.current, frame.closed]
      exact armed.isOpen
    · rw [loop, here, frame.current]
  fired i fired := by
    obtain ⟨x, hx, failed⟩ := fired
    obtain ⟨x', hx', outcome, _⟩ := signals i x hx
    refine ⟨x', hx', ?_⟩
    rw [outcome, failed, interrupted, interrupted, message]
  holds holds i signal := by
    obtain ⟨x, hx⟩ := holds i (controller ▸ signal)
    obtain ⟨x', hx', _⟩ := signals i x hx
    exact ⟨x', hx'⟩

theorem calm {l : Tracks β ν} (calm : w.loops.Calm stageOf l) : w.Goes { w with loops := l } :=
  aside calm.toFrame calm.signals rfl rfl rfl

theorem arms (w : World β ν) :
    w.Goes { w with controller := (w.controller.current w.loops).2.1
                    loops := (w.controller.current w.loops).2.2 } := by
  rcases current_cases w.controller w.loops with ⟨same, _, kept, _⟩ | ⟨new, _, controller, spent⟩
  · rw [same, kept]
    exact refl w
  · have calm : w.loops.Calm stageOf _ := .armed w.loops w.controller
    refine ⟨calm.toFrame, rfl, Nat.le_refl _, fun i armed => ?_, fun i fired => ?_, fun _ i signal => ?_⟩
    · -- A signal that is armed here is not replaced.
      obtain ⟨x, hx, pending, here⟩ := armed.latch
      rcases spent i armed.signal with done | elsewhere
      · rw [latchDone_eq, hx, Option.elim_some, pending] at done
        cases done
      · rw [loopOfLatch, hx, Option.elim_some] at elsewhere
        exact absurd here elsewhere
    · obtain ⟨x, hx, failed⟩ := fired
      obtain ⟨x', hx', outcome, _⟩ := calm.signals i x hx
      exact ⟨x', hx', outcome.trans failed⟩
    · rw [controller] at signal
      cases signal
      rw [new, latch?_newLatch, if_pos rfl]
      exact ⟨_, rfl⟩

end Goes

theorem armed_current {w : World β ν} (holds : w.Holds) (isOpen : w.loops.isClosed w.loops.current = false) :
    ({ w with controller := (w.controller.current w.loops).2.1
              loops := (w.controller.current w.loops).2.2 } : World β ν).Armed (w.controller.current w.loops).1 := by
  rcases current_cases w.controller w.loops with ⟨same, signal, kept, pending, here⟩ | ⟨new, fresh, controller, _⟩
  · obtain ⟨x, hx⟩ := holds _ signal
    rw [latchDone_eq, hx, Option.elim_some] at pending
    rw [loopOfLatch, hx, Option.elim_some] at here
    rw [same, kept]
    refine ⟨signal, isOpen, x, hx, ?_, here⟩
    cases outcome : x.outcome with
    | pending => rfl
    | _ =>
      rw [outcome] at pending
      cases pending
  · refine ⟨?_, ?_, { loop := w.loops.current }, ?_, rfl, ?_⟩
    · rw [controller, fresh]
    · rw [new]
      exact isOpen
    · rw [new, fresh, latch?_newLatch, if_pos rfl]
    · rw [new]
      rfl

/-! Interrupts. -/

theorem latch?_settleLatch {l : Tracks β ν} {i : LatchId} {x : Latch Error} (hx : l.latch? i = some x)
    (pending : x.outcome.isDone = false) (o : Outcome Unit Error) (k : LatchId) :
    (l.settleLatch i o).latch? k = if i = k then some { x with outcome := o, waiters := [] } else l.latch? k := by
  unfold Loops.settleLatch
  rw [hx]
  dsimp only
  rw [if_neg (by rw [pending]; exact Bool.false_ne_true)]
  change (l.modifyLatch i _).latch? k = _
  rw [latch?_modifyLatch]
  split
  next same => rw [← same, hx, Option.map_some]
  next => rfl

theorem failed_settleLatch {l : Tracks β ν} {i k : LatchId} {o : Outcome Unit Error} {e : Error}
    (failed : ∃ x, l.latch? k = some x ∧ x.outcome = .failed e) :
    ∃ x, (l.settleLatch i o).latch? k = some x ∧ x.outcome = .failed e := by
  obtain ⟨y, hy, outcome⟩ := failed
  cases hx : l.latch? i with
  | none =>
    unfold Loops.settleLatch
    rw [hx]
    exact ⟨y, hy, outcome⟩
  | some x =>
    cases done : x.outcome.isDone with
    | true =>
      unfold Loops.settleLatch
      rw [hx]
      dsimp only
      rw [if_pos done]
      exact ⟨y, hy, outcome⟩
    | false =>
      rw [latch?_settleLatch hx done, if_neg ?_]
      · exact ⟨y, hy, outcome⟩
      · rintro rfl
        rw [Option.some.inj (hx.symm.trans hy), outcome] at done
        cases done

theorem latch?_arm (inLoop : Bool) (l : Tracks β ν) {k : LatchId} {x : Latch Error} (hx : l.latch? k = some x) :
    (Controller.arm inLoop l).2.latch? k = some x := by
  cases inLoop with
  | true =>
    change l.newLatch.2.latch? k = _
    rw [latch?_newLatch, if_neg (Nat.ne_of_lt (Array.getElem?_eq_some_iff.mp hx).1)]
    exact hx
  | false => exact hx

theorem holds_arm (inLoop : Bool) (l : Tracks β ν) (i : LatchId)
    (signal : (Controller.arm inLoop l).1.signal = some i) : ∃ x, (Controller.arm inLoop l).2.latch? i = some x := by
  cases inLoop with
  | true =>
    obtain rfl : l.latches.size = i := Option.some.inj signal
    exact ⟨_, (latch?_newLatch l _).trans (if_pos rfl)⟩
  | false => cases signal

theorem goes_interrupt (w : World β ν) : w.Goes w.interrupt := by
  have frame : w.loops.Frame w.interrupt.loops := w.tame_interrupt.toFrame
  -- The signals and the controller afterwards, by how the controller finds its signal.
  suffices after : ∀ out, out = w.controller.interrupt w.inLoop w.interrupted w.loops →
      (∀ i, w.Armed i → ∃ x, out.2.latch? i = some x ∧ x.outcome = .failed w.interrupted) ∧
      (∀ i, w.Fired i → ∃ x, out.2.latch? i = some x ∧ x.outcome = .failed w.interrupted) ∧
      (w.Holds → ∀ i, out.1.signal = some i → ∃ x, out.2.latch? i = some x) by
    obtain ⟨armed, fired, holds⟩ := after _ rfl
    exact ⟨frame, rfl, Nat.le_succ _, fun i h => .inr ⟨armed i h, Nat.lt_succ_self _⟩, fired, holds⟩
  intro out same
  unfold Controller.interrupt at same
  cases signal : w.controller.signal with
  | none =>
    rw [signal] at same
    subst same
    exact ⟨fun i armed => (nomatch signal.symm.trans armed.signal), fun _ => id, id⟩
  | some f =>
    rw [signal] at same
    dsimp only at same
    have mine {i : LatchId} (armed : w.Armed i) : i = f := Option.some.inj (armed.signal.symm.trans signal)
    split at same
    next closed =>
      subst same
      refine ⟨fun i armed => ?_, fun _ => id, fun _ => nofun⟩
      obtain ⟨x, hx, _, here⟩ := armed.latch
      rw [← mine armed, loopOfLatch, hx, Option.elim_some, here, armed.isOpen] at closed
      cases closed
    next =>
      split at same
      next done =>
        subst same
        refine ⟨fun i armed => ?_, fun _ => id, id⟩
        obtain ⟨x, hx, pending, _⟩ := armed.latch
        rw [← mine armed, latchDone_eq, hx, Option.elim_some, pending] at done
        cases done
      next =>
        subst same
        refine ⟨fun i armed => ?_, fun i fired => ?_, fun _ => holds_arm _ _⟩
        · obtain ⟨x, hx, pending, _⟩ := armed.latch
          rw [mine armed] at hx
          refine ⟨{ x with outcome := .failed w.interrupted, waiters := [] }, latch?_arm _ _ ?_, rfl⟩
          rw [latch?_settleLatch hx (by rw [pending]; rfl), if_pos (mine armed).symm]
        · obtain ⟨x, hx, failed⟩ := failed_settleLatch (i := f) (o := .failed w.interrupted) fired
          exact ⟨x, latch?_arm _ _ hx, failed⟩

/-! Deeds and turns. -/

theorem goes_deed (w : World β ν) (d : Deed β ν) : w.Goes (d.perform w) := by
  cases d with
  | note e => exact .aside (.refl _) (fun _ x hx => ⟨x, hx, rfl, rfl⟩) rfl rfl rfl
  | interrupt => exact goes_interrupt w
  | create => exact .calm (.create _)
  | start c =>
    refine .calm (.spawn _ fun b r same => ?_)
    cases same
    exact launch_stage c r
  | resolve f v => exact .calm (.settleOwn _ f rfl)
  | fail f e => exact .calm (.settleOwn _ f rfl)
  | cancel f => exact .calm (.cancel _ f)

theorem goes_deeds (w : World β ν) (ds : List (Deed β ν)) : w.Goes (ds.foldl Deed.perform w) := by
  induction ds generalizing w with
  | nil => exact .refl w
  | cons d ds ih => exact (w.goes_deed d).trans (ih (d.perform w))

/-- What a step on one loop does with races: one that is under way was so before, or begins with the
signal that is then armed. -/
structure Moves (w w' : World β ν) : Prop extends Goes w w' where
  begun : ∀ f, f < w.loops.futures.size → w.loops.stageOf stageOf f ≠ .ahead → w'.loops.stageOf stageOf f ≠ .ahead
  races : ∀ f r, w'.Races f r → w.Races f r ∨ (w.loops.stageOf stageOf f = .ahead ∧ w'.Armed r.signal ∧
    w'.interrupts = w.interrupts ∧ w'.loops.loopOf f = w'.loops.current)

theorem Goes.moves {w w' : World β ν} (goes : w.Goes w') (tame : w.loops.Tame stageOf w'.loops) : w.Moves w' :=
  { goes with
    begun := fun f lt begun ahead => by
      rcases tame.stages f lt with same | plain
      · exact begun (same ▸ ahead)
      · cases plain.symm.trans ahead
    races := fun f r races => .inl (races_iff.mpr (tame.racing (races_iff.mp races))) }

theorem goes_ended (w : World β ν) (f : FutureId) {t : Turn (Coroutine β) ν Error} (plain : PlainTurn t) :
    w.Goes (afterTurn f (t, w)) := by
  have aside : w.loops.Calm stageOf { w.loops with running := none } := .aside rfl rfl rfl rfl fun _ => rfl
  exact .calm (aside.trans (tame_ended _ f plain))

theorem tame_afterTurn (w : World β ν) (f : FutureId) {t : Turn (Coroutine β) ν Error} (plain : PlainTurn t) :
    w.loops.Tame stageOf (afterTurn f (t, w)).loops := by
  have aside : w.loops.Calm stageOf { w.loops with running := none } := .aside rfl rfl rfl rfl fun _ => rfl
  exact (aside.trans (tame_ended _ f plain)).toTame

theorem Goes.stays {w w' : World β ν} (h : w.Goes w') (same : w'.interrupts = w.interrupts) {i : LatchId}
    (armed : w.Armed i) : w'.Armed i := by
  rcases h.armed i armed with ⟨still, _⟩ | ⟨_, more⟩
  · exact still
  · exact absurd same (Nat.ne_of_gt more)

theorem calm_begin (l : Tracks β ν) (task : FutureId) (c : Controller) :
    (c.current l).2.2.Calm stageOf (Race.begin task c l).2.2 := by
  have waits : (c.current l).2.2.Calm stageOf (c.current l).2.2.newWaiter.2 := .aside rfl rfl rfl rfl fun _ => rfl
  exact (waits.trans (.addCallback _ _ _)).trans (.watchLatch _ _ _)

theorem goes_startRace (w : World β ν) (task : FutureId) : w.Goes (startRace task w).2 :=
  (Goes.arms w).trans (.calm (calm_begin w.loops task w.controller))

theorem armed_startRace {w : World β ν} (holds : w.Holds) (isOpen : w.loops.isClosed w.loops.current = false)
    (task : FutureId) : (startRace task w).2.Armed (Race.begin task w.controller w.loops).1.signal :=
  (Goes.calm (w := { w with controller := (w.controller.current w.loops).2.1
                            loops := (w.controller.current w.loops).2.2 })
    (calm_begin w.loops task w.controller)).stays rfl (armed_current holds isOpen)

theorem stageOf_begin (l : Tracks β ν) (task : FutureId) (c : Controller) (k : FutureId) :
    (Race.begin task c l).2.2.stageOf stageOf k = l.stageOf stageOf k := by
  have futures : (c.current l).2.2.futures = l.futures := by
    rcases current_cases c l with ⟨same, _⟩ | ⟨new, _⟩
    · rw [same]
    · rw [new]
      rfl
  refine (stageOf_watchLatch _ _ _ k).trans ((stageOf_addCallback _ _ _ k).trans ?_)
  change (c.current l).2.2.stageOf stageOf k = _
  rw [Loops.stageOf, future?, futures, Loops.stageOf, future?]

theorem moves_startRace {w : World β ν} (holds : w.Holds) (isOpen : w.loops.isClosed w.loops.current = false)
    {f : FutureId} (due : w.loops.Due stageOf f) (task : FutureId) :
    w.Moves (afterTurn f (startRace task w)) := by
  have goes := goes_startRace w task
  have armed := armed_startRace holds isOpen task
  have stages (k : FutureId) : (startRace task w).2.loops.stageOf stageOf k = w.loops.stageOf stageOf k :=
    stageOf_begin w.loops task w.controller k
  have same : (startRace task w).1 = .awaits (.waiter (Race.begin task w.controller w.loops).1.waiter)
    (.racing (Race.begin task w.controller w.loops).1) := rfl
  have count : (startRace task w).2.interrupts = w.interrupts := rfl
  generalize (Race.begin task w.controller w.loops).1 = r at armed same
  generalize startRace task w = out at goes armed stages same count
  obtain ⟨turn, w₁⟩ := out
  dsimp only at goes armed stages same count
  subst same
  -- The task enters the race, and then waits.
  let l₂ : Tracks β ν := { w₁.loops with running := none }.modifyTask f fun t => { t with body := some (.racing r) }
  let w₂ : World β ν := { w₁ with loops := l₂ }
  have entered : l₂.stageOf stageOf f = .racing r :=
    stageOf_setBody (l := { w₁.loops with running := none })
      (fun plain => nomatch (due.ahead.symm.trans (stages f).symm).trans plain) _
  have others {k : FutureId} (apart : k ≠ f) : l₂.stageOf stageOf k = w.loops.stageOf stageOf k := by
    refine Eq.trans ?_ (stages k)
    exact (stageOf_modifyFuture _ f _ k).trans (if_neg apart.symm)
  have enters : w₁.Goes w₂ := by
    have stops : w₁.loops.Frame { w₁.loops with running := none } := .aside rfl rfl rfl fun _ => rfl
    have changes : ({ w₁.loops with running := none } : Tracks β ν).Frame l₂ := by
      refine .modifyFuture _ f ?_
      exact fun _ => rfl
    exact .aside (stops.trans changes) (fun _ x hx => ⟨x, hx, rfl, rfl⟩) rfl rfl rfl
  have calm : l₂.Calm stageOf (l₂.await f (.waiter r.waiter)) := .await _ _ _
  have waits : w₂.Goes { w₂ with loops := l₂.await f (.waiter r.waiter) } := .calm calm
  have last : afterTurn f (.awaits (.waiter r.waiter) (.racing r), w₁)
      = { w₂ with loops := l₂.await f (.waiter r.waiter) } := rfl
  rw [last]
  generalize l₂.await f (.waiter r.waiter) = l₃ at calm waits
  have all := goes.trans (enters.trans waits)
  refine { all with begun := fun k lt begun ahead => ?_, races := fun k s races => ?_ }
  · have apart : k ≠ f := fun same => begun (same ▸ due.ahead)
    have lt₂ : k < l₂.futures.size := Nat.lt_of_lt_of_le lt (goes.trans enters).frame.size
    rcases calm.stages k lt₂ with kept | plain
    · exact begun ((others apart).symm.trans (kept.symm.trans ahead))
    · cases plain.symm.trans ahead
  · have before := calm.racing (races_iff.mp races)
    by_cases apart : k = f
    · subst apart
      obtain rfl := Stage.racing.inj (entered.symm.trans before)
      refine .inr ⟨due.ahead, (enters.trans waits).stays rfl armed, count, ?_⟩
      rw [all.frame.homes k due.lt, all.frame.current]
      exact due.here
    · exact .inl (races_iff.mpr ((others apart).symm.trans before))

/-! Steps. -/

/-- A world that a run comes to: wired, with its loop open and its signal there. -/
structure Sound (w : World β ν) : Prop where
  wired : w.loops.Wired stageOf
  current : w.loops.current < w.loops.queues.size
  isOpen : w.loops.isClosed w.loops.current = false
  holds : w.Holds

theorem Moves.calm {w : World β ν} {l : Tracks β ν} (calm : w.loops.Calm stageOf l) :
    w.Moves { w with loops := l } := (Goes.calm calm).moves calm.toTame

theorem Moves.after {w w' w'' : World β ν} (goes : w.Goes w') (same : w'.interrupts = w.interrupts)
    (stages : ∀ k, w'.loops.stageOf stageOf k = w.loops.stageOf stageOf k) (h : w'.Moves w'') : w.Moves w'' :=
  { goes.trans h.toGoes with
    begun := fun f lt begun =>
      h.begun f (Nat.lt_of_lt_of_le lt goes.frame.size) (stages f ▸ begun)
    races := fun f r races => by
      rcases h.races f r races with before | ⟨ahead, armed, count, home⟩
      · exact .inl (races_iff.mpr ((stages f).symm.trans (races_iff.mp before)))
      · exact .inr ⟨(stages f).symm.trans ahead, armed, count.trans same, home⟩ }

theorem moves_afterTurn (w : World β ν) (f : FutureId) {t : Turn (Coroutine β) ν Error} (plain : PlainTurn t) :
    w.Moves (afterTurn f (t, w)) := (goes_ended w f plain).moves (tame_afterTurn _ f plain)

theorem goes_prepared (w : World β ν) (b : β) : w.Goes (w.prepared b).2 :=
  (Goes.arms w).trans (.calm (.spawn _ fun _ _ => not_racing_body))

theorem stageOf_prepared (w : World β ν) (b : β) (k : FutureId) :
    (w.prepared b).2.loops.stageOf stageOf k = w.loops.stageOf stageOf k := by
  have futures : (w.controller.current w.loops).2.2.futures = w.loops.futures := by
    rcases current_cases w.controller w.loops with ⟨same, _⟩ | ⟨new, _⟩
    · rw [same]
    · rw [new]
      rfl
  have found : (w.prepared b).2.loops.future? k = _ := future?_push (w.controller.current w.loops).2.2 _ k
  rw [Loops.stageOf, found]
  split
  next last =>
    rw [stageOf_out (Nat.le_of_eq (by rw [last, futures]))]
    rfl
  next => rw [future?, futures, Loops.stageOf, future?]

theorem moves_resume (act : Conduct β ν) {w : World β ν} (holds : w.Holds)
    (isOpen : w.loops.isClosed w.loops.current = false) {f : FutureId} {b : Coroutine β}
    (due : stageOf b = .ahead → w.loops.Due stageOf f) (s : Signal Error) :
    w.Moves (afterTurn f (resume act f b s w)) := by
  have gives_up : w.Moves (afterTurn f (.cancelled, w)) := moves_afterTurn w f trivial
  cases b with
  | body b =>
    have opened : resume act f (.body b) s w
        = ((act f b s w).2.turn, (act f b s w).1.foldl Deed.perform w) := rfl
    rw [opened]
    have deeds := goes_deeds w (act f b s w).1
    have tame := tame_deeds w (act f b s w).1
    have plain := (act f b s w).2.plainTurn
    exact (deeds.trans (goes_ended _ f plain)).moves (tame.trans (tame_afterTurn _ f plain))
  | raceBody b =>
    cases s with
    | go =>
      rw [resume_raceBody]
      have goes := goes_prepared w b
      have ready : (w.prepared b).2.loops.Due stageOf f := ((due rfl).armed w.controller).spawn (some (.body b))
      refine .after goes rfl (stageOf_prepared w b) (moves_startRace (goes.holds holds) ?_ ready _)
      rw [goes.frame.current, goes.frame.closed]
      exact isOpen
    | cancelled => exact gives_up
    | failed e => exact gives_up
  | raceTask t =>
    cases s with
    | go => exact moves_startRace holds isOpen (due rfl) t
    | cancelled => exact gives_up
    | failed e => exact gives_up
  | racing r =>
    have opened : resume act f (.racing r) s w = raceTurn r s w := rfl
    rw [opened, raceTurn_eq]
    have calm := calm_ends w.loops r s
    have plain : PlainTurn (endingTurn w.interrupted (ends r s w.loops).1 : Turn (Coroutine β) ν Error) :=
      plain_endingTurn _ _
    let w' : World β ν := { w with loops := (ends r s w.loops).2 }
    exact ((Goes.calm calm).trans (goes_ended w' f plain)).moves (calm.toTame.trans (tame_afterTurn w' f plain))

theorem goes_turning (w : World β ν) (f : FutureId) (s : Signal Error) : w.Goes (w.turning f s).2 :=
  .calm (calm_turning w f s)

theorem Sound.turning {w : World β ν} (h : w.Sound) (f : FutureId) (s : Signal Error) :
    (w.turning f s).2.Sound := by
  have frame := (calm_turning w f s).toFrame
  refine ⟨wired_turning h.wired f s, ?_, ?_, (goes_turning w f s).holds h.holds⟩
  · rw [frame.current, frame.queues]
    exact h.current
  · rw [frame.current, frame.closed]
    exact h.isOpen

theorem moves_turn (act : Conduct β ν) (unit : ν) {w : World β ν} (h : w.Sound) {f : FutureId}
    (due : w.loops.stageOf stageOf f = .ahead → w.loops.Due stageOf f) (s : Signal Error) :
    w.Moves ((runner act unit).turn f s w).2 := by
  have turning : w.Moves (w.turning f s).2 := .calm (calm_turning w f s)
  rcases turn_cases act unit f s w with ⟨_, nothing⟩ | ⟨_, outside⟩ | ⟨x, b, hx, hb, turn⟩
  · rw [nothing]
    exact (Goes.refl w).moves (.refl _)
  · rw [outside]
    exact turning
  · rw [turn]
    have ready (ahead : stageOf b = .ahead) : (w.turning f s).2.loops.Due stageOf f :=
      due_turning (due ((stageOf_of_body hx hb).trans ahead)) s
    exact .after turning.toGoes rfl (stageOf_turning w f s)
      (moves_resume act (h.turning f s).holds (h.turning f s).isOpen ready _)

theorem moves_nextEntry (act : Conduct β ν) (unit : ν) {w : World β ν} (h : w.Sound) :
    w.Moves (nextEntry act unit w) := by
  unfold nextEntry
  split
  next => exact (Goes.refl w).moves (.refl _)
  next e l taken =>
    have calm : w.loops.Calm stageOf l := .take taken
    have same (k : FutureId) : l.stageOf stageOf k = w.loops.stageOf stageOf k := (sameBut_take? taken).stageOf k
    obtain ⟨fits, turn⟩ := h.wired.taken taken
    have goes : w.Goes { w with loops := l } := .calm calm
    have sound : ({ w with loops := l } : World β ν).Sound := by
      refine ⟨h.wired.take taken, ?_, ?_, goes.holds h.holds⟩
      · exact calm.current ▸ calm.queues ▸ h.current
      · exact (congrArg _ calm.current).trans ((calm.closed _).trans h.isOpen)
    refine .after goes rfl same ?_
    cases e with
    | turn f s =>
      refine moves_turn act unit sound (fun ahead => ⟨ahead, turn f (beq_self_eq_true f) ahead, ?_⟩) s
      exact (fits.2.1 ahead).symm.trans calm.current.symm
    | wake f source => exact moves_turn act unit sound (fun ahead => absurd ahead fits.2.1) _
    | complete i => exact .calm (.settleWaiter l i _)
    | act a f => exact nomatch a
    | expire f => exact .calm (.settleOwn l f rfl)

theorem moves_step (act : Conduct β ν) (unit : ν) {w : World β ν} (h : w.Sound) (s : Step β ν) :
    (∃ close, s = .renew close) ∨ w.Moves (s.perform act unit w) := by
  have nothing : w.Moves w := (Goes.refl w).moves (.refl _)
  cases s with
  | deed d => exact .inr ((goes_deed w d).moves (d.tame w))
  | entry => exact .inr (moves_nextEntry act unit h)
  | look =>
    refine .inr ?_
    have goes : w.Goes w.look.2 := by
      unfold World.look
      split
      · exact Goes.arms w
      · split
        · exact .refl w
        next i signal =>
          split
          next done =>
            -- A signal that is done is not armed.
            refine ⟨.refl _, rfl, Nat.le_refl _, fun k armed => ?_, fun _ => id, fun _ _ => nofun⟩
            obtain rfl := Option.some.inj (signal.symm.trans armed.signal)
            obtain ⟨x, hx, pending, _⟩ := armed.latch
            rw [latchDone_eq, hx, Option.elim_some, pending] at done
            cases done
          next => exact .refl w
    exact goes.moves w.loops_look.toTame
  | host => exact .inr (.calm (.spawn _ nofun))
  | pause t =>
    refine .inr ?_
    change w.Moves (if isHost w.loops t then _ else w)
    split
    · have stops : w.loops.Calm stageOf { w.loops with running := none } := .aside rfl rfl rfl rfl fun _ => rfl
      exact .calm (stops.trans (.soon _ _ _))
    · exact nothing
  | conclude t =>
    refine .inr ?_
    change w.Moves (if isHost w.loops t then _ else w)
    split
    · exact .calm ((Calm.finish w.loops t (o := .result unit) rfl).trans (.aside rfl rfl rfl rfl fun _ => rfl))
    · exact nothing
  | loop runs =>
    have goes : w.Goes { w with inLoop := runs } := .aside (.refl _) (fun _ x hx => ⟨x, hx, rfl, rfl⟩) rfl rfl rfl
    exact .inr (goes.moves (.refl _))
  | renew close => exact .inl ⟨close, rfl⟩

theorem renew_frame (l : Tracks β ν) (close : Bool) : (l.renew close).futures = l.futures ∧
    (l.renew close).latches = l.latches ∧ (l.renew close).current = l.queues.size ∧
    (l.renew close).queues.size = l.queues.size + 1 ∧ (l.renew close).isClosed l.queues.size = false := by
  have pushed (l' : Tracks β ν) (size : l'.queues.size = l.queues.size) :
      ({ l' with queues := l'.queues.push {}, current := l'.queues.size, running := none } : Tracks β ν).isClosed
        l.queues.size = false := by
    rw [isClosed, Array.getElem?_push, if_pos size.symm]
    rfl
  cases close with
  | false => exact ⟨rfl, rfl, rfl, Array.size_push _, pushed l rfl⟩
  | true =>
    have size : (l.modifyQueue l.current fun q => { q with isClosed := true }).queues.size = l.queues.size :=
      Array.size_modify
    exact ⟨rfl, rfl, size, (Array.size_push _).trans (congrArg (· + 1) size), pushed _ size⟩

theorem Sound.step (act : Conduct β ν) (unit : ν) {w : World β ν} (h : w.Sound) (s : Step β ν) :
    (s.perform act unit w).Sound := by
  have wired := s.wired act unit h.wired
  rcases moves_step act unit h s with ⟨close, rfl⟩ | moves
  · obtain ⟨_, latches, current, size, isOpen⟩ := renew_frame w.loops close
    refine ⟨wired, ?_, ?_, fun i signal => ?_⟩
    · exact Nat.lt_of_le_of_lt (Nat.le_of_eq current) (Nat.lt_of_lt_of_eq (Nat.lt_succ_self _) size.symm)
    · exact (congrArg _ current).trans isOpen
    · obtain ⟨x, hx⟩ := h.holds i signal
      exact ⟨x, (congrArg (fun ls : Array (Latch Error) => ls[i]?) latches).trans hx⟩
  · refine ⟨wired, ?_, ?_, moves.holds h.holds⟩
    · rw [moves.frame.current, moves.frame.queues]
      exact h.current
    · rw [moves.frame.current, moves.frame.closed]
      exact h.isOpen

/-- A controller before anything was done with it. -/
def fresh (β ν : Type) (message : String) (reach : Nat) : World β ν := { message, loops := { reach } }

theorem sound_fresh (message : String) (reach : Nat) : (fresh β ν message reach).Sound := by
  have ready (n : Nat) : (fresh β ν message reach).loops.ready n = [] := by
    cases n <;> rfl
  refine ⟨?_, Nat.zero_lt_one, rfl, nofun⟩
  exact
    { entries := fun n e member => nomatch (ready n ▸ member : e ∈ [])
      once := fun _ => nofun
      callbacks := fun _ _ => nofun
      latches := fun _ _ => nofun
      waiters := fun _ _ => nofun
      races := fun _ _ => nofun
      unique := fun _ _ _ _ => nofun
      awaits := fun _ _ => nofun
      must := fun _ => nofun }

theorem Sound.after (act : Conduct β ν) (unit : ν) {w : World β ν} (h : w.Sound) (steps : List (Step β ν)) :
    (w.after act unit steps).Sound := by
  induction steps generalizing w with
  | nil => exact h
  | cons s steps ih => exact ih (h.step act unit s)

theorem Sound.message_step (act : Conduct β ν) (unit : ν) {w : World β ν} (h : w.Sound) (s : Step β ν) :
    (s.perform act unit w).message = w.message := by
  rcases moves_step act unit h s with ⟨close, rfl⟩ | moves
  · rfl
  · exact moves.message

theorem Sound.message_after (act : Conduct β ν) (unit : ν) {w : World β ν} (h : w.Sound) (steps : List (Step β ν)) :
    (w.after act unit steps).message = w.message := by
  induction steps generalizing w with
  | nil => rfl
  | cons s steps ih => exact (ih (h.step act unit s)).trans (h.message_step act unit s)

end World

end Notebook.Loop.Arena
