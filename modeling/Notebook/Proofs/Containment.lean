import Notebook.Proofs.Course
import Notebook.Proofs.Kinds

/-! What leaves the run of a cell: an interrupt from the keyboard, the request to cancel the run itself,
and errors of texts that cannot be written, and nothing else. -/

set_option autoImplicit false

namespace Notebook.Loop.Loops

variable {κ ν ε γ : Type}

/-! Turns of tasks. -/

/-- Event loops after a turn of a task: other tasks are as they were, and it fails only by its turn. -/
structure TurnEnds (f : FutureId) (t : Turn κ ν ε) (l l' : Loops κ ν ε γ) : Prop where
  body : ∀ k b, l'.body? k = some b → l.body? k = some b ∨ (k = f ∧ t.body? = some b)
  kept : ∀ k b, l.body? k = some b →
    l'.body? k = some b ∨ ∃ b', k = f ∧ t.body? = some b' ∧ l'.body? k = some b'
  outcome : ∀ k b, k ≠ f → l.body? k = some b → l'.outcome k = l.outcome k
  failed : ∀ e, l'.outcome f = .failed e → t = .raises e ∨ t = .leaves e
  latches : l'.latches = l.latches

theorem latches_settle (l : Loops κ ν ε γ) (f : FutureId) (o : Outcome ν ε) :
    (l.settle f o).latches = l.latches := by
  unfold settle
  split
  · rfl
  · split <;> rfl

theorem latches_finish (l : Loops κ ν ε γ) (f : FutureId) (o : Outcome ν ε) :
    (l.finish f o).latches = l.latches := by
  unfold finish
  dsimp only
  split
  · split
    · exact latches_settle _ f _
    · exact latches_settle l f _
  · exact latches_settle l f _

theorem failed_of_finish {l : Loops κ ν ε γ} {f : FutureId} {b : κ} (here : l.body? f = some b)
    (pending : l.isDone f = false) {o : Outcome ν ε} {e : ε} (failed : (l.finish f o).outcome f = .failed e) :
    o = .failed e := by
  have asked : l.Leads (fun _ => False) (l.modifyTask f fun t => { t with mustCancel := false }) :=
    .modifyTask l f fun _ => rfl
  unfold finish at failed
  dsimp only at failed
  split at failed
  · split at failed
    · obtain ⟨x, t, hx, -⟩ := future?_of_body? here
      have still := (body?_of_leads asked hx).trans here
      rw [outcome_settle still (by rw [isDone, outcome_modifyTask]; exact pending)] at failed
      cases failed
    · rw [outcome_settle here pending] at failed
      cases failed
  · rw [outcome_settle here pending] at failed
    exact failed

theorem TurnEnds.afterTurn {l : Loops κ ν ε γ} {f : FutureId} {b₀ : κ} (here : l.body? f = some b₀)
    (pending : l.isDone f = false) (t : Turn κ ν ε) : TurnEnds f t l (l.afterTurn f t) := by
  have ended (o : Outcome ν ε) (how : ∀ e, o = .failed e → t = .raises e ∨ t = .leaves e) :
      TurnEnds f t l (l.finish f o) := by
    have turned : l.Turned (fun _ => False) f (l.finish f o) := .finish l f o
    exact ⟨fun k b hb => .inl ((turned.body k b hb).resolve_right fun h => h.2),
      fun k b hb => .inl (turned.kept k b hb), turned.task,
      fun e failed => how e (failed_of_finish here pending failed), latches_finish l f o⟩
  have goesOn (b' : κ) (l' : Loops κ ν ε γ) (goes : t.body? = some b')
      (leads : (l.modifyTask f fun t => { t with body := some b' }).Leads (fun _ => False) l') :
      TurnEnds f t l l' := by
    have turned := Turned.ofLeads (f := f + 1) leads
    have apart : f ≠ f + 1 := (Nat.succ_ne_self f).symm
    have set_ (k : FutureId) (other : k ≠ f) :
        (l.modifyTask f fun t => { t with body := some b' }).body? k = l.body? k :=
      (body?_modifyTask l f _ k).trans (if_neg (Ne.symm other))
    have mine : (l.modifyTask f fun t => { t with body := some b' }).body? f = some b' := by
      obtain ⟨x, t, hx, ht, -⟩ := future?_of_body? here
      rw [body?_modifyTask, if_pos rfl, hx, Option.bind_some, ht]
      rfl
    refine ⟨fun k b hb => ?_, fun k b hb => ?_, fun k b other hb => ?_, fun e failed => ?_,
      leads.latches⟩
    · have before := (turned.body k b hb).resolve_right fun h => h.2
      by_cases same : k = f
      · subst same
        exact .inr ⟨rfl, goes.trans (mine.symm.trans before)⟩
      · exact .inl ((set_ k same).symm.trans before)
    · by_cases same : k = f
      · subst same
        exact .inr ⟨b', rfl, goes, turned.kept k b' mine⟩
      · exact .inl (turned.kept k b ((set_ k same).trans hb))
    · by_cases next : k = f + 1
      · have turned := Turned.ofLeads (f := f) leads
        exact (turned.task k b other ((set_ k other).trans hb)).trans (outcome_modifyTask l f _ k)
      · exact (turned.task k b next ((set_ k other).trans hb)).trans (outcome_modifyTask l f _ k)
    · rw [turned.task f b' apart mine, outcome_modifyTask] at failed
      rw [isDone, failed] at pending
      cases pending
  cases t with
  | awaits what b => exact goesOn b _ rfl (.await _ f what)
  | pauses b => exact goesOn b _ rfl (.aside rfl rfl)
  | returns v => exact ended (.result v) fun e' same => by cases same
  | raises e => exact ended (.failed e) fun e' same => by cases same; exact .inl rfl
  | cancelled => exact ended .cancelled fun e' same => by cases same
  | leaves e => exact ended (.failed e) fun e' same => by cases same; exact .inr rfl

/-! Latches. -/

theorem latchOutcome_of_latches {l l' : Loops κ ν ε γ} (same : l'.latches = l.latches) (i : LatchId) :
    l'.latchOutcome i = l.latchOutcome i := by
  unfold latchOutcome latch?
  rw [same]

theorem latchOutcome_newLatch (l : Loops κ ν ε γ) (i : LatchId) :
    l.newLatch.2.latchOutcome i = l.latchOutcome i := by
  unfold latchOutcome latch? newLatch
  dsimp only
  rw [Array.getElem?_push]
  by_cases last : i = l.latches.size
  · rw [if_pos last, last, Array.getElem?_eq_none (Nat.le_refl _)]
  · rw [if_neg last]

theorem latchOutcome_modifyLatch (l : Loops κ ν ε γ) (i : LatchId) (g : Latch ε → Latch ε)
    (h : ∀ x, (g x).outcome = x.outcome) (k : LatchId) :
    (l.modifyLatch i g).latchOutcome k = l.latchOutcome k := by
  unfold latchOutcome latch? modifyLatch
  dsimp only
  rw [Array.getElem?_modify]
  by_cases same : i = k
  · rw [if_pos same]
    cases l.latches[k]? with
    | none => rfl
    | some x => exact h x
  · rw [if_neg same]

theorem latchOutcome_watchLatch (l : Loops κ ν ε γ) (i : LatchId) (waiter : WaiterId) (k : LatchId) :
    (l.watchLatch i waiter).latchOutcome k = l.latchOutcome k := by
  unfold watchLatch
  split
  · rfl
  · split
    · rfl
    · exact l.latchOutcome_modifyLatch i _ (by intro; rfl) k

theorem latchOutcome_current (c : Controller) (l : Loops κ ν ε γ) (k : LatchId) :
    (c.current l).2.2.latchOutcome k = l.latchOutcome k := by
  unfold Controller.current
  dsimp only
  split
  · exact l.latchOutcome_newLatch k
  · split
    · exact l.latchOutcome_newLatch k
    · rfl

theorem latchOutcome_release (r : Race) (l : Loops κ ν ε γ) (k : LatchId) :
    (r.release l).latchOutcome k = l.latchOutcome k :=
  (latchOutcome_modifyLatch _ r.signal _ (by intro; rfl) k).trans (latchOutcome_of_latches rfl k)

theorem latchOutcome_interrupt (c : Controller) (inLoop : Bool) (exc : ε) (l : Loops κ ν ε γ)
    {k : LatchId} {e : ε} (failed : (c.interrupt inLoop exc l).2.latchOutcome k = .failed e) :
    l.latchOutcome k = .failed e ∨ e = exc := by
  have settled (i : LatchId) (h : (l.settleLatch i (.failed exc)).latchOutcome k = .failed e) :
      l.latchOutcome k = .failed e ∨ e = exc := by
    unfold settleLatch at h
    split at h
    · exact .inl h
    · split at h
      · exact .inl h
      · change (l.modifyLatch i fun x => { x with outcome := .failed exc, waiters := [] }).latchOutcome k
          = .failed e at h
        unfold latchOutcome latch? modifyLatch at h
        dsimp only at h
        rw [Array.getElem?_modify] at h
        by_cases same : i = k
        · rw [if_pos same] at h
          cases there : l.latches[k]? with
          | none =>
            rw [there] at h
            cases h
          | some x =>
            rw [there] at h
            cases h
            exact .inr rfl
        · rw [if_neg same] at h
          exact .inl h
  unfold Controller.interrupt Controller.arm at failed
  split at failed
  · exact .inl failed
  · split at failed
    · exact .inl failed
    · split at failed
      · exact .inl failed
      · split at failed
        · rw [latchOutcome_newLatch] at failed
          exact settled _ failed
        · exact settled _ failed

end Notebook.Loop.Loops

namespace Notebook.Machine

open Notebook.Loop

/-- A turn with which only an interrupt from the keyboard or an exit leaves the event loop. -/
def LeavesOnly (t : Turn Body Value Value) (w : World) : Prop :=
  ∀ e, t = .leaves e → w.isKind e "KeyboardInterrupt" = true ∨ w.isKind e "SystemExit" = true

theorem turnAfter_leaves (h : Host) (body : Body) (result : Except Value Progress) :
    (turnAfter h body result).Gives LeavesOnly := by
  rcases result with e | (v | ⟨v, own⟩)
  · intro w t w' ran
    obtain ⟨isCancelled, w₁, asked, ran⟩ := M.of_bind_ok ran
    cases (isError_run e "CancelledError" w).symm.trans asked
    cases kind : w.isKind e "CancelledError" with
    | true =>
      rw [kind] at ran
      obtain ⟨_, w₂, -, ran⟩ := M.of_bind_ok ran
      cases ran
      exact nofun
    | false =>
      rw [kind, if_neg Bool.false_ne_true] at ran
      obtain ⟨isInterrupt, w₁, asked, ran⟩ := M.of_bind_ok ran
      cases (isError_run e "KeyboardInterrupt" w).symm.trans asked
      obtain ⟨isExit, w₁, asked, ran⟩ := M.of_bind_ok ran
      cases (isError_run e "SystemExit" w).symm.trans asked
      split at ran
      next kinds =>
        cases ran
        intro e' same
        cases same
        exact Bool.or_eq_true_iff.mp kinds
      next =>
        cases ran
        exact nofun
  · exact .pure fun _ => nofun
  · refine .bind fun held => ?_
    split
    · exact .pure fun _ => nofun
    · exact .pure fun _ => nofun
    · exact .bind fun _ => .bind fun _ => .pure fun _ => nofun

theorem coroutineTurn_leaves (h : Host) (r : Ref) (body : Body) (signal : Signal Value) :
    (coroutineTurn h r body signal).Gives LeavesOnly :=
  .bind fun _ => .bind fun _ => turnAfter_leaves h body _

def FailsByInterrupt (t : Turn Body Value Value) (w : World) : Prop :=
  ∀ e, t = .raises e ∨ t = .leaves e → w.isKind e "KeyboardInterrupt" = true

theorem FailsByInterrupt.cancelled (w : World) : FailsByInterrupt .cancelled w := by
  intro e fails
  rcases fails with fails | fails <;> cases fails

theorem containedTurn_fails (h : Host) (r : Ref) (body : Body) (signal : Signal Value) :
    (containedTurn h r body signal).Gives FailsByInterrupt := by
  intro w t w' ran e fails
  obtain ⟨inner, w₁, -, ran⟩ := M.of_bind_ok ran
  cases inner with
  | leaves e' =>
    obtain ⟨isInterrupt, w₂, asked, ran⟩ := M.of_bind_ok ran
    cases (isError_run e' "KeyboardInterrupt" w₁).symm.trans asked
    cases kind : w₁.isKind e' "KeyboardInterrupt" with
    | true =>
      rw [kind] at ran
      cases ran
      rcases fails with fails | fails <;> cases fails
      exact kind
    | false =>
      rw [kind] at ran
      cases ran
      rcases fails with fails | fails <;> cases fails
  | returns v =>
    cases ran
    rcases fails with fails | fails <;> cases fails
  | raises e' =>
    cases ran
    rcases fails with fails | fails <;> cases fails
  | awaits what b =>
    cases ran
    rcases fails with fails | fails <;> cases fails
  | pauses b =>
    cases ran
    rcases fails with fails | fails <;> cases fails
  | cancelled =>
    cases ran
    rcases fails with fails | fails <;> cases fails

end Notebook.Machine

namespace Notebook.Session

open Notebook.Machine Notebook.Loop Notebook.Cell

/-! Event loops in which no run and no body of a run ends. -/

/-- What event loops keep of the runs of cells and of their bodies, which are contained; those that come
in are pending. Latches are fired with some errors only. -/
structure Firm (fires : Value → Prop) (l l' : Loops Body Value Value Gather) : Prop where
  body : ∀ f b, l'.body? f = some b → b.IsOwn ∨
    (l.body? f = some b ∧ l'.outcome f = l.outcome f) ∨
    (l'.isDone f = false ∧ ∀ race last, b ≠ .job (.racing race last))
  kept : ∀ f r, l.body? f = some (.contained r) → l'.body? f = some (.contained r)
  latches : ∀ i e, l'.latchOutcome i = .failed e → l.latchOutcome i = .failed e ∨ fires e

namespace Firm

variable {fires : Value → Prop} {l l' l'' : Loops Body Value Value Gather}

theorem ofLeads (h : l.Leads Body.IsOwn l') : Firm fires l l' where
  body f b hb := by
    have turned := Loops.Turned.ofLeads (f := f + 1) h
    rcases turned.body f b hb with before | ⟨-, own⟩
    · exact .inr (.inl ⟨before, turned.task f b (Nat.succ_ne_self f).symm before⟩)
    · exact .inl own
  kept f r hb := (Loops.Turned.ofLeads (f := f) h).kept f _ hb
  latches i e failed := .inl ((Loops.latchOutcome_of_latches h.latches i).symm.trans failed)

theorem trans (h : Firm fires l l') (h' : Firm fires l' l'') : Firm fires l l'' where
  body f b hb := by
    rcases h'.body f b hb with own | ⟨before, same⟩ | new
    · exact .inl own
    · rcases h.body f b before with own | ⟨first, same'⟩ | ⟨pending, other⟩
      · exact .inl own
      · exact .inr (.inl ⟨first, same.trans same'⟩)
      · refine .inr (.inr ⟨?_, other⟩)
        rw [Loops.isDone, same]
        exact pending
    · exact .inr (.inr new)
  kept f r hb := h'.kept f r (h.kept f r hb)
  latches i e failed := (h'.latches i e failed).elim (h.latches i e) .inr

theorem ofFutures (same : l'.futures = l.futures)
    (latches : ∀ i e, l'.latchOutcome i = .failed e → l.latchOutcome i = .failed e ∨ fires e) : Firm fires l l' where
  body f b hb := by
    have turned : l'.Turned (fun _ => False) (f + 1) l := .ofFutures same.symm
    have before := turned.kept f b hb
    exact .inr (.inl ⟨before, (turned.task f b (Nat.succ_ne_self f).symm hb).symm⟩)
  kept f r hb := by
    have turned : l.Turned (fun _ => False) f l' := .ofFutures same
    exact turned.kept f _ hb
  latches := latches

theorem calm (same : l'.futures = l.futures)
    (latches : ∀ i, l'.latchOutcome i = l.latchOutcome i) : Firm fires l l' :=
  .ofFutures same fun i _ failed => .inl ((latches i).symm.trans failed)

theorem spawn (l : Loops Body Value Value Gather) {b : Option Body}
    (start : ∀ race last, b ≠ some (.job (.racing race last))) : Firm fires l (l.spawn b).2 where
  body f b' hb := by
    by_cases new : f = l.futures.size
    · have now := (l.future?_spawn b f).trans (if_pos new)
      rw [Loops.body?, now] at hb
      refine .inr (.inr ⟨?_, fun race last same => start race last (same ▸ hb)⟩)
      rw [Loops.isDone, Loops.outcome, now]
      rfl
    · have before := (l.future?_spawn b f).trans (if_neg new)
      rw [Loops.body?, before] at hb
      refine .inr (.inl ⟨hb, ?_⟩)
      rw [Loops.outcome, before, Loops.outcome]
  kept f r hb := by
    obtain ⟨x, t, hx, -⟩ := Loops.future?_of_body? hb
    have old : f ≠ l.futures.size := Nat.ne_of_lt (Loops.lt_size_of_future? hx)
    rw [Loops.body?, l.future?_spawn b f, if_neg old]
    exact hb
  latches _ _ failed := .inl failed

theorem raceBegin (task : FutureId) (c : Controller) (l : Loops Body Value Value Gather) :
    Firm fires l (Race.begin task c l).2.2 := by
  have first : Firm fires l (c.current l).2.2.newWaiter.2 := by
    refine .calm ?_ (Loops.latchOutcome_current c l)
    change (c.current l).2.2.futures = l.futures
    unfold Controller.current
    dsimp only
    split
    · rfl
    · split <;> rfl
  have watched (l : Loops Body Value Value Gather) (i : LatchId) (waiter : WaiterId) :
      Firm fires l (l.watchLatch i waiter) := by
    refine .calm ?_ (l.latchOutcome_watchLatch i waiter)
    unfold Loops.watchLatch
    split
    · rfl
    · split <;> rfl
  exact (first.trans (.ofLeads (.addCallback _ task _))).trans (watched _ _ _)

theorem release (race : Race) (l : Loops Body Value Value Gather) : Firm fires l (race.release l) := by
  have first : Firm fires l (l.removeWaiter race.task race.waiter) :=
    .ofLeads (.modifyFuture _ fun _ _ => ⟨rfl, fun _ => rfl, fun _ => rfl⟩)
  exact first.trans (.calm rfl (Loops.latchOutcome_modifyLatch _ race.signal _ (by intro; rfl)))

end Firm

/-! Sessions in which nothing uncalled-for has escaped. -/

/-- The text of the value that is written at the end of a run raises an error. -/
def Unwritten (c : Closing) (e : Value) (s s' : State) : Prop :=
  ∃ channel v last, c = .writing channel v last ∧ inWorld (displayText host v) s = (.error e, s')

/-- An error with which a run may end that is a task: an interrupt from the keyboard, or the error of the text
that it writes to the console. -/
def Excused (s : State) (f : FutureId) (e : Value) : Prop :=
  ∃ c, (f, c, .escaped e) ∈ s.ends ∧ (s.world.isKind e "KeyboardInterrupt" = true ∨
    (s.sink.isConsole = true ∧ ∃ t t', Unwritten c e t t'))

/-- Bodies of runs fail only by an interrupt from the keyboard, runs only as is allowed, and latches are
fired only with errors that runs report. -/
structure Sound (s : State) : Prop where
  sane : s.world.Sane
  bodies : ∀ f r e, s.world.loops.body? f = some (.contained r) → s.world.loops.outcome f = .failed e →
    s.world.isKind e "KeyboardInterrupt" = true
  jobs : ∀ f j e, s.world.loops.body? f = some (.job j) → s.world.loops.outcome f = .failed e → Excused s f e
  racing : ∀ f race last, s.world.loops.body? f = some (.job (.racing race last)) →
    ∃ r, s.world.loops.body? race.task = some (.contained r)
  latches : ∀ i e, s.world.loops.latchOutcome i = .failed e → s.world.isKind e "Exception" = true

/-- A change that keeps a session sound, everything of its kind, and bodies of runs in place. -/
structure Upholds (s s' : State) : Prop where
  sound : Sound s → Sound s'
  kinds : s.world.Firm s'.world
  kept : ∀ f r, s.world.loops.body? f = some (.contained r) →
    s'.world.loops.body? f = some (.contained r)
  console : s'.sink.isConsole = s.sink.isConsole

theorem Excused.upheld {s s' : State} {f : FutureId} {e : Value} (h : Excused s f e) (sane : s.world.Sane)
    (world : s.world.Firm s'.world) (console : s'.sink.isConsole = s.sink.isConsole) (ends : s.ends ⊆ s'.ends) :
    Excused s' f e := by
  obtain ⟨c, kept, excuse⟩ := h
  exact ⟨c, ends kept, excuse.imp (world.kinds sane special_keyboardInterrupt) fun h => ⟨console.trans h.1, h.2⟩⟩

theorem Upholds.ofFirm {s s' : State} {fires : Value → Prop} (world : s.world.Firm s'.world)
    (console : s'.sink.isConsole = s.sink.isConsole) (ends : s.ends ⊆ s'.ends)
    (loops : Firm fires s.world.loops s'.world.loops)
    (fired : ∀ e, fires e → s'.world.isKind e "Exception" = true) : Upholds s s' where
  kinds := world
  console := console
  kept := loops.kept
  sound h := by
    have pending {f : FutureId} {e : Value} (new : s'.world.loops.isDone f = false)
        (failed : s'.world.loops.outcome f = .failed e) : False := by
      rw [Loops.isDone, failed] at new
      cases new
    refine ⟨world.sane h.sane, fun f r e hb failed => ?_, fun f j e hb failed => ?_,
      fun f race last hb => ?_, fun i e failed => ?_⟩
    · rcases loops.body f _ hb with own | ⟨before, same⟩ | ⟨new, -⟩
      · exact own.elim
      · exact world.kinds h.sane special_keyboardInterrupt (h.bodies f r e before (same.symm.trans failed))
      · exact (pending new failed).elim
    · rcases loops.body f _ hb with own | ⟨before, same⟩ | ⟨new, -⟩
      · exact own.elim
      · exact (h.jobs f j e before (same.symm.trans failed)).upheld h.sane world console ends
      · exact (pending new failed).elim
    · rcases loops.body f _ hb with own | ⟨before, -⟩ | ⟨-, other⟩
      · exact own.elim
      · obtain ⟨r, hr⟩ := h.racing f race last before
        exact ⟨r, loops.kept _ r hr⟩
      · exact (other race last rfl).elim
    · rcases loops.latches i e failed with before | new
      · exact world.kinds h.sane special_exception (h.latches i e before)
      · exact fired e new

theorem Upholds.calm {s s' : State} (world : s.world.Firm s'.world)
    (console : s'.sink.isConsole = s.sink.isConsole) (ends : s.ends ⊆ s'.ends)
    (loops : Firm (fun _ => False) s.world.loops s'.world.loops) : Upholds s s' :=
  .ofFirm world console ends loops nofun

theorem Upholds.trans {s s' s'' : State} (h : Upholds s s') (h' : Upholds s' s'') : Upholds s s'' :=
  ⟨h'.sound ∘ h.sound, h.kinds.trans h'.kinds, fun f r hb => h'.kept f r (h.kept f r hb),
    h'.console.trans h.console⟩

theorem Upholds.withLoops {s : State} {l : Loops Body Value Value Gather} (h : Firm (fun _ => False) s.world.loops l) :
    Upholds s (s.withLoops l) := .calm (.ofHeap rfl) rfl (.refl _) h

theorem Upholds.inWorld {α : Type} (x : M α) (s : State) : Upholds s (inWorld x s).2 :=
  have quiet := Quiet.inWorld x s
  .calm (.ofLeads quiet.world) quiet.console (by rw [inWorld_ends]; exact .refl _) (.ofLeads (inWorld_loops x s))

theorem upholds_permits : Permits Upholds where
  refl s := .withLoops (.calm rfl fun _ => rfl)
  trans := .trans
  programs := .inWorld
  records s r r' sink := .calm (.ofHeap rfl) (by rw [sink]; rfl) (.refl _) (.calm rfl fun _ => rfl)
  notes s _ _ := .calm (.ofHeap rfl) rfl (.refl _) (.calm rfl fun _ => rfl)
  remembers s _ := .calm (.ofHeap rfl) rfl (List.subset_cons_self _ _) (.calm rfl fun _ => rfl)

theorem startRace_upholds (r : Ref) (last : Option String) : Follows Upholds (startRace r last) := by
  intro s
  have armed : Firm (fun _ => False) s.world.loops (s.controller.current s.world.loops).2.2 := by
    refine .calm ?_ (Loops.latchOutcome_current s.controller s.world.loops)
    unfold Controller.current
    dsimp only
    split
    · rfl
    · split <;> rfl
  have spawned (l : Loops Body Value Value Gather) :
      Firm (fun _ => False) l (l.spawn (some (.contained r))).2 := .spawn l nofun
  exact .calm (.ofHeap rfl) rfl (.refl _) ((armed.trans (spawned _)).trans (.raceBegin _ _ _))

theorem begin_upholds (src : String) : Follows Upholds (begin src) :=
  upholds_permits.bind
    (upholds_permits.prepare (fun _ _ _ _ => .calm (.ofHeap rfl) rfl (.refl _) (.calm rfl fun _ => rfl)) src)
    fun p => upholds_permits.start startRace_upholds p

theorem endRace_upholds (race : Race) (signal : Signal Value) (last : Option String) :
    Follows Upholds (endRace race signal last) := by
  intro s
  have released : Firm (fun _ => False) s.world.loops (race.release s.world.loops) := .release _ _
  have cancelled : Firm (fun _ => False) s.world.loops ((race.release s.world.loops).cancel race.task).2 :=
    released.trans (.ofLeads (.cancel _ _))
  have loops (ending : RaceEnd Value Value) {l : Loops Body Value Value Gather} (h : Firm (fun _ => False) s.world.loops l) :
      Upholds s (endBy last ending (s.withLoops l)).2 :=
    (Upholds.withLoops h).trans (upholds_permits.endBy last ending _)
  have abandoned := loops (race.abandon s.world.loops).1 cancelled
  cases signal with
  | go =>
    refine loops (race.decide s.world.loops).1 (l := (race.decide s.world.loops).2) ?_
    unfold Race.decide
    dsimp only
    split
    · exact released
    · exact released
    · exact released
    · split
      · exact cancelled
      · split <;> exact cancelled
  | cancelled => exact abandoned
  | failed e => exact abandoned

/-! Errors that are made. -/

theorem inWorldOr_ok {α : Type} {x : M α} {s : State} {a : α} {w : World} (default : α)
    (h : x.run s.world = .ok a w) : inWorldOr default x s = (a, { s with world := w }) := by
  unfold Session.inWorldOr Session.inWorld
  rw [bind_apply, h]
  rfl

theorem inWorldOr_isError (default : Bool) (exc : Value) (cls : String) (s : State) :
    inWorldOr default (isError exc cls) s = (s.world.isKind exc cls, s) :=
  inWorldOr_ok default (isError_run exc cls s.world)

theorem interruption_apply (s : State) : ∃ a w, s.world.Leads w ∧ s.world.Grows w ∧
    interruption s = (.ref w.heap.size,
      { s with world := w.push { cls := nativeRef "Interrupted", payload := .exception { args := [a] } } }) := by
  obtain ⟨a, w, message, grows⟩ := makes_ofDatum s.config.interruptMessage s.world
  have ran : (do newException "Interrupted" [← ofDatum s.config.interruptMessage] : M Value).run s.world
      = .ok (.ref w.heap.size) (w.push { cls := nativeRef "Interrupted", payload := .exception { args := [a] } }) :=
    (M.run_bind_ok message).trans rfl
  refine ⟨a, w, M.leads_of_ok message, grows, ?_⟩
  unfold interruption
  rw [bind_apply, get_apply]
  exact inWorldOr_ok .none ran

theorem interruption_kind {s : State} (sane : s.world.Sane) :
    (interruption s).2.world.isKind (interruption s).1 "Exception" = true := by
  obtain ⟨a, w, leads, -, all⟩ := interruption_apply s
  obtain ⟨v, w', made, kind⟩ := isKind_newException (nativeKinds ("Interrupted", "Exception") (by simp)) [a]
    (sane.leads leads)
  cases made
  rw [all]
  exact kind

theorem newError_kind {cls kind : String} (h : NativeKind cls kind) (message : String) {s : State}
    (sane : s.world.Sane) :
    (newError cls message s).2.world.isKind (newError cls message s).1 kind = true := by
  obtain ⟨v, w, made, kind⟩ := isKind_newException h [.str message] sane
  have all : newError cls message s = (v, { s with world := w }) := inWorldOr_ok .none made
  rw [all]
  exact kind

theorem interrupt_upholds : Follows Upholds interrupt := by
  intro s
  have made := upholds_permits.interruption s
  have kind := fun sane : s.world.Sane => interruption_kind sane
  unfold interrupt
  rw [bind_apply]
  generalize interruption s = out at made kind ⊢
  obtain ⟨exc, s₁⟩ := out
  let l := s₁.world.loops
  let l' := (s₁.controller.interrupt s₁.world.inLoop exc l).2
  have fired : Firm (· = exc) l l' :=
    .ofFutures (futures_interrupt s₁.controller s₁.world.inLoop exc l)
      fun _ _ failed => Loops.latchOutcome_interrupt s₁.controller s₁.world.inLoop exc l failed
  have world : s.world.Firm { s₁.world with loops := l' } := made.kinds.trans (.ofHeap rfl)
  refine ⟨fun sound => ?_, world, fun f r hb => fired.kept f r (made.kept f r hb), made.console⟩
  have all : Upholds s₁ { s₁ with
      controller := (s₁.controller.interrupt s₁.world.inLoop exc l).1
      world := { s₁.world with loops := l' } } :=
    .ofFirm (.ofHeap rfl) rfl (.refl _) fired fun e same => by
      rw [same]
      exact (World.Firm.ofHeap rfl).kinds (made.sound sound).sane special_exception (kind sound.sane)
  exact all.sound (made.sound sound)

/-! Ends of runs. -/

def Yields {α : Type} (x : S α) (P : α → State → Prop) : Prop := ∀ s, P (x s).1 (x s).2

namespace Yields

variable {α β : Type} {P : β → State → Prop}

theorem pure {b : β} (h : ∀ s, P b s) : Yields (pure b) P := h

theorem bind {x : S α} {f : α → S β} (h : ∀ a, Yields (f a) P) : Yields (x >>= f) P := fun _ => h _ _

theorem ite {c : Prop} [Decidable c] {x y : S β} (hx : Yields x P) (hy : Yields y P) :
    Yields (if c then x else y) P := by
  split
  · exact hx
  · exact hy

end Yields

/-- An end of a run with which nothing leaves it but an interrupt from the keyboard, unless what it writes has
no text. -/
inductive Held : Closing → State → Prop where
  | outcome (status : Status) (detail : Detail) (s : State) : Held (.atOnce (.outcome status detail)) s
  | interrupted {exc : Value} {s : State} (kind : s.world.isKind exc "KeyboardInterrupt" = true) :
      Held (.atOnce (.escaped exc)) s
  | writing (c : Channel) (v : Value) (status : Status) (detail : Detail) (s : State) :
      Held (.writing c v (.outcome status detail)) s

theorem held_success (s : State) : Held success s := .outcome _ _ s

theorem held_fail (status : Status) (exc : Value) (s : State) : Held (fail status exc) s := .writing _ _ _ _ s

theorem inWorld_bind_error {α β : Type} {x : M α} {f : α → M β} (returns : ∀ a, (f a).Returns) {s s' : State}
    {e : Value} (h : inWorld (x >>= f) s = (.error e, s')) : inWorld x s = (.error e, s') := by
  unfold inWorld at h ⊢
  cases ran : x.run s.world with
  | ok a w =>
    obtain ⟨b, w', next⟩ := returns a w
    rw [M.run_bind_ok ran, next] at h
    cases h
  | error stop w =>
    rw [M.run_bind_error ran] at h
    cases stop with
    | raised e' =>
      cases h
      rfl
    | exhausted =>
      cases h
      rfl

theorem write_error {c : Channel} {v : Value} {s s' : State} {e : Value} (h : write c v s = (.error e, s')) :
    s.sink.isConsole = true ∧ inWorld (displayText host v) s = (.error e, s') := by
  unfold write at h
  rw [bind_apply, get_apply] at h
  dsimp only at h
  cases sink : s.sink with
  | record r =>
    rw [sink] at h
    cases h
  | console =>
    rw [sink] at h
    dsimp only at h
    have text (out : String → M Unit) (returns : ∀ t, (out t).Returns)
        (h : inWorld (displayText host v >>= out) s = (.error e, s')) :
        inWorld (displayText host v) s = (.error e, s') := inWorld_bind_error returns h
    have outReturns (t : String) : (writeOut (t ++ "\n")).Returns := fun w => ⟨(), _, rfl⟩
    have errReturns (t : String) : (writeErr (t ++ "\n")).Returns := fun w => ⟨(), _, rfl⟩
    refine ⟨rfl, ?_⟩
    cases c with
    | result => exact text _ outReturns h
    | error =>
      cases v with
      | str t => cases h
      | _ => exact text _ errReturns h

theorem conclude_escaped {c : Closing} {s s' : State} {e : Value} (held : Held c s)
    (ran : c.conclude s = (.escaped e, s')) :
    s'.world.isKind e "KeyboardInterrupt" = true ∨ (s.sink.isConsole = true ∧ Unwritten c e s s') := by
  cases held with
  | outcome => cases ran
  | interrupted kind =>
    cases ran
    exact .inl kind
  | writing channel v status detail =>
    unfold Closing.conclude at ran
    dsimp only at ran
    rw [bind_apply] at ran
    cases written : write channel v s with
    | mk r s₁ =>
      rw [written] at ran
      cases r with
      | ok _ => cases ran
      | error e' =>
        cases ran
        obtain ⟨console, text⟩ := write_error written
        exact .inr ⟨console, channel, v, _, rfl, text⟩

theorem finish_held (last : Option String) : Yields (finish last) Held := by
  cases last with
  | none => exact .pure held_success
  | some name =>
    refine .bind fun e => ?_
    split
    · exact .pure held_success
    next v _ =>
      exact .bind fun _ => .ite (.pure held_success) (.pure (.writing _ _ _ _))

def Prepared.Held (p : Prepared) (s : State) : Prop := ∀ c, p = .ended c → Session.Held c s

theorem Prepared.Held.ofEnd {c : Closing} {s : State} (h : Session.Held c s) : Prepared.Held (.ended c) s := by
  rintro c' ⟨⟩
  exact h

theorem registered_held (result : Except Trouble (List Diagnostic)) :
    Yields (registered result) Prepared.Held := by
  cases result with
  | error t => exact .bind fun exc => .pure fun s => .ofEnd (held_fail _ _ s)
  | ok ds =>
    refine .bind fun r => ?_
    cases r with
    | error e => exact .pure fun s => .ofEnd (held_fail _ _ s)
    | ok _ => exact .pure fun s => .ofEnd (held_success s)

theorem body_held (c : Compiled) (s : State) : Prepared.Held (.body c) s := by
  intro e same
  cases same

theorem proceed_held (c : Compiled) : Yields (proceed c) Prepared.Held := by
  refine .ite (.bind fun r => ?_) (.ite (.bind fun _ => .pure fun s => .ofEnd (held_success s)) (.pure (body_held c)))
  cases r with
  | error e => exact .pure fun s => .ofEnd (held_fail _ _ s)
  | ok _ => exact .pure fun s => .ofEnd (.outcome _ _ s)

theorem prepare_held (src : String) : Yields (prepare src) Prepared.Held := by
  unfold prepare
  dsimp only
  split
  · exact .bind fun _ => .bind fun _ => registered_held _
  · exact .pure fun s => .ofEnd (held_success s)
  · refine .bind fun _ => .bind fun _ => ?_
    unfold takeOver
    split
    · exact .bind fun exc => .pure fun s => .ofEnd (held_fail _ _ s)
    · exact .bind fun _ => proceed_held _

/-- How far a run gets: nothing leaves it that is not allowed, and what is raced is the body of a run. -/
structure Begun.Held (b : Begun) (s : State) : Prop where
  ended : ∀ c, b = .ended c → Session.Held c s
  racing : ∀ race last, b = .racing race last → ∃ r, s.world.loops.body? race.task = some (.contained r)

theorem Begun.Held.ofEnd {c : Closing} {s : State} (h : Session.Held c s) : Begun.Held (.ended c) s where
  ended c' same := by
    cases same
    exact h
  racing := nofun

theorem startRace_held (r : Ref) (last : Option String) : Yields (startRace r last) Begun.Held := by
  intro s
  refine ⟨nofun, fun race last' same => ⟨r, ?_⟩⟩
  cases same
  let l := (s.controller.current s.world.loops).2.2
  have new : (l.spawn (some (.contained r))).2.body? l.futures.size = some (.contained r) := by
    rw [Loops.body?, l.future?_spawn (some (.contained r)), if_pos rfl]
    rfl
  have began : (l.spawn (some (.contained r))).2.Turned (fun _ => False) 0
      (Race.begin l.futures.size (s.controller.current s.world.loops).2.1
        (l.spawn (some (.contained r))).2).2.2 := turned_raceBegin _ _ _
  exact began.kept _ _ new

theorem start_held (p : Prepared) {s : State} (h : p.Held s) : Begun.Held (start p s).1 (start p s).2 := by
  cases p with
  | ended e => exact .ofEnd (h e rfl)
  | body c =>
    have done : Yields (do return .ended (← finish c.lastBinding) : S Begun) Begun.Held :=
      fun s => .ofEnd (finish_held c.lastBinding s)
    change Begun.Held (start (.body c) s).1 (start (.body c) s).2
    unfold start
    dsimp only
    rw [bind_apply]
    generalize runRealm c s = out
    obtain ⟨result, s₁⟩ := out
    cases result with
    | error exc =>
      dsimp only
      rw [bind_apply, inWorldOr_isError]
      dsimp only
      cases kind : s₁.world.isKind exc "KeyboardInterrupt" with
      | true => exact .ofEnd (.interrupted kind)
      | false => exact .ofEnd (held_fail .fault exc s₁)
    | ok v =>
      dsimp only
      generalize c.hasTopLevelAwait = mayWait
      cases mayWait with
      | false => exact done s₁
      | true =>
        cases v with
        | ref r => exact startRace_held r _ s₁
        | _ => exact done s₁

theorem begin_held (src : String) : Yields (begin src) Begun.Held :=
  fun s => start_held _ (prepare_held src s)

/-! Ends of races. -/

theorem failRace_held {exc : Value} {s : State}
    (kind : s.world.isKind exc "Exception" = true ∨ s.world.isKind exc "KeyboardInterrupt" = true) :
    Held (failRace exc s).1 (failRace exc s).2 := by
  unfold failRace
  rw [bind_apply, inWorldOr_isError]
  dsimp only
  cases exception : s.world.isKind exc "Exception" with
  | false => exact .interrupted (kind.resolve_left (Bool.eq_false_iff.mp exception))
  | true =>
    rw [if_neg (by simp), bind_apply, inWorldOr_isError]
    exact held_fail _ exc s

theorem endBy_held {s : State} (sane : s.world.Sane) (last : Option String) {ending : RaceEnd Value Value}
    (goes : ending ≠ .cancelled)
    (kind : ∀ exc, ending = .failed exc →
      s.world.isKind exc "Exception" = true ∨ s.world.isKind exc "KeyboardInterrupt" = true) :
    Held (endBy last ending s).1 (endBy last ending s).2 := by
  unfold endBy
  split
  next => exact finish_held last s
  next exc _ => exact held_fail .rejected exc s
  next exc => exact failRace_held (kind exc rfl)
  next => exact failRace_held (.inl (newError_kind (nativeKinds ("CellError", "Exception") (by simp)) _ sane))
  next => exact failRace_held (.inl (interruption_kind sane))
  next => exact absurd rfl goes
  next => exact failRace_held (.inl (newError_kind (nativeKinds ("RecursionError", "Exception") (by simp)) _ sane))

theorem endRace_held {race : Race} {r : Ref} {s : State} (sound : Sound s)
    (body : s.world.loops.body? race.task = some (.contained r)) (last : Option String) :
    Held (endRace race .go last s).1 (endRace race .go last s).2 := by
  let l := s.world.loops
  let l' := race.release l
  have released : Firm (fun _ => False) l l' := .release race l
  have outcome : l'.outcome race.task = l.outcome race.task := by
    have first : l.Leads (fun _ => True) (l.removeWaiter race.task race.waiter) :=
      .modifyFuture _ fun _ _ => ⟨rfl, fun _ => rfl, fun _ => rfl⟩
    exact (Loops.Turned.ofLeads (f := race.task + 1) first).task _ _ (Nat.succ_ne_self _).symm body
  have latches (i : LatchId) : (l'.cancel race.task).2.latchOutcome i = l.latchOutcome i := by
    have cancelled : l'.Leads (fun _ => True) (l'.cancel race.task).2 := .cancel l' race.task
    exact (Loops.latchOutcome_of_latches cancelled.latches i).trans (Loops.latchOutcome_release race l i)
  have ends {ending : RaceEnd Value Value} (l : Loops Body Value Value Gather) (goes : ending ≠ .cancelled)
      (kind : ∀ exc, ending = .failed exc →
        s.world.isKind exc "Exception" = true ∨ s.world.isKind exc "KeyboardInterrupt" = true) :
      Held (endBy last ending (s.withLoops l)).1 (endBy last ending (s.withLoops l)).2 :=
    endBy_held (s := s.withLoops l) ⟨sound.sane.native, sound.sane.size⟩ last goes kind
  change Held (endBy last (race.decide l).1 (s.withLoops (race.decide l).2)).1
    (endBy last (race.decide l).1 (s.withLoops (race.decide l).2)).2
  unfold Race.decide
  dsimp only
  split
  next => exact ends _ nofun nofun
  next e failed =>
    refine ends _ nofun fun exc same => .inr ?_
    cases same
    exact sound.bodies _ r e body (outcome.symm.trans failed)
  next => exact ends _ nofun nofun
  next =>
    split
    next => exact ends _ nofun nofun
    next =>
      split
      next e fired =>
        refine ends _ nofun fun exc same => .inl ?_
        cases same
        exact sound.latches _ e ((latches _).symm.trans fired)
      next => exact ends _ nofun nofun

/-! Turns. -/

/-- A turn of a task keeps a session sound, if the body of a run fails in it only by an interrupt from the
keyboard, and a run only as is allowed. -/
theorem Upholds.turn {s : State} {f : FutureId} {body : Body} {t : Turn Body Value Value}
    (here : s.world.loops.body? f = some body) (pending : s.world.loops.isDone f = false)
    (goes : ∀ b, t.body? = some b → b = body ∨ ∃ j race last r, body = .job j ∧
      b = .job (.racing race last) ∧ s.world.loops.body? race.task = some (.contained r))
    (contained : ∀ r e, body = .contained r → t = .raises e ∨ t = .leaves e →
      s.world.isKind e "KeyboardInterrupt" = true)
    (job : ∀ j e, body = .job j → t = .raises e ∨ t = .leaves e → Excused s f e) :
    Upholds s (s.withLoops ({ s.world.loops with running := none }.afterTurn f t)) := by
  have ends : Loops.TurnEnds f t s.world.loops ({ s.world.loops with running := none }.afterTurn f t) := by
    have all := Loops.TurnEnds.afterTurn (l := { s.world.loops with running := none }) here pending t
    exact ⟨all.body, all.kept, all.outcome, all.failed, all.latches⟩
  generalize { s.world.loops with running := none }.afterTurn f t = l' at ends ⊢
  have finished {e : Value} (failed : l'.outcome f = .failed e) : t.body? = none := by
    rcases ends.failed e failed with rfl | rfl <;> rfl
  have kept (k : FutureId) (r : Ref) (hb : s.world.loops.body? k = some (.contained r)) :
      l'.body? k = some (.contained r) := by
    rcases ends.kept k _ hb with still | ⟨b, rfl, went, now⟩
    · exact still
    · obtain rfl := Option.some.inj (here.symm.trans hb)
      rcases goes b went with rfl | ⟨j, race, last, r', own, -⟩
      · exact now
      · cases own
  refine ⟨fun h => ⟨⟨h.sane.native, h.sane.size⟩, fun k r e hb failed => ?_, fun k j e hb failed => ?_,
    fun k race last hb => ?_, fun i e failed => ?_⟩, .ofHeap rfl, kept, rfl⟩
  · rcases ends.body k _ hb with before | ⟨rfl, went⟩
    · by_cases same : k = f
      · subst same
        exact contained r e (Option.some.inj (here.symm.trans before)) (ends.failed e failed)
      · exact h.bodies k r e before ((ends.outcome k _ same before).symm.trans failed)
    · cases (finished failed).symm.trans went
  · rcases ends.body k _ hb with before | ⟨rfl, went⟩
    · by_cases same : k = f
      · subst same
        exact job j e (Option.some.inj (here.symm.trans before)) (ends.failed e failed)
      · exact h.jobs k j e before ((ends.outcome k _ same before).symm.trans failed)
    · cases (finished failed).symm.trans went
  · rcases ends.body k _ hb with before | ⟨rfl, went⟩
    · obtain ⟨r, hr⟩ := h.racing k race last before
      exact ⟨r, kept _ r hr⟩
    · rcases goes _ went with same | ⟨j, race', last', r, -, same, hr⟩
      · obtain ⟨r, hr⟩ := h.racing k race last (same ▸ here)
        exact ⟨r, kept _ r hr⟩
      · cases same
        exact ⟨r, kept _ r hr⟩
  · exact h.latches i e ((Loops.latchOutcome_of_latches ends.latches i).symm.trans failed)

theorem jobTurn_follows {R : State → State → Prop} (p : Permits R) (begins : ∀ src, Follows R (begin src))
    (ends : ∀ race signal last, Follows R (endRace race signal last)) (f : FutureId) (j : Job)
    (signal : Signal Value) : Follows R (jobTurn f j signal) := by
  unfold jobTurn
  split
  · exact p.bind (begins _) fun b => p.jobBegun f b
  · exact p.pure _
  · exact p.bind (ends _ _ _) fun e => p.jobOver f e

theorem resume_follows {R : State → State → Prop} (p : Permits R) (begins : ∀ src, Follows R (begin src))
    (ends : ∀ race signal last, Follows R (endRace race signal last)) (f : FutureId) (body : Body)
    (signal : Signal Value) : Follows R (resume f body signal) := by
  cases body with
  | job j => exact jobTurn_follows p begins ends f j signal
  | coroutine r => exact p.inWorldOr _ _
  | contained r => exact p.inWorldOr _ _

/-- A run that something leaves: its task is cancelled, leaves the event loop or fails, by the kind of the
error. -/
theorem turnOf_escaped (exc : Value) (s : State) :
    turnOf (.escaped exc) s = (if s.world.isKind exc "CancelledError" then .cancelled
      else if s.world.isKind exc "KeyboardInterrupt" || s.world.isKind exc "SystemExit" then .leaves exc
      else .raises exc, s) := by
  unfold turnOf
  dsimp only
  rw [bind_apply, inWorldOr_isError]
  dsimp only
  split
  · rfl
  · rw [bind_apply, inWorldOr_isError]
    dsimp only
    rw [bind_apply, inWorldOr_isError]
    dsimp only
    split <;> rfl

def Abandoned (c : Closing) (s : State) : Prop :=
  ∃ exc, c = .atOnce (.escaped exc) ∧ s.world.isKind exc "CancelledError" = true

theorem jobOver_fails {f : FutureId} {c : Closing} {s : State} (h : Held c s ∨ Abandoned c s) (exc : Value)
    (fails : (jobOver f c s).1 = .raises exc ∨ (jobOver f c s).1 = .leaves exc) :
    Excused (jobOver f c s).2 f exc := by
  rw [jobOver_apply] at fails ⊢
  have console := (Quiet.permits.conclude c s).console
  cases concluded : c.conclude s with
  | mk e s₁ =>
    rw [concluded] at fails console
    dsimp only at fails console ⊢
    cases e with
    | outcome status detail => rcases fails with fails | fails <;> cases fails
    | escaped exc' =>
      rw [turnOf_escaped] at fails ⊢
      dsimp only at fails ⊢
      have same (cls : String) :
          (s₁.remembering f c (.escaped exc')).world.isKind exc' cls = s₁.world.isKind exc' cls := rfl
      rw [same, same, same] at fails
      cases cancelled : s₁.world.isKind exc' "CancelledError" with
      | true =>
        rw [cancelled] at fails
        rcases fails with fails | fails <;> cases fails
      | false =>
        have held : Held c s := by
          rcases h with held | ⟨exc, rfl, kind⟩
          · exact held
          · cases concluded
            cases cancelled.symm.trans kind
        have excuse := conclude_escaped held concluded
        obtain rfl : exc' = exc := by
          rw [cancelled, if_neg Bool.false_ne_true] at fails
          split at fails <;> rcases fails with fails | fails <;> cases fails <;> rfl
        exact ⟨c, List.mem_cons_self, excuse.imp_right fun h => ⟨console.trans h.1, s, s₁, h.2⟩⟩

structure JobTurns (f : FutureId) (out : Turn Body Value Value × State) : Prop where
  goes : ∀ b, out.1.body? = some b → ∃ race last r, b = .job (.racing race last) ∧
    out.2.world.loops.body? race.task = some (.contained r)
  fails : ∀ exc, out.1 = .raises exc ∨ out.1 = .leaves exc → Excused out.2 f exc

theorem JobTurns.finished {f : FutureId} {c : Closing} {s : State} (h : Held c s ∨ Abandoned c s) :
    JobTurns f (jobOver f c s) where
  goes b goes := by cases (jobOver_ends f c s).finished.symm.trans goes
  fails := jobOver_fails h

theorem abandoned_held {s : State} (sane : s.world.Sane) (race : Race) {signal : Signal Value}
    (stopped : signal ≠ .go) (last : Option String) :
    Held (endRace race signal last s).1 (endRace race signal last s).2 ∨
      Abandoned (endRace race signal last s).1 (endRace race signal last s).2 := by
  let s₁ := s.withLoops (race.abandon s.world.loops).2
  have sane₁ : s₁.world.Sane := ⟨sane.native, sane.size⟩
  have same : endRace race signal last s = endBy last (race.abandon s.world.loops).1 s₁ := by
    cases signal with
    | go => exact absurd rfl stopped
    | cancelled => rfl
    | failed e => rfl
  rw [same]
  unfold Race.abandon
  dsimp only
  split
  next => exact .inl (endBy_held sane₁ last nofun nofun)
  refine .inr ?_
  obtain ⟨v, w, made, kind⟩ := isKind_newException (nativeKinds ("CancelledError", "CancelledError") (by simp)) [] sane₁
  have all : endBy last .cancelled s₁ = (.atOnce (.escaped v), { s₁ with world := w }) := by
    change (do return .atOnce (.escaped (← inWorldOr .none (newException "CancelledError" []))) : S Closing) s₁ = _
    rw [bind_apply, inWorldOr_ok .none made]
    rfl
  rw [all]
  exact ⟨v, rfl, kind⟩

theorem jobTurn_turns {s : State} (sound : Sound s) {f : FutureId} {j : Job}
    (here : s.world.loops.body? f = some (.job j)) (signal : Signal Value) :
    JobTurns f (jobTurn f j signal s) := by
  cases j with
  | start src =>
    cases signal with
    | go =>
      have held := begin_held src s
      rw [jobTurn_start]
      generalize begin src s = out at held ⊢
      obtain ⟨b, s₁⟩ := out
      cases b with
      | ended c => exact .finished (.inl (held.ended c rfl))
      | racing race last =>
        obtain ⟨r, hr⟩ := held.racing race last rfl
        refine ⟨fun b goes => ⟨race, last, r, ?_, hr⟩, fun exc fails => ?_⟩
        · cases goes
          rfl
        · rcases fails with fails | fails <;> cases fails
    | cancelled => exact ⟨nofun, fun exc fails => by rcases fails with fails | fails <;> cases fails⟩
    | failed e => exact ⟨nofun, fun exc fails => by rcases fails with fails | fails <;> cases fails⟩
  | racing race last =>
    obtain ⟨r, body⟩ := sound.racing f race last here
    rw [jobTurn_racing]
    refine .finished ?_
    by_cases go : signal = .go
    · rw [go]
      exact .inl (endRace_held sound body last)
    · exact abandoned_held sound.sane race go last

theorem stepped_upholds {s s' : State} {halt : Option (Halt Value)} (h : Stepped s halt s')
    (sound : Sound s) : Upholds s s' := by
  cases h with
  | aside leads => exact .withLoops (.ofLeads leads)
  | outside leads _ _ => exact .withLoops (.ofLeads leads)
  | act g f => exact upholds_permits.inWorldOr _ _ s
  | @turn l f body signal leads pending here =>
    let s₁ := s.withLoops l
    have first : Upholds s s₁ := .withLoops (.ofLeads leads)
    have second := resume_follows upholds_permits begin_upholds endRace_upholds f body signal s₁
    have endless := resume_follows endless_permits endless_begin endless_endRace f body signal s₁
    have contained (r : Ref) (e : Value) (same : body = .contained r)
        (fails : (resume f body signal s₁).1 = .raises e ∨ (resume f body signal s₁).1 = .leaves e) :
        (resume f body signal s₁).2.world.isKind e "KeyboardInterrupt" = true := by
      subst same
      exact inWorldOr_gives FailsByInterrupt.cancelled (containedTurn_fails host r (.contained r) signal) s₁
        e fails
    have job (j : Job) (same : body = .job j) : JobTurns f (resume f body signal s₁) := by
      subst same
      exact jobTurn_turns (first.sound sound) here signal
    have goes (b : Body) (went : (resume f body signal s₁).1.body? = some b) : b = body ∨
        ∃ j race last r, body = .job j ∧ b = .job (.racing race last) ∧
          (resume f body signal s₁).2.world.loops.body? race.task = some (.contained r) := by
      cases body with
      | job j =>
        obtain ⟨race, last, r, same, hr⟩ := (job j rfl).goes b went
        exact .inr ⟨j, race, last, r, rfl, same, hr⟩
      | coroutine r =>
        have own : ∀ j, Body.coroutine r ≠ .job j := nofun
        exact .inl ((resume_program f signal s₁ own).2.2 b went)
      | contained r =>
        have own : ∀ j, Body.contained r ≠ .job j := nofun
        exact .inl ((resume_program f signal s₁ own).2.2 b went)
    generalize resume f body signal s₁ = out at second endless contained job goes ⊢
    obtain ⟨t, s₂⟩ := out
    have still : s₂.world.loops.isDone f = false := by
      rw [Loops.isDone, (endless (f + 1)).task f body (Nat.succ_ne_self f).symm here]
      exact pending
    exact (first.trans second).trans (.turn ((endless 0).kept f body here) still goes contained
      fun j e same fails => (job j same).fails e fails)

theorem runs_sound (s₀ : State) : Runs fun s => Upholds s₀ s ∧ Sound s where
  leads leads h := by
    have step := Upholds.withLoops (Firm.ofLeads leads)
    exact ⟨h.1.trans step, step.sound h.2⟩
  step stepped h := by
    have step := stepped_upholds stepped h.2
    exact ⟨h.1.trans step, step.sound h.2⟩

/-! Histories. -/

theorem start_world (places : Path.Places) (config : Config) (files : Files) (isConsole : Bool)
    (realm : String) : ∃ cache, (World.start cache).Leads (State.start places config files isConsole realm).world := by
  refine ⟨{ places, rootDir := config.root, extension := config.extension, selfName := selfNameOf config }, ?_⟩
  let setUp : M (Ref × Realm × Value) := do
    let exports ← alloc { cls := nativeRef "ExportNamespace", payload := .exports {} }
    return (exports, ← Realm.start realm, ← newLoader config.root)
  exact setUp.leads _

theorem start_sound (places : Path.Places) (config : Config) (files : Files) (isConsole : Bool)
    (realm : String) : Sound (State.start places config files isConsole realm) := by
  have loops : (State.start places config files isConsole realm).world.loops = {} := rfl
  obtain ⟨cache, leads⟩ := start_world places config files isConsole realm
  have nobody (f : FutureId) : ({} : Loops Body Value Value Gather).body? f = none := rfl
  refine ⟨(World.Sane.start cache).leads leads, fun f r e hb => ?_, fun f j e hb => ?_,
    fun f race last hb => ?_, fun i e failed => ?_⟩
  · cases (nobody f).symm.trans (loops ▸ hb)
  · cases (nobody f).symm.trans (loops ▸ hb)
  · cases (nobody f).symm.trans (loops ▸ hb)
  · rw [loops] at failed
    cases failed

theorem open_upholds {s : State} (sound : Sound s) : Upholds s (open_ s).2 := by
  let l := (s.world.loops.spawn none).2
  let s₁ : State := { s with world := { s.world with loops := l, inLoop := true } }
  have spawned : Firm (fun _ => False) s.world.loops l := .spawn _ nofun
  have first : Upholds s s₁ := .calm (.ofHeap rfl) rfl (.refl _) spawned
  exact ((runs_sound s).advance fuel ⟨first, first.sound sound⟩).1

theorem closing_upholds (main : FutureId) (src : String) {s : State} (sound : Sound s) :
    Upholds s (closing main src s).2 := by
  have first := begin_upholds src s
  unfold closing
  rw [bind_apply]
  generalize begin src s = out at first ⊢
  obtain ⟨b, s₁⟩ := out
  cases b with
  | ended c => exact first
  | racing race last =>
    have waited := (runs_sound s).wait main (.waiter race.waiter) ⟨first, first.sound sound⟩
    dsimp only at waited ⊢
    rw [bind_apply]
    generalize runner.wait main (.waiter race.waiter) fuel s₁ = out at waited ⊢
    obtain ⟨halt, s₂⟩ := out
    cases halt with
    | outside f signal => exact waited.1.trans (endRace_upholds race signal last s₂)
    | left e => exact waited.1
    | idle => exact waited.1
    | exhausted => exact waited.1

theorem run_upholds (main : FutureId) (src : String) {s : State} (sound : Sound s) :
    Upholds s (run main src s).2 := by
  have first := closing_upholds main src sound
  unfold run
  rw [bind_apply]
  generalize closing main src s = out at first ⊢
  obtain ⟨back, s₁⟩ := out
  cases back with
  | ok c => exact first.trans (upholds_permits.conclude c s₁)
  | left e => exact first
  | stuck => exact first

theorem settle_upholds (main : FutureId) {until_ : S Bool} (asks : Follows Upholds until_) (n : Nat)
    {s : State} (sound : Sound s) : Upholds s (settle main until_ n s).2 := by
  have start : Upholds s s := upholds_permits.refl s
  refine ((runs_sound s).settle main (fun s' h => ?_) n ⟨start, sound⟩).1
  exact ⟨h.1.trans (asks s'), (asks s').sound h.2⟩

theorem spawnJob_upholds (src : String) : Follows Upholds (spawnJob src) := by
  intro s
  have spawned : Firm (fun _ => False) s.world.loops (s.world.loops.spawn (some (.job (.start src)))).2 :=
    .spawn _ nofun
  exact .withLoops spawned

theorem runInterrupted_upholds (main : FutureId) (src : String) (turns : Nat) {s : State} (sound : Sound s) :
    Upholds s (runInterrupted main src turns s).2 := by
  have spawned := spawnJob_upholds src s
  unfold runInterrupted
  rw [bind_apply]
  generalize spawnJob src s = out at spawned ⊢
  obtain ⟨task, s₁⟩ := out
  have settled := settle_upholds main (upholds_permits.pure false) turns (spawned.sound sound)
  dsimp only at spawned settled ⊢
  rw [bind_apply]
  generalize settle main (pure false) turns s₁ = out at settled ⊢
  obtain ⟨back, s₂⟩ := out
  have first := spawned.trans settled
  cases back with
  | left e => exact first
  | stuck => exact first
  | ok _ =>
    have second := first.trans (interrupt_upholds s₂)
    dsimp only at second ⊢
    rw [bind_apply]
    generalize interrupt s₂ = out at second ⊢
    obtain ⟨_, s₃⟩ := out
    have third := second.trans (settle_upholds main (upholds_permits.isOver task) 50 (second.sound sound))
    dsimp only at third ⊢
    rw [bind_apply]
    generalize settle main (isOver task) 50 s₃ = out at third ⊢
    obtain ⟨back, s₄⟩ := out
    cases back with
    | left e => exact third
    | stuck => exact third
    | ok _ => exact third.trans (upholds_permits.endOfJob task s₄)

theorem perform_upholds (main : FutureId) (op : Op) {s : State} (sound : Sound s) :
    Upholds s (op.perform main s) := by
  cases op with
  | write path bytes => exact .calm (.ofHeap rfl) rfl (.refl _) (.calm rfl fun _ => rfl)
  | delete path => exact .calm (.ofHeap rfl) rfl (.refl _) (.calm rfl fun _ => rfl)
  | run src => exact run_upholds main src sound
  | runInterrupted src turns => exact runInterrupted_upholds main src turns sound
  | settle turns => exact settle_upholds main (upholds_permits.pure false) turns sound
  | interrupt => exact interrupt_upholds s
  | reset => exact upholds_permits.reset s
  | close => exact .calm (.ofHeap rfl) rfl (.refl _) (.calm rfl fun _ => rfl)
  | execute x => exact .inWorld x s

theorem after_upholds (main : FutureId) (ops : List Op) {s : State} (sound : Sound s) :
    Upholds s (s.after main ops) := by
  induction ops generalizing s with
  | nil => exact upholds_permits.refl s
  | cons op ops ih =>
    have first := perform_upholds main op sound
    exact first.trans (ih (first.sound sound))

/-- The task that runs a cell is resumed with a request to cancel it. -/
def Stopped (main : FutureId) (src : String) (s : State) : Prop :=
  ∃ race last s₁ f signal s₂, begin src s = (.racing race last, s₁) ∧
    runner.wait main (.waiter race.waiter) fuel s₁ = (.outside f signal, s₂) ∧ signal ≠ .go

theorem closing_held {main : FutureId} {src : String} {s s' : State} {c : Closing} (sound : Sound s)
    (ran : closing main src s = (.ok c, s')) : Held c s' ∨ (Abandoned c s' ∧ Stopped main src s) := by
  have held := begin_held src s
  have first := begin_upholds src s
  unfold closing at ran
  rw [bind_apply] at ran
  cases began : begin src s with
  | mk b s₁ =>
    rw [began] at ran held first
    cases b with
    | ended c' =>
      cases ran
      exact .inl (held.ended _ rfl)
    | racing race last =>
      obtain ⟨r, body⟩ := held.racing race last rfl
      have start : Upholds s₁ s₁ := upholds_permits.refl s₁
      obtain ⟨waited, sound₂⟩ :=
        (runs_sound s₁).wait main (.waiter race.waiter) ⟨start, first.sound sound⟩
      dsimp only at ran
      rw [bind_apply] at ran
      cases waiting : runner.wait main (.waiter race.waiter) fuel s₁ with
      | mk halt s₂ =>
        rw [waiting] at ran waited sound₂
        cases halt with
        | outside f signal =>
          cases ran
          by_cases go : signal = .go
          · subst go
            exact .inl (endRace_held sound₂ (waited.kept _ r body) last)
          · exact (abandoned_held sound₂.sane race go last).imp_right fun cancelled =>
              ⟨cancelled, race, last, s₁, f, signal, s₂, began, waiting, go⟩
        | left e => cases ran
        | idle => cases ran
        | exhausted => cases ran

theorem run_escapes {main : FutureId} {src : String} {s s' : State} {e : Value} (sound : Sound s)
    (ran : run main src s = (.ok (.escaped e), s')) :
    s'.world.isKind e "KeyboardInterrupt" = true ∨
      (s'.sink.isConsole = true ∧ ∃ c t, closing main src s = (.ok c, t) ∧ Unwritten c e t s') ∨
      (s'.world.isKind e "CancelledError" = true ∧ Stopped main src s) := by
  unfold run at ran
  rw [bind_apply] at ran
  cases closed : closing main src s with
  | mk back s₁ =>
    rw [closed] at ran
    cases back with
    | ok c =>
      have held := closing_held sound closed
      have concluded : c.conclude s₁ = (.escaped e, s') := by
        dsimp only at ran
        rw [bind_apply, pure_apply] at ran
        generalize c.conclude s₁ = out at ran ⊢
        obtain ⟨end_, s₂⟩ := out
        cases ran
        rfl
      have console := (Quiet.permits.conclude c s₁).console
      rw [concluded] at console
      rcases held with held | ⟨⟨exc, rfl, kind⟩, stopped⟩
      · rcases conclude_escaped held concluded with interrupt | ⟨here, unwritten⟩
        · exact .inl interrupt
        · exact .inr (.inl ⟨console.trans here, c, s₁, rfl, unwritten⟩)
      · cases concluded
        exact .inr (.inr ⟨kind, stopped⟩)
    | left e => cases ran
    | stuck => cases ran

/-! Errors that leave the event loop. -/

theorem jobOver_leaves (f : FutureId) (c : Closing) (s : State) :
    LeavesOnly (jobOver f c s).1 (jobOver f c s).2.world := by
  intro exc leaves
  rw [jobOver_apply] at leaves ⊢
  generalize (c.conclude s).2.remembering f c (c.conclude s).1 = s₁ at leaves ⊢
  generalize (c.conclude s).1 = e at leaves ⊢
  cases e with
  | outcome status detail => cases leaves
  | escaped exc' =>
    rw [turnOf_escaped] at leaves ⊢
    dsimp only at leaves ⊢
    split at leaves
    · cases leaves
    · split at leaves
      next kinds =>
        cases leaves
        exact Bool.or_eq_true_iff.mp kinds
      next => cases leaves

theorem resume_leaves (f : FutureId) (body : Body) (signal : Signal Value) (s : State) :
    LeavesOnly (resume f body signal s).1 (resume f body signal s).2.world := by
  cases body with
  | coroutine r =>
    exact inWorldOr_gives (fun _ => nofun) (coroutineTurn_leaves host r (.coroutine r) signal) s
  | contained r =>
    have fails := inWorldOr_gives FailsByInterrupt.cancelled
      (containedTurn_fails host r (.contained r) signal) s
    exact fun e leaves => .inl (fails e (.inr leaves))
  | job j =>
    cases j with
    | start src =>
      cases signal with
      | go =>
        rw [resume, jobTurn_start]
        generalize begin src s = out
        obtain ⟨b, s₁⟩ := out
        cases b with
        | ended c => exact jobOver_leaves f c s₁
        | racing race last => exact nofun
      | cancelled => exact nofun
      | failed e => exact nofun
    | racing race last =>
      rw [resume, jobTurn_racing]
      exact jobOver_leaves _ _ _

theorem stepped_left {s s' : State} {e : Value} (h : Stepped s (some (.left e)) s') :
    s'.world.isKind e "KeyboardInterrupt" = true ∨ s'.world.isKind e "SystemExit" = true := by
  generalize halted : some (Halt.left e) = halt at h
  cases h with
  | aside leads => cases halted
  | outside leads f signal => cases halted
  | act g f => cases halted
  | @turn l f body signal leads pending here =>
    have leaves := resume_leaves f body signal (s.withLoops l)
    generalize resume f body signal (s.withLoops l) = out at leaves halted ⊢
    obtain ⟨t, s₁⟩ := out
    cases t with
    | leaves e' =>
      cases halted
      exact leaves e rfl
    | _ => cases halted

theorem advance_left (fuel : Nat) {s s' : State} {e : Value} (ran : runner.advance fuel s = (.left e, s')) :
    s'.world.isKind e "KeyboardInterrupt" = true ∨ s'.world.isKind e "SystemExit" = true := by
  induction fuel generalizing s with
  | zero => cases ran
  | succ fuel ih =>
    rw [advance_succ] at ran
    cases next : s.world.loops.take? with
    | none =>
      rw [next] at ran
      cases ran
    | some entry =>
      obtain ⟨h, l⟩ := entry
      have step := stepped h (s.withLoops l)
      rw [next] at ran
      dsimp only at ran
      generalize runner.run h (s.withLoops l) = out at ran step
      obtain ⟨halt, s₁⟩ := out
      cases halt with
      | none => exact ih ran
      | some halt =>
        cases ran
        exact stepped_left step

/-- The run of a cell does not come back when an error of another task leaves the event loop. -/
theorem run_left {main : FutureId} {src : String} {s s' : State} {e : Value}
    (ran : run main src s = (.left e, s')) :
    s'.world.isKind e "KeyboardInterrupt" = true ∨ s'.world.isKind e "SystemExit" = true := by
  unfold run closing at ran
  rw [bind_apply, bind_apply] at ran
  generalize begin src s = out at ran
  obtain ⟨b, s₁⟩ := out
  cases b with
  | ended e' => cases ran
  | racing race last =>
    dsimp only at ran
    rw [bind_apply] at ran
    have left {s₂ : State} {e : Value} (waited : runner.wait main (.waiter race.waiter) fuel s₁ = (.left e, s₂)) :
        s₂.world.isKind e "KeyboardInterrupt" = true ∨ s₂.world.isKind e "SystemExit" = true := by
      unfold Runner.wait at waited
      rw [bind_apply] at waited
      exact advance_left fuel waited
    generalize runner.wait main (.waiter race.waiter) fuel s₁ = out at ran left
    obtain ⟨halt, s₂⟩ := out
    cases halt with
    | left e' =>
      cases ran
      exact left rfl
    | outside f signal => cases ran
    | idle => cases ran
    | exhausted => cases ran

/-- In every history of a session: an error leaves the run of a cell only if it is an interrupt from the
keyboard, if the run comes to write a value to the console whose text raises it, or if the run itself is
cancelled. A run that is a task of its own fails in the first two ways only. And while a run waits, only an
interrupt from the keyboard or an exit leaves the event loop. -/
theorem contained_history (places : Path.Places) (config : Config) (files : Files) (isConsole : Bool)
    (realm : String) (ops : List Op) :
    let session := State.start places config files isConsole realm
    let main := (open_ session).1
    let s := (open_ session).2.after main ops
    (∀ src e s', run main src s = (.ok (.escaped e), s') →
      s'.world.isKind e "KeyboardInterrupt" = true ∨
        (isConsole = true ∧ ∃ c t, closing main src s = (.ok c, t) ∧ Unwritten c e t s') ∨
        (s'.world.isKind e "CancelledError" = true ∧ Stopped main src s)) ∧
    (∀ f j e, s.world.loops.body? f = some (.job j) → s.world.loops.outcome f = .failed e →
      ∃ c, (f, c, .escaped e) ∈ s.ends ∧ (s.world.isKind e "KeyboardInterrupt" = true ∨
        (isConsole = true ∧ ∃ t t', Unwritten c e t t'))) ∧
    ∀ src e s', run main src s = (.left e, s') →
      s'.world.isKind e "KeyboardInterrupt" = true ∨ s'.world.isKind e "SystemExit" = true := by
  intro session main s
  have started := start_sound places config files isConsole realm
  have opened := open_upholds started
  have all := opened.trans (after_upholds main ops (opened.sound started))
  have sound : Sound s := all.sound started
  have kind : session.sink.isConsole = isConsole := by
    change (if isConsole then Sink.console else .record {}).isConsole = isConsole
    cases isConsole <;> rfl
  refine ⟨fun src e s' ran => ?_, fun f j e body failed => ?_, fun src e s' ran => run_left ran⟩
  · have after := run_upholds main src sound
    rw [ran] at after
    have console : s'.sink.isConsole = isConsole := after.console.trans (all.console.trans kind)
    exact (run_escapes sound ran).imp_right fun h => h.imp_left fun h => ⟨console.symm.trans h.1, h.2⟩
  · obtain ⟨c, kept, excuse⟩ := sound.jobs f j e body failed
    exact ⟨c, kept, excuse.imp_right fun h => ⟨(all.console.trans kind).symm.trans h.1, h.2⟩⟩

/-- Whether a run comes back with an error that is of none of some kinds. -/
def escapesOtherThan (kinds : List String) : Back RunEnd × State → Bool
  | (.ok (.escaped e), s) => kinds.all fun cls => !s.world.isKind e cls
  | _ => false

/-- A value that has no text. -/
def untold : String := "class R:\n    __repr__ = 0\nR()"

set_option maxRecDepth 100000 in
theorem untold_escapes :
    let session := State.start ⟨"/w", "/home/user"⟩ { rootDir := .str "/w" } {} true
    escapesOtherThan ["KeyboardInterrupt", "CancelledError"] (run (open_ session).1 untold (open_ session).2) = true := by
  decide +kernel

/-- The run that shows such a value on the console comes to write it, and its text raises what leaves. -/
theorem contained_history_untold :
    let session := State.start ⟨"/w", "/home/user"⟩ { rootDir := .str "/w" } {} true
    let main := (open_ session).1
    let s := (open_ session).2.after main []
    ∃ e s', run main untold s = (.ok (.escaped e), s') ∧
      ∃ c t, closing main untold s = (.ok c, t) ∧ Unwritten c e t s' := by
  intro session main s
  have escapes : escapesOtherThan ["KeyboardInterrupt", "CancelledError"] (run main untold s) = true := untold_escapes
  obtain ⟨contained, -, -⟩ :=
    contained_history ⟨"/w", "/home/user"⟩ { rootDir := .str "/w" } {} true cellFunction []
  cases ran : run main untold s with
  | mk back s' =>
    rw [ran] at escapes
    cases back with
    | ok end_ =>
      cases end_ with
      | outcome => cases escapes
      | escaped e =>
        simp only [escapesOtherThan, List.all_cons, List.all_nil, Bool.and_true, Bool.and_eq_true,
          Bool.not_eq_true'] at escapes
        rcases contained untold e s' ran with interrupt | ⟨-, unwritten⟩ | ⟨cancelled, -⟩
        · cases interrupt.symm.trans escapes.1
        · exact ⟨e, s', rfl, unwritten⟩
        · cases cancelled.symm.trans escapes.2
    | left e => cases escapes
    | stuck => cases escapes

/-- The error of a value that has no text leaves the run whose last value it is. -/
theorem not_contained_on_console :
    let session := State.start ⟨"/w", "/home/user"⟩ { rootDir := .str "/w" } {} true
    escapesOtherThan ["KeyboardInterrupt", "CancelledError"]
      (run (open_ session).1 "class R:\n    __repr__ = 0\nR()" (open_ session).2) = true :=
  untold_escapes

end Notebook.Session
