import Notebook.Proofs.History

/-! One step of the event loop of a session: what it can do with tasks and their bodies. -/

set_option autoImplicit false

namespace Notebook.Loop

variable {κ ν ε γ : Type}

/-- The body that a task goes on with after a turn. -/
def Turn.body? : Turn κ ν ε → Option κ
  | .awaits _ body => some body
  | .pauses body => some body
  | _ => none

namespace Loops

/-! Changes that no turn of a task makes. -/

namespace Leads

variable {own : κ → Prop} {l l' : Loops κ ν ε γ}

theorem takeSignal (l : Loops κ ν ε γ) (f : FutureId) (signal : Signal ε) :
    l.Leads own (l.takeSignal f signal).2 := by
  unfold Loops.takeSignal
  split
  · exact .refl l
  · exact .modifyTask l f fun _ => rfl

theorem watch (l : Loops κ ν ε γ) (what : Awaited) (f : FutureId) : l.Leads own (l.watch what f) := by
  cases what with
  | future k => exact .addCallback l k _
  | waiter i =>
    change l.Leads own (l.watchWaiter i f)
    unfold Loops.watchWaiter
    split
    · exact .refl l
    · split <;> exact .aside rfl rfl

theorem await (l : Loops κ ν ε γ) (f : FutureId) (what : Awaited) : l.Leads own (l.await f what) := by
  have first : l.Leads own ((l.watch what f).modifyTask f fun t => { t with awaiting := some what }) :=
    (watch l what f).trans (.modifyTask _ f fun _ => rfl)
  unfold Loops.await
  dsimp only
  generalize (l.watch what f).modifyTask f (fun t => { t with awaiting := some what }) = l' at first ⊢
  split
  · split
    · have handed := first.trans (handOn l' (fun f l => .cancel l f) (some what))
      split
      · exact handed.trans (.modifyTask _ f fun _ => rfl)
      · exact handed
    · exact first
  · exact first

theorem take? {h : Handle ε γ} (taken : l.take? = some (h, l')) : l.Leads own l' := by
  unfold Loops.take? at taken
  split at taken
  · cases taken
  · split at taken
    · cases taken
      exact .aside rfl rfl
    · split at taken
      · cases taken
      · cases taken
        exact .aside rfl rfl

end Leads

/-! Turns. -/

/-- The body of a task. -/
def body? (l : Loops κ ν ε γ) (f : FutureId) : Option κ :=
  ((l.future? f).bind (·.task)).bind (·.body)

/-- What event loops keep when one task may end: all bodies and ends, and whether other tasks are done.
Tasks that come in have bodies of some kind. -/
structure Turned (own : κ → Prop) (f : FutureId) (l l' : Loops κ ν ε γ) : Prop where
  size : l.futures.size ≤ l'.futures.size
  body : ∀ k b, l'.body? k = some b → l.body? k = some b ∨ (l.futures.size ≤ k ∧ own b)
  kept : ∀ k b, l.body? k = some b → l'.body? k = some b
  done : ∀ k, l.isDone k = true → l'.outcome k = l.outcome k
  task : ∀ k b, k ≠ f → l.body? k = some b → l'.outcome k = l.outcome k

theorem body?_of_leads {own : κ → Prop} {l l' : Loops κ ν ε γ} (h : l.Leads own l') {k : FutureId}
    {x : Future κ ν ε γ} (hx : l.future? k = some x) : l'.body? k = l.body? k := by
  obtain ⟨x', hx', keeps⟩ := h.kept k x hx
  have same := keeps.body
  unfold body?
  rw [hx, hx', Option.bind_some, Option.bind_some]
  generalize x.task = t at same ⊢
  generalize x'.task = t' at same ⊢
  cases t <;> cases t' <;> simp_all

theorem future?_of_body? {l : Loops κ ν ε γ} {k : FutureId} {b : κ} (hb : l.body? k = some b) :
    ∃ x t, l.future? k = some x ∧ x.task = some t ∧ t.body = some b := by
  obtain ⟨t, ht, body⟩ := Option.bind_eq_some_iff.mp hb
  obtain ⟨x, hx, task⟩ := Option.bind_eq_some_iff.mp ht
  exact ⟨x, t, hx, task, body⟩

theorem outcome_of_future? {l : Loops κ ν ε γ} {k : FutureId} {x : Future κ ν ε γ}
    (hx : l.future? k = some x) : l.outcome k = x.outcome := by rw [outcome, hx]

namespace Turned

variable {own : κ → Prop} {f : FutureId} {l l' l'' : Loops κ ν ε γ}

theorem ofLeads (h : l.Leads own l') : l.Turned own f l' where
  size := h.size
  body k b hb := by
    by_cases old : k < l.futures.size
    · have same := body?_of_leads h (Array.getElem?_eq_getElem old)
      exact .inl (same.symm.trans hb)
    · obtain ⟨x, t, hx, ht, body⟩ := future?_of_body? hb
      obtain ⟨b', hb', mine⟩ := h.new k x hx (Nat.not_lt.mp old) t ht
      obtain rfl : b' = b := Option.some.inj (hb'.symm.trans body)
      exact .inr ⟨Nat.not_lt.mp old, mine⟩
  kept k b hb := by
    obtain ⟨x, t, hx, -⟩ := future?_of_body? hb
    exact (body?_of_leads h hx).trans hb
  done k done := by
    cases hx : l.future? k with
    | none =>
      rw [isDone, outcome, hx] at done
      cases done
    | some x =>
      obtain ⟨x', hx', keeps⟩ := h.kept k x hx
      rw [isDone, outcome_of_future? hx] at done
      rw [outcome_of_future? hx, outcome_of_future? hx', keeps.done done]
  task k b _ hb := by
    obtain ⟨x, t, hx, ht, -⟩ := future?_of_body? hb
    obtain ⟨x', hx', keeps⟩ := h.kept k x hx
    rw [outcome_of_future? hx, outcome_of_future? hx', keeps.task (by rw [ht]; rfl)]

theorem ofFutures (same : l'.futures = l.futures) : l.Turned own f l' := by
  have future (k : FutureId) : l'.future? k = l.future? k := by rw [future?, same, future?]
  have body (k : FutureId) : l'.body? k = l.body? k := by rw [body?, future, body?]
  have ends (k : FutureId) : l'.outcome k = l.outcome k := by rw [outcome, future, outcome]
  exact ⟨Nat.le_of_eq (congrArg Array.size same.symm), fun k b hb => .inl ((body k).symm.trans hb),
    fun k b hb => (body k).trans hb, fun k _ => ends k, fun k _ _ _ => ends k⟩

theorem mono {own' : κ → Prop} (h : l.Turned own f l') (weaker : ∀ b, own b → own' b) :
    l.Turned own' f l' :=
  { h with body := fun k b hb => (h.body k b hb).imp_right fun new => ⟨new.1, weaker b new.2⟩ }

theorem trans (h : l.Turned own f l') (h' : l'.Turned own f l'') : l.Turned own f l'' where
  size := Nat.le_trans h.size h'.size
  body k b hb := by
    rcases h'.body k b hb with before | ⟨new, mine⟩
    · exact h.body k b before
    · exact .inr ⟨Nat.le_trans h.size new, mine⟩
  kept k b hb := h'.kept k b (h.kept k b hb)
  done k done := by
    have first := h.done k done
    have still : l'.isDone k = true := by rw [isDone, first]; exact done
    exact (h'.done k still).trans first
  task k b other hb := (h'.task k b other (h.kept k b hb)).trans (h.task k b other hb)

theorem settle (l : Loops κ ν ε γ) (f : FutureId) (o : Outcome ν ε) :
    l.Turned own f (l.settle f o) := by
  unfold Loops.settle
  split
  next => exact .ofLeads (.refl l)
  next x hx =>
    split
    next => exact .ofLeads (.refl l)
    next pending =>
      have body (k : FutureId) :
          (l.modifyFuture f fun x => { x with outcome := o, callbacks := [] }).body? k = l.body? k := by
        unfold body?
        rw [future?_modifyFuture]
        split
        · cases l.future? k <;> rfl
        · rfl
      have other (k : FutureId) (hk : k ≠ f) :
          (l.modifyFuture f fun x => { x with outcome := o, callbacks := [] }).outcome k = l.outcome k := by
        unfold outcome
        rw [future?_modifyFuture, if_neg (Ne.symm hk)]
      refine ⟨by simp [Loops.soonAll, modifyQueue, Loops.modifyFuture], fun k b hb => .inl ((body k).symm.trans hb),
        fun k b hb => (body k).trans hb, fun k done => ?_, fun k b hk _ => other k hk⟩
      by_cases hk : k = f
      · subst hk
        rw [isDone, outcome_of_future? hx] at done
        exact absurd done pending
      · exact other k hk

end Turned

def afterTurn (l : Loops κ ν ε γ) (f : FutureId) : Turn κ ν ε → Loops κ ν ε γ
  | .awaits what body => (l.modifyTask f fun t => { t with body := some body }).await f what
  | .pauses body =>
    (l.modifyTask f fun t => { t with body := some body }).soon (l.loopOf f) (.turn f .go)
  | .returns v => l.finish f (.result v)
  | .raises e => l.finish f (.failed e)
  | .cancelled => l.finish f .cancelled
  | .leaves e => l.finish f (.failed e)

theorem Turned.finish {own : κ → Prop} (l : Loops κ ν ε γ) (f : FutureId) (o : Outcome ν ε) :
    l.Turned own f (l.finish f o) := by
  unfold Loops.finish
  dsimp only
  split
  · split
    · have asked : l.Leads own (l.modifyTask f fun t => { t with mustCancel := false }) :=
        .modifyTask l f fun _ => rfl
      exact (Turned.ofLeads asked).trans (.settle _ f _)
    · exact .settle l f _
  · exact .settle l f _

theorem outcome_settle {l : Loops κ ν ε γ} {f : FutureId} {b : κ} (hb : l.body? f = some b)
    (pending : l.isDone f = false) (o : Outcome ν ε) : (l.settle f o).outcome f = o := by
  obtain ⟨x, t, hx, -⟩ := future?_of_body? hb
  rw [isDone, outcome_of_future? hx] at pending
  have now : (modifyFuture l f fun x => { x with outcome := o, callbacks := [] }).future? f
      = some { x with outcome := o, callbacks := [] } := by
    rw [future?_modifyFuture, if_pos rfl, hx]
    rfl
  unfold settle
  rw [hx]
  dsimp only
  rw [if_neg (Bool.eq_false_iff.mp pending)]
  exact outcome_of_future? now

theorem isDone_finish {l : Loops κ ν ε γ} {f : FutureId} {b : κ} (hb : l.body? f = some b)
    {o : Outcome ν ε} (ho : o.isDone = true) : (l.finish f o).isDone f = true := by
  have settled {l : Loops κ ν ε γ} {o : Outcome ν ε} (hb : l.body? f = some b) (ho : o.isDone = true) :
      (l.settle f o).isDone f = true := by
    cases pending : l.isDone f with
    | true =>
      have kept : l.Turned (fun _ => True) f (l.settle f o) := .settle l f o
      rw [isDone, kept.done f pending]
      exact pending
    | false =>
      rw [isDone, outcome_settle hb pending]
      exact ho
  unfold Loops.finish
  dsimp only
  split
  · split
    · have asked : l.Leads (fun _ => True) (l.modifyTask f fun t => { t with mustCancel := false }) :=
        .modifyTask l f fun _ => rfl
      obtain ⟨x, t, hx, -⟩ := future?_of_body? hb
      exact settled ((body?_of_leads asked hx).trans hb) rfl
    · exact settled hb ho
  · exact settled hb ho

theorem Turned.afterTurn {own : κ → Prop} (l : Loops κ ν ε γ) (f : FutureId) {t : Turn κ ν ε}
    (same : ∀ b, t.body? = some b → l.body? f = some b) : l.Turned own f (l.afterTurn f t) := by
  have kept (b : κ) (hb : l.body? f = some b) :
      l.Leads own (l.modifyTask f fun t => { t with body := some b }) := by
    refine .modifyFuture l fun x hx => ⟨?_, fun _ => rfl, fun _ => rfl⟩
    unfold Loops.body? at hb
    rw [hx] at hb
    cases ht : x.task with
    | none => rfl
    | some t => simpa [ht] using hb.symm
  cases t with
  | awaits what b => exact .ofLeads ((kept b (same b rfl)).trans (.await _ f what))
  | pauses b => exact .ofLeads ((kept b (same b rfl)).trans (.aside rfl rfl))
  | returns v => exact .finish l f (.result v)
  | raises e => exact .finish l f (.failed e)
  | cancelled => exact .finish l f .cancelled
  | leaves e => exact .finish l f (.failed e)

theorem isDone_afterTurn {l : Loops κ ν ε γ} {f : FutureId} {b : κ} (hb : l.body? f = some b)
    {t : Turn κ ν ε} (finished : t.body? = none) : (l.afterTurn f t).isDone f = true := by
  cases t with
  | awaits what b => cases finished
  | pauses b => cases finished
  | returns v => exact isDone_finish hb rfl
  | raises e => exact isDone_finish hb rfl
  | cancelled => exact isDone_finish hb rfl
  | leaves e => exact isDone_finish hb rfl

theorem body?_modifyTask (l : Loops κ ν ε γ) (f : FutureId) (g : Task κ → Task κ) (k : FutureId) :
    (l.modifyTask f g).body? k
      = if f = k then ((l.future? k).bind (·.task)).bind fun t => (g t).body else l.body? k := by
  unfold body? modifyTask
  rw [future?_modifyFuture]
  split
  · cases l.future? k with
    | none => rfl
    | some x =>
      change (x.task.map g).bind (·.body) = x.task.bind fun t => (g t).body
      cases x.task <;> rfl
  · rfl

theorem outcome_modifyTask (l : Loops κ ν ε γ) (f : FutureId) (g : Task κ → Task κ) (k : FutureId) :
    (l.modifyTask f g).outcome k = l.outcome k := by
  unfold outcome modifyTask
  rw [future?_modifyFuture]
  by_cases same : f = k
  · rw [if_pos same]
    cases l.future? k <;> rfl
  · rw [if_neg same]

theorem future?_spawn (l : Loops κ ν ε γ) (body : Option κ) (k : FutureId) :
    (l.spawn body).2.future? k
      = if k = l.futures.size then some { loop := l.current, task := some { body } } else l.future? k :=
  future?_push l _ k

theorem isDone_takeSignal (l : Loops κ ν ε γ) (f : FutureId) (signal : Signal ε) (k : FutureId) :
    (l.takeSignal f signal).2.isDone k = l.isDone k := by
  unfold isDone takeSignal
  split
  · rfl
  · rw [outcome_modifyTask]

end Loops

end Notebook.Loop

namespace Notebook.Session

open Notebook.Machine Notebook.Loop Notebook.Cell

def haltOf : Turn Body Value Value → Option (Halt Value)
  | .leaves e => some (.left e)
  | _ => none

theorem endTurn_run (f : FutureId) (t : Turn Body Value Value) (s : State) :
    runner.endTurn f t s = (haltOf t, s.withLoops (s.world.loops.afterTurn f t)) := by
  cases t <;> rfl

/-- What one step of the event loop does: nothing that a body takes part in, what is due when a member of
a gathering is done, or a turn of a task. -/
inductive Stepped (s : State) : Option (Halt Value) → State → Prop where
  | aside {l : Loops Body Value Value Gather} (leads : s.world.loops.Leads Body.IsOwn l) :
    Stepped s none (s.withLoops l)
  | outside {l : Loops Body Value Value Gather} (leads : s.world.loops.Leads Body.IsOwn l)
      (f : FutureId) (signal : Signal Value) : Stepped s (some (.outside f signal)) (s.withLoops l)
  | act (g : Gather) (f : FutureId) : Stepped s none (inWorldOr () (gatherDone g f) s).2
  | turn {l : Loops Body Value Value Gather} {f : FutureId} {body : Body} (signal : Signal Value)
      (leads : s.world.loops.Leads Body.IsOwn l) (pending : l.isDone f = false)
      (here : l.body? f = some body) :
    Stepped s (haltOf (resume f body signal (s.withLoops l)).1)
      ((resume f body signal (s.withLoops l)).2.withLoops
        ({ (resume f body signal (s.withLoops l)).2.world.loops with running := none }.afterTurn f
          (resume f body signal (s.withLoops l)).1))

theorem stepped_turn (f : FutureId) (signal : Signal Value) (s : State) :
    Stepped s (runner.turn f signal s).1 (runner.turn f signal s).2 := by
  have same : runner.turn f signal s = (if s.world.loops.isDone f = true then pure none
    else runner.takeTurn f (s.world.loops.takeSignal f signal).1
      (s.world.loops.takeSignal f signal).2 : S _) s := rfl
  have leads : s.world.loops.Leads Body.IsOwn (s.world.loops.takeSignal f signal).2 :=
    .takeSignal _ f signal
  have done := s.world.loops.isDone_takeSignal f signal f
  rw [same]
  generalize s.world.loops.takeSignal f signal = taken at leads done ⊢
  obtain ⟨signal, l⟩ := taken
  split
  next => exact .aside (.refl _)
  next pending =>
    have running : s.world.loops.Leads Body.IsOwn { l with running := some f } :=
      leads.trans (.aside rfl rfl)
    have still : { l with running := some f }.isDone f = false :=
      Bool.eq_false_iff.mpr fun d => pending (done.symm.trans d)
    unfold Runner.takeTurn
    dsimp only at leads still ⊢
    cases task : (l.future? f).bind (·.task) with
    | none => exact .aside (.refl _)
    | some t =>
      obtain ⟨body⟩ := t
      cases body with
      | none => exact .outside running f signal
      | some body =>
        have here : { l with running := some f }.body? f = some body := by
          change ((l.future? f).bind (·.task)).bind (·.body) = _
          rw [task]
          rfl
        have all := Stepped.turn (s := s) signal running still here
        dsimp only
        rw [bind_apply, bind_apply, bind_apply, endTurn_run]
        exact all

theorem stepped (h : Handle Value Gather) (s : State) :
    Stepped s (runner.run h s).1 (runner.run h s).2 := by
  cases h with
  | turn f signal => exact stepped_turn f signal s
  | expire f => exact .aside (.settleOwn _ f _)
  | wake t source => exact stepped_turn t _ s
  | complete w => exact .aside (.settleWaiter _ w _)
  | act g f => exact .act g f

structure Runs (Inv : State → Prop) : Prop where
  leads : ∀ {s l}, s.world.loops.Leads Body.IsOwn l → Inv s → Inv (s.withLoops l)
  step : ∀ {s halt s'}, Stepped s halt s' → Inv s → Inv s'

namespace Runs

variable {Inv : State → Prop}

theorem advance (r : Runs Inv) (fuel : Nat) {s : State} (hs : Inv s) :
    Inv (runner.advance fuel s).2 := by
  induction fuel generalizing s with
  | zero => exact hs
  | succ fuel ih =>
    rw [advance_succ]
    cases next : s.world.loops.take? with
    | none => exact hs
    | some entry =>
      obtain ⟨h, l⟩ := entry
      have taken : Inv (s.withLoops l) := r.leads (.take? next) hs
      have ran := r.step (stepped h (s.withLoops l)) taken
      dsimp only
      generalize runner.run h (s.withLoops l) = out at ran ⊢
      obtain ⟨halt, s'⟩ := out
      cases halt with
      | some halt => exact ran
      | none => exact ih ran

theorem wait (r : Runs Inv) (main : FutureId) (what : Awaited) {s : State} (hs : Inv s) :
    Inv (runner.wait main what fuel s).2 := by
  unfold Runner.wait
  rw [bind_apply]
  refine r.advance fuel (s := s.withLoops { s.world.loops.await main what with running := none }) ?_
  exact r.leads (.trans (.await _ main what) (.aside rfl rfl)) hs

theorem pause (r : Runs Inv) (main : FutureId) {s : State} (hs : Inv s) :
    Inv (runner.pause main fuel s).2 := by
  unfold Runner.pause
  rw [bind_apply]
  refine r.advance fuel (s := s.withLoops
    ({ s.world.loops with running := none }.soon s.world.loops.current (.turn main .go))) ?_
  exact r.leads (.aside rfl rfl) hs

theorem settle (r : Runs Inv) (main : FutureId) {until_ : S Bool}
    (asks : ∀ s, Inv s → Inv (until_ s).2) (n : Nat) {s : State} (hs : Inv s) :
    Inv (Session.settle main until_ n s).2 := by
  induction n generalizing s with
  | zero => exact hs
  | succ n ih =>
    rw [Session.settle, bind_apply]
    have asked := asks s hs
    generalize until_ s = answer at asked ⊢
    obtain ⟨isOver, s⟩ := answer
    cases isOver with
    | true => exact asked
    | false =>
      dsimp only at asked ⊢
      rw [if_neg Bool.false_ne_true, bind_apply]
      have paused := r.pause main asked
      generalize runner.pause main fuel s = out at paused ⊢
      obtain ⟨halt, s⟩ := out
      cases halt with
      | outside task signal => exact ih paused
      | left e => exact paused
      | idle => exact paused
      | exhausted => exact paused

end Runs

end Notebook.Session
