import Notebook.Loop.Leads
import Notebook.Loop.Race
import Notebook.Loop.Run

/-! The wiring of event loops: what resumes a task that races, and what completes its waiter.

A race is resumed by its waiter and by nothing else, and the waiter is completed by the task and the
signal of the race and by nothing else. A cancellation is the one thing that gets in between, and it
is counted. -/

set_option autoImplicit false

namespace Notebook.Loop

/-- What a body is to races: a race still to begin, one under way, or anything else. -/
inductive Stage where
  | plain
  | ahead
  | racing (r : Race)

variable {κ ν ε γ : Type}

def Handle.isTurnOf (f : FutureId) : Handle ε γ → Bool
  | .turn g _ => g == f
  | _ => false

namespace Future

/-- What a task that is not done runs. -/
def body? (x : Future κ ν ε γ) : Option κ := if x.outcome.isDone then none else x.task.bind (·.body)

def cancels (x : Future κ ν ε γ) : Nat := x.task.elim 0 (·.cancels)

def mustCancel (x : Future κ ν ε γ) : Bool := x.task.any (·.mustCancel)

def awaiting (x : Future κ ν ε γ) : Option Awaited := x.task.bind (·.awaiting)

def stage (stage : κ → Stage) (x : Future κ ν ε γ) : Stage := x.body?.elim .plain stage

end Future

namespace Loops

/-- The entries of a queue. -/
def ready (l : Loops κ ν ε γ) (n : Nat) : List (Handle ε γ) := l.queues[n]?.elim [] (·.ready)

def stageOf (stage : κ → Stage) (l : Loops κ ν ε γ) (f : FutureId) : Stage :=
  (l.future? f).elim .plain (·.stage stage)

def cancels (l : Loops κ ν ε γ) (f : FutureId) : Nat := (l.future? f).elim 0 (·.cancels)

def mustCancel (l : Loops κ ν ε γ) (f : FutureId) : Bool := (l.future? f).any (·.mustCancel)

def awaiting (l : Loops κ ν ε γ) (f : FutureId) : Option Awaited := (l.future? f).bind (·.awaiting)

theorem isDone_eq (l : Loops κ ν ε γ) (f : FutureId) :
    l.isDone f = (l.future? f).elim false (·.outcome.isDone) := by
  unfold isDone outcome
  cases l.future? f <;> rfl

theorem latchDone_eq (l : Loops κ ν ε γ) (i : LatchId) :
    (l.latchOutcome i).isDone = (l.latch? i).elim false (·.outcome.isDone) := by
  unfold latchOutcome
  cases l.latch? i <;> rfl

def Decided (l : Loops κ ν ε γ) (r : Race) : Prop :=
  l.isDone r.task = true ∨ (l.latchOutcome r.signal).isDone = true

variable (stage : κ → Stage)

/-- An entry of a queue that is in place: a race is resumed on its loop by its own waiter after that is
done, and a waiter is completed for a decided race. -/
def Fits (l : Loops κ ν ε γ) (n : Nat) : Handle ε γ → Prop
  | .turn f _ => f < l.futures.size ∧ (l.stageOf stage f = .ahead → n = l.loopOf f) ∧
      ∀ r, l.stageOf stage f ≠ .racing r
  | .wake f source => f < l.futures.size ∧ l.stageOf stage f ≠ .ahead ∧
      ∀ r, l.stageOf stage f = .racing r →
        source = .waiter r.waiter ∧ n = l.loopOf f ∧
          ∃ x, l.waiter? r.waiter = some x ∧ x.state ≠ .pending
  | .complete i => i < l.waiters.size ∧ ∀ f r, l.stageOf stage f = .racing r → r.waiter = i → l.Decided r
  | _ => True

def FitsAt (l : Loops κ ν ε γ) (k : FutureId) : Callback γ → Prop
  | .wake f => f < l.futures.size ∧ l.stageOf stage f ≠ .ahead ∧ ∀ r, l.stageOf stage f ≠ .racing r
  | .complete i => i < l.waiters.size ∧ ∀ f r, l.stageOf stage f = .racing r → r.waiter = i → r.task = k
  | .other _ => True

/-- A task under way in a race: its waiter is there on the loop of the task, completed only when the
race is decided, and cancelled only after a request to cancel the task. -/
def InRace (l : Loops κ ν ε γ) (f : FutureId) (r : Race) : Prop :=
  ∃ x, l.waiter? r.waiter = some x ∧ x.loop = l.loopOf f ∧ (x.state = .completed → l.Decided r) ∧
    (x.state = .cancelled → 0 < l.cancels f)

/-- Loops whose entries, callbacks, latches and waiters are all in place. -/
structure Wired (l : Loops κ ν ε γ) : Prop where
  entries : ∀ n h, h ∈ l.ready n → l.Fits stage n h
  once : ∀ f, l.stageOf stage f = .ahead → (l.ready (l.loopOf f)).countP (·.isTurnOf f) ≤ 1
  callbacks : ∀ k x, l.future? k = some x → ∀ c ∈ x.callbacks, l.FitsAt stage k c
  latches : ∀ i x, l.latch? i = some x → ∀ w ∈ x.waiters, w < l.waiters.size ∧
    ∀ f r, l.stageOf stage f = .racing r → r.waiter = w → r.signal = i
  waiters : ∀ i x, l.waiter? i = some x → ∀ f ∈ x.tasks,
    f < l.futures.size ∧ l.stageOf stage f ≠ .ahead ∧ ∀ r, l.stageOf stage f = .racing r → r.waiter = i
  races : ∀ f r, l.stageOf stage f = .racing r → l.InRace f r
  unique : ∀ f g r s, l.stageOf stage f = .racing r → l.stageOf stage g = .racing s →
    r.waiter = s.waiter → f = g
  awaits : ∀ f i, l.awaiting f = some (.waiter i) → i < l.waiters.size ∧
    ∀ g r, l.stageOf stage g = .racing r → r.waiter = i → g = f
  must : ∀ f, l.mustCancel f = true → 0 < l.cancels f

/-! What is in place stays in place while races only end, things that are done stay done and requests
to cancel only get more. -/

structure Onward (l l' : Loops κ ν ε γ) : Prop where
  size : l.futures.size ≤ l'.futures.size
  stages : ∀ f, l'.stageOf stage f = l.stageOf stage f ∨ l'.stageOf stage f = .plain
  loopOf : ∀ f, l'.loopOf f = l.loopOf f
  decided : ∀ r, l.Decided r → l'.Decided r
  waiters : ∀ i x, l.waiter? i = some x →
    ∃ x', l'.waiter? i = some x' ∧ (x.state ≠ .pending → x'.state ≠ .pending)

namespace Onward

variable {stage} {l l' : Loops κ ν ε γ}

theorem ahead (o : Onward stage l l') {f : FutureId} (h : l'.stageOf stage f = .ahead) :
    l.stageOf stage f = .ahead := by
  rcases o.stages f with same | plain
  · exact same ▸ h
  · rw [plain] at h
    cases h

theorem racing (o : Onward stage l l') {f : FutureId} {r : Race} (h : l'.stageOf stage f = .racing r) :
    l.stageOf stage f = .racing r := by
  rcases o.stages f with same | plain
  · exact same ▸ h
  · rw [plain] at h
    cases h

theorem lt_waiters (o : Onward stage l l') {i : WaiterId} (h : i < l.waiters.size) :
    i < l'.waiters.size := by
  obtain ⟨x, hx, _⟩ := o.waiters i _ (Array.getElem?_eq_getElem h)
  exact (Array.getElem?_eq_some_iff.mp hx).1

theorem fits (o : Onward stage l l') {n : Nat} {h : Handle ε γ} (fits : l.Fits stage n h) :
    l'.Fits stage n h := by
  cases h with
  | turn f s =>
    refine ⟨Nat.lt_of_lt_of_le fits.1 o.size, fun ahead => ?_, fun r racing => fits.2.2 r (o.racing racing)⟩
    rw [o.loopOf f]
    exact fits.2.1 (o.ahead ahead)
  | wake f source =>
    refine ⟨Nat.lt_of_lt_of_le fits.1 o.size, fun ahead => fits.2.1 (o.ahead ahead), fun r racing => ?_⟩
    obtain ⟨own, here, x, there, done⟩ := fits.2.2 r (o.racing racing)
    obtain ⟨x', there', kept⟩ := o.waiters _ x there
    exact ⟨own, here.trans (o.loopOf f).symm, x', there', kept done⟩
  | complete i =>
    exact ⟨o.lt_waiters fits.1, fun f r racing same => o.decided r (fits.2 f r (o.racing racing) same)⟩
  | act a f => trivial
  | expire f => trivial

theorem fitsAt (o : Onward stage l l') {k : FutureId} {c : Callback γ} (fits : l.FitsAt stage k c) :
    l'.FitsAt stage k c := by
  cases c with
  | wake f =>
    exact ⟨Nat.lt_of_lt_of_le fits.1 o.size, fun h => fits.2.1 (o.ahead h), fun r h => fits.2.2 r (o.racing h)⟩
  | complete i => exact ⟨o.lt_waiters fits.1, fun f r racing => fits.2 f r (o.racing racing)⟩
  | other a => trivial

end Onward

variable {stage} {l : Loops κ ν ε γ}

/-! Queues. -/

theorem ready_modifyQueue (l : Loops κ ν ε γ) (n : Nat) (g : Queue ε γ → Queue ε γ) (m : Nat) :
    (l.modifyQueue n g).ready m = if n = m then l.queues[m]?.elim [] fun q => (g q).ready else l.ready m := by
  have found : (l.modifyQueue n g).queues[m]? = if n = m then l.queues[m]?.map g else l.queues[m]? :=
    Array.getElem?_modify ..
  rw [ready, found]
  split
  · cases l.queues[m]? <;> rfl
  · rfl

theorem mem_ready_soonAll {n m : Nat} {hs : List (Handle ε γ)} {h : Handle ε γ}
    (member : h ∈ (l.soonAll n hs).ready m) : h ∈ l.ready m ∨ (n = m ∧ h ∈ hs) := by
  rw [soonAll, ready_modifyQueue] at member
  split at member
  next same =>
    unfold ready
    cases found : l.queues[m]? with
    | none =>
      rw [found] at member
      cases member
    | some q =>
      rw [found] at member
      exact (List.mem_append.mp member).imp id fun new => ⟨same, new⟩
  next => exact .inl member

theorem count_ready_soonAll (l : Loops κ ν ε γ) (n m : Nat) (hs : List (Handle ε γ)) (f : FutureId) :
    ((l.soonAll n hs).ready m).countP (·.isTurnOf f)
      ≤ (l.ready m).countP (·.isTurnOf f) + if n = m then hs.countP (·.isTurnOf f) else 0 := by
  rw [soonAll, ready_modifyQueue, ready]
  split
  · cases l.queues[m]? <;> simp
  · simp

namespace Wired

theorem soonAll (w : l.Wired stage) {n : Nat} {hs : List (Handle ε γ)}
    (fits : ∀ h ∈ hs, l.Fits stage n h)
    (single : ∀ f, l.stageOf stage f = .ahead →
      hs.countP (·.isTurnOf f) + (l.ready (l.loopOf f)).countP (·.isTurnOf f) ≤ 1) :
    (l.soonAll n hs).Wired stage :=
  { w with
    entries := fun m h member => by
      rcases mem_ready_soonAll member with old | ⟨same, new⟩
      · exact w.entries m h old
      · exact same ▸ fits h new
    once := fun f ahead => by
      have count := count_ready_soonAll l n (l.loopOf f) hs f
      have bound := single f ahead
      change ((l.soonAll n hs).ready (l.loopOf f)).countP _ ≤ 1
      split at count <;> omega }

theorem soonWakes (w : l.Wired stage) {n : Nat} {hs : List (Handle ε γ)}
    (fits : ∀ h ∈ hs, l.Fits stage n h) (others : ∀ h ∈ hs, ∀ f, h.isTurnOf f = false) :
    (l.soonAll n hs).Wired stage := by
  refine w.soonAll fits fun f ahead => ?_
  have none : hs.countP (·.isTurnOf f) = 0 := List.countP_eq_zero.mpr fun h mem => by simp [others h mem f]
  rw [none, Nat.zero_add]
  exact w.once f ahead

/-! Futures. -/

end Wired

theorem stageOf_modifyFuture (l : Loops κ ν ε γ) (f : FutureId) (g : Future κ ν ε γ → Future κ ν ε γ)
    (k : FutureId) : (l.modifyFuture f g).stageOf stage k
      = if f = k then (l.future? k).elim .plain fun x => (g x).stage stage else l.stageOf stage k := by
  rw [stageOf, future?_modifyFuture]
  split
  · cases l.future? k <;> rfl
  · rfl

structure Rewires (stage : κ → Stage) (l : Loops κ ν ε γ) (f : FutureId) (x x' : Future κ ν ε γ) : Prop where
  loop : x'.loop = x.loop
  done : x.outcome.isDone = true → x'.outcome.isDone = true
  stages : x'.stage stage = x.stage stage ∨ x'.stage stage = .plain
  callbacks : ∀ c ∈ x'.callbacks, c ∈ x.callbacks ∨ l.FitsAt stage f c
  cancels : x.cancels ≤ x'.cancels
  must : x'.mustCancel = true → x.mustCancel = true ∨ 0 < x'.cancels
  awaits : ∀ i, x'.awaiting = some (.waiter i) → x.awaiting = some (.waiter i) ∨
    (i < l.waiters.size ∧ ∀ g r, l.stageOf stage g = .racing r → r.waiter = i → g = f)

theorem onward_modifyFuture {f : FutureId} {g : Future κ ν ε γ → Future κ ν ε γ}
    (h : ∀ x, l.future? f = some x → Rewires stage l f x (g x)) :
    Onward stage l (l.modifyFuture f g) where
  size := by simp [Loops.modifyFuture]
  stages k := by
    rw [stageOf_modifyFuture]
    split
    next same =>
      subst same
      rw [stageOf]
      cases hx : l.future? f with
      | none => exact .inl rfl
      | some x => exact (h x hx).stages
    next => exact .inl rfl
  loopOf k := by
    rw [loopOf, future?_modifyFuture, loopOf]
    split
    next same =>
      subst same
      cases hx : l.future? f with
      | none => rfl
      | some x => exact (h x hx).loop
    next => rfl
  decided r := by
    refine Or.imp (fun done => ?_) id
    rw [isDone_eq] at done ⊢
    rw [future?_modifyFuture]
    split
    next same =>
      rw [← same] at done ⊢
      cases hx : l.future? f with
      | none =>
        rw [hx] at done
        cases done
      | some x =>
        rw [hx] at done
        exact (h x hx).done done
    next => exact done
  waiters i x hx := ⟨x, hx, id⟩

theorem cancels_modifyFuture {f : FutureId} {g : Future κ ν ε γ → Future κ ν ε γ}
    (h : ∀ x, l.future? f = some x → x.cancels ≤ (g x).cancels) (k : FutureId) :
    l.cancels k ≤ (l.modifyFuture f g).cancels k := by
  rw [cancels, cancels, future?_modifyFuture]
  split
  next same =>
    subst same
    cases hx : l.future? f with
    | none => exact Nat.le_refl _
    | some x => exact h x hx
  next => exact Nat.le_refl _

theorem Wired.modifyFuture (w : l.Wired stage) {f : FutureId}
    {g : Future κ ν ε γ → Future κ ν ε γ}
    (h : ∀ x, l.future? f = some x → Rewires stage l f x (g x)) :
    (l.modifyFuture f g).Wired stage := by
  have o : Onward stage l (l.modifyFuture f g) := onward_modifyFuture h
  have more := cancels_modifyFuture fun x hx => (h x hx).cancels
  refine
    { entries := fun n e member => o.fits (w.entries n e member)
      once := fun k ahead => ?_
      callbacks := fun k x hx c member => ?_
      latches := fun i x hx => ?_
      waiters := fun i x hx => ?_
      races := fun k r racing => ?_
      unique := fun k m r s hk hm => w.unique k m r s (o.racing hk) (o.racing hm)
      awaits := fun k i awaits => ?_
      must := fun k must => ?_ }
  · rw [o.loopOf k]
    exact w.once k (o.ahead ahead)
  · refine o.fitsAt ?_
    rw [future?_modifyFuture] at hx
    split at hx
    next same =>
      subst same
      obtain ⟨y, hy, rfl⟩ := Option.map_eq_some_iff.mp hx
      exact ((h y hy).callbacks c member).elim (w.callbacks f y hy c) id
    next => exact w.callbacks k x hx c member
  · have own := w.latches i x hx
    exact fun v member => ⟨(own v member).1, fun k r racing => (own v member).2 k r (o.racing racing)⟩
  · have own := w.waiters i x hx
    exact fun k member => ⟨Nat.lt_of_lt_of_le (own k member).1 o.size,
      fun ahead => (own k member).2.1 (o.ahead ahead),
      fun r racing => (own k member).2.2 r (o.racing racing)⟩
  · obtain ⟨x, hx, here, completed, cancelled⟩ := w.races k r (o.racing racing)
    exact ⟨x, hx, here.trans (o.loopOf k).symm, fun c => o.decided r (completed c),
      fun c => Nat.lt_of_lt_of_le (cancelled c) (more k)⟩
  · have before : i < l.waiters.size ∧ ∀ g r, l.stageOf stage g = .racing r → r.waiter = i → g = k := by
      rw [awaiting, future?_modifyFuture] at awaits
      split at awaits
      next same =>
        subst same
        cases hx : l.future? f with
        | none =>
          rw [hx] at awaits
          cases awaits
        | some x =>
          rw [hx] at awaits
          refine ((h x hx).awaits i awaits).elim (fun old => w.awaits f i ?_) id
          rw [awaiting, hx]
          exact old
      next => exact w.awaits k i awaits
    exact ⟨before.1, fun m r racing => before.2 m r (o.racing racing)⟩
  · rw [mustCancel, future?_modifyFuture] at must
    split at must
    next same =>
      subst same
      cases hx : l.future? f with
      | none =>
        rw [hx] at must
        cases must
      | some x =>
        rw [hx] at must
        rcases (h x hx).must must with before | enough
        · have old := w.must f (by rw [mustCancel, hx]; exact before)
          exact Nat.lt_of_lt_of_le old (more f)
        · rw [cancels, future?_modifyFuture, if_pos rfl, hx]
          exact enough
    next => exact Nat.lt_of_lt_of_le (w.must k must) (more k)

/-! Ending futures. -/

theorem FitsAt.handle {k : FutureId} {c : Callback γ} (fits : l.FitsAt stage k c)
    (done : l.isDone k = true) (n : Nat) : l.Fits stage n (c.handle k) := by
  cases c with
  | wake f => exact ⟨fits.1, fits.2.1, fun r racing => absurd racing (fits.2.2 r)⟩
  | complete i => exact ⟨fits.1, fun f r racing same => .inl (fits.2 f r racing same ▸ done)⟩
  | other a => trivial

theorem isTurnOf_handle (k : FutureId) (c : Callback γ) (f : FutureId) :
    (c.handle k : Handle ε γ).isTurnOf f = false := by cases c <;> rfl

namespace Wired

theorem settle (w : l.Wired stage) (f : FutureId) {o : Outcome ν ε} (ended : o.isDone = true) :
    (l.settle f o).Wired stage := by
  unfold Loops.settle
  split
  next => exact w
  next x hx =>
    split
    next => exact w
    next =>
      have same (y : Future κ ν ε γ) (hy : l.future? f = some y) :
          Rewires stage l f y { y with outcome := o, callbacks := [] } :=
        { loop := rfl, done := fun _ => ended, callbacks := nofun, cancels := Nat.le_refl _
          must := .inl, awaits := fun _ => .inl
          stages := .inr (by rw [Future.stage, Future.body?, if_pos ended]; rfl) }
      have done : (l.modifyFuture f fun y => { y with outcome := o, callbacks := [] }).isDone f = true := by
        rw [isDone_eq, future?_modifyFuture, if_pos rfl, hx]
        exact ended
      refine (w.modifyFuture same).soonWakes (fun h member => ?_) fun h member g => ?_
      · obtain ⟨c, mine, rfl⟩ := List.mem_map.mp member
        exact (((onward_modifyFuture same).fitsAt (w.callbacks f x hx c mine)).handle done _)
      · obtain ⟨c, _, rfl⟩ := List.mem_map.mp member
        exact isTurnOf_handle f c g

theorem settleOwn (w : l.Wired stage) (f : FutureId) {o : Outcome ν ε} (ended : o.isDone = true) :
    (l.settleOwn f o).Wired stage := by
  unfold Loops.settleOwn
  split
  · exact w.settle f ended
  · exact w

theorem addCallback (w : l.Wired stage) {f : FutureId} {c : Callback γ} (fits : l.FitsAt stage f c) :
    (l.addCallback f c).Wired stage := by
  unfold Loops.addCallback
  split
  next => exact w
  next x hx =>
    split
    next done =>
      have isDone : l.isDone f = true := by rw [isDone_eq, hx]; exact done
      refine w.soonWakes (fun h member => ?_) fun h member g => ?_
      · cases List.mem_singleton.mp member
        exact fits.handle isDone _
      · cases List.mem_singleton.mp member
        exact isTurnOf_handle f c g
    next =>
      refine w.modifyFuture fun y hy => ?_
      refine ⟨rfl, id, .inl rfl, fun d member => ?_, Nat.le_refl _, .inl, fun _ => .inl⟩
      exact (List.mem_append.mp member).imp id fun new => by
        cases List.mem_singleton.mp new
        exact fits

theorem modifyTask (w : l.Wired stage) {f : FutureId} {g : Task κ → Task κ}
    (body : ∀ t, (g t).body = t.body) (cancels : ∀ t, t.cancels ≤ (g t).cancels)
    (must : ∀ x t, l.future? f = some x → x.task = some t →
      (g t).mustCancel = true → t.mustCancel = true ∨ 0 < (g t).cancels)
    (awaits : ∀ t i, (g t).awaiting = some (.waiter i) → t.awaiting = some (.waiter i) ∨
      (i < l.waiters.size ∧ ∀ k r, l.stageOf stage k = .racing r → r.waiter = i → k = f)) :
    (l.modifyTask f g).Wired stage := by
  refine w.modifyFuture fun x hx => ?_
  have same : Future.body? { x with task := x.task.map g } = x.body? := by
    cases ht : x.task <;> simp [Future.body?, ht, body]
  refine ⟨rfl, id, .inl (by rw [Future.stage, same, Future.stage]), fun _ => .inl, ?_, ?_, fun i => ?_⟩
  · cases ht : x.task <;> simp [Future.cancels, ht, cancels]
  · cases ht : x.task with
    | none => exact fun h => by simp [Future.mustCancel] at h
    | some t => simpa [Future.mustCancel, Future.cancels, ht] using must x t hx ht
  · cases ht : x.task with
    | none => exact fun h => by simp [Future.awaiting] at h
    | some t => simpa [Future.awaiting, ht] using awaits t i

end Wired

/-! Latches and waiters. -/

theorem latch?_modifyLatch (l : Loops κ ν ε γ) (i : LatchId) (g : Latch ε → Latch ε) (k : LatchId) :
    (l.modifyLatch i g).latch? k = if i = k then (l.latch? k).map g else l.latch? k :=
  Array.getElem?_modify ..

theorem waiter?_modifyWaiter (l : Loops κ ν ε γ) (i : WaiterId) (g : Waiter → Waiter) (k : WaiterId) :
    (l.modifyWaiter i g).waiter? k = if i = k then (l.waiter? k).map g else l.waiter? k :=
  Array.getElem?_modify ..

theorem lt_size_of_waiter? {i : WaiterId} {x : Waiter} (h : l.waiter? i = some x) :
    i < l.waiters.size := (Array.getElem?_eq_some_iff.mp h).1

theorem onward_modifyLatch {i : LatchId} {g : Latch ε → Latch ε}
    (done : ∀ x, x.outcome.isDone = true → (g x).outcome.isDone = true) :
    Onward stage l (l.modifyLatch i g) where
  size := Nat.le_refl _
  stages _ := .inl rfl
  loopOf _ := rfl
  decided r := by
    refine Or.imp id fun before => ?_
    rw [latchDone_eq] at before ⊢
    rw [latch?_modifyLatch]
    split
    next same =>
      rw [← same] at before ⊢
      cases hx : l.latch? i with
      | none =>
        rw [hx] at before
        cases before
      | some x =>
        rw [hx] at before
        exact done x before
    next => exact before
  waiters _ x hx := ⟨x, hx, id⟩

namespace Wired

theorem modifyLatch (w : l.Wired stage) {i : LatchId} {g : Latch ε → Latch ε}
    (done : ∀ x, x.outcome.isDone = true → (g x).outcome.isDone = true)
    (own : ∀ x, ∀ v ∈ (g x).waiters, v ∈ x.waiters ∨ (v < l.waiters.size ∧
      ∀ f r, l.stageOf stage f = .racing r → r.waiter = v → r.signal = i)) :
    (l.modifyLatch i g).Wired stage := by
  have o : Onward stage l (l.modifyLatch i g) := onward_modifyLatch done
  refine
    { w with
      entries := fun n h member => o.fits (w.entries n h member)
      callbacks := fun k x hx c member => o.fitsAt (w.callbacks k x hx c member)
      latches := fun k x hx => ?_
      races := fun f r racing => ?_ }
  · rw [latch?_modifyLatch] at hx
    split at hx
    next same =>
      obtain ⟨y, hy, rfl⟩ := Option.map_eq_some_iff.mp hx
      exact fun v member => (own y v member).elim (w.latches k y hy v) (same ▸ id)
    next => exact w.latches k x hx
  · obtain ⟨x, hx, here, completed, cancelled⟩ := w.races f r racing
    exact ⟨x, hx, here, fun c => o.decided r (completed c), cancelled⟩

theorem settleLatch (w : l.Wired stage) (i : LatchId) {o : Outcome Unit ε}
    (ended : o.isDone = true) : (l.settleLatch i o).Wired stage := by
  unfold Loops.settleLatch
  split
  next => exact w
  next x hx =>
    split
    next => exact w
    next =>
      have fired : (l.modifyLatch i fun x => { x with outcome := o, waiters := [] }).Wired stage :=
        w.modifyLatch (fun _ _ => ended) fun _ _ => nofun
      refine fired.soonWakes (fun h member => ?_) fun h member g => ?_
      · obtain ⟨v, mine, rfl⟩ := List.mem_map.mp member
        obtain ⟨lt, own⟩ := w.latches i x hx v mine
        refine ⟨lt, fun f r racing same => .inr ?_⟩
        rw [own f r racing same, latchDone_eq, latch?_modifyLatch, if_pos rfl, hx]
        exact ended
      · obtain ⟨v, _, rfl⟩ := List.mem_map.mp member
        rfl

theorem watchLatch (w : l.Wired stage) {i : LatchId} {v : WaiterId} (lt : v < l.waiters.size)
    (own : ∀ f r, l.stageOf stage f = .racing r → r.waiter = v → r.signal = i) :
    (l.watchLatch i v).Wired stage := by
  unfold Loops.watchLatch
  split
  next => exact w
  next x hx =>
    split
    next done =>
      refine w.soonWakes (fun h member => ?_) fun h member g => ?_
      · cases List.mem_singleton.mp member
        refine ⟨lt, fun f r racing same => .inr ?_⟩
        rw [own f r racing same, latchDone_eq, hx]
        exact done
      · cases List.mem_singleton.mp member
        rfl
    next =>
      refine w.modifyLatch (fun _ => id) fun y u member => ?_
      exact (List.mem_append.mp member).imp id fun new => by
        cases List.mem_singleton.mp new
        exact ⟨lt, own⟩

end Wired

theorem onward_modifyWaiter {i : WaiterId} {g : Waiter → Waiter}
    (done : ∀ x, x.state ≠ .pending → (g x).state ≠ .pending) :
    Onward stage l (l.modifyWaiter i g) where
  size := Nat.le_refl _
  stages _ := .inl rfl
  loopOf _ := rfl
  decided _ := id
  waiters k x hx := by
    refine ⟨if i = k then g x else x, ?_, ?_⟩
    · rw [waiter?_modifyWaiter, hx]
      split <;> rfl
    · split
      · exact done x
      · exact id

namespace Wired

theorem modifyWaiter (w : l.Wired stage) {i : WaiterId} {g : Waiter → Waiter}
    (loop : ∀ x, (g x).loop = x.loop)
    (done : ∀ x, x.state ≠ .pending → (g x).state ≠ .pending)
    (completed : ∀ x, l.waiter? i = some x → (g x).state = .completed → x.state = .completed ∨
      ∀ f r, l.stageOf stage f = .racing r → r.waiter = i → l.Decided r)
    (cancelled : ∀ x, l.waiter? i = some x → (g x).state = .cancelled → x.state = .cancelled ∨
      ∀ f r, l.stageOf stage f = .racing r → r.waiter = i → 0 < l.cancels f)
    (tasks : ∀ x, ∀ f ∈ (g x).tasks, f ∈ x.tasks ∨ (f < l.futures.size ∧ l.stageOf stage f ≠ .ahead ∧
      ∀ r, l.stageOf stage f = .racing r → r.waiter = i)) :
    (l.modifyWaiter i g).Wired stage := by
  have o : Onward stage l (l.modifyWaiter i g) := onward_modifyWaiter done
  refine
    { w with
      entries := fun n h member => o.fits (w.entries n h member)
      callbacks := fun k x hx c member => o.fitsAt (w.callbacks k x hx c member)
      latches := fun k x hx => ?_
      waiters := fun k x hx => ?_
      races := fun f r racing => ?_
      awaits := fun f k awaits => ?_ }
  · have own := w.latches k x hx
    exact fun v member => ⟨o.lt_waiters (own v member).1, (own v member).2⟩
  · rw [waiter?_modifyWaiter] at hx
    split at hx
    next same =>
      obtain ⟨y, hy, rfl⟩ := Option.map_eq_some_iff.mp hx
      exact fun f member => (tasks y f member).elim (w.waiters k y hy f) (same ▸ id)
    next => exact w.waiters k x hx
  · obtain ⟨x, hx, here, decided, counted⟩ := w.races f r racing
    refine ⟨if i = r.waiter then g x else x, ?_, ?_, fun c => ?_, fun c => ?_⟩
    · rw [waiter?_modifyWaiter, hx]
      split <;> rfl
    · split
      · exact (loop x).trans here
      · exact here
    · split at c
      next same =>
        exact (completed x (same ▸ hx) c).elim decided fun all => all f r racing same.symm
      next => exact decided c
    · split at c
      next same =>
        exact (cancelled x (same ▸ hx) c).elim counted fun all => all f r racing same.symm
      next => exact counted c
  · obtain ⟨lt, own⟩ := w.awaits f k awaits
    exact ⟨o.lt_waiters lt, own⟩

theorem settleWaiter (w : l.Wired stage) (i : WaiterId) {state : WaiterState}
    (ended : state ≠ .pending)
    (completed : state = .completed →
      ∀ f r, l.stageOf stage f = .racing r → r.waiter = i → l.Decided r)
    (cancelled : state = .cancelled →
      ∀ f r, l.stageOf stage f = .racing r → r.waiter = i → 0 < l.cancels f) :
    (l.settleWaiter i state).2.Wired stage := by
  unfold Loops.settleWaiter
  split
  next => exact w
  next x hx =>
    split
    next =>
      have settled : (l.modifyWaiter i fun x => { x with state, tasks := [] }).Wired stage :=
        w.modifyWaiter (fun _ => rfl) (fun _ _ => ended) (fun _ _ c => .inr (completed c))
          (fun _ _ c => .inr (cancelled c)) fun _ _ => nofun
      refine settled.soonWakes (fun h member => ?_) fun h member g => ?_
      · obtain ⟨t, mine, rfl⟩ := List.mem_map.mp member
        obtain ⟨lt, begun, own⟩ := w.waiters i x hx t mine
        refine ⟨lt, begun, fun r racing => ?_⟩
        obtain rfl := own r racing
        obtain ⟨y, hy, here, _⟩ := w.races t r racing
        obtain rfl := Option.some.inj (hy.symm.trans hx)
        refine ⟨rfl, here, { y with state, tasks := [] }, ?_, ended⟩
        rw [waiter?_modifyWaiter, if_pos rfl, hx]
        rfl
      · obtain ⟨t, _, rfl⟩ := List.mem_map.mp member
        rfl
    next => exact w

theorem watchWaiter (w : l.Wired stage) {i : WaiterId} {f : FutureId} (lt : f < l.futures.size)
    (begun : l.stageOf stage f ≠ .ahead)
    (own : ∀ r, l.stageOf stage f = .racing r → r.waiter = i) :
    (l.watchWaiter i f).Wired stage := by
  unfold Loops.watchWaiter
  split
  next => exact w
  next x hx =>
    split
    next =>
      refine w.modifyWaiter (fun _ => rfl) (fun _ => id) (fun _ _ => .inl) (fun _ _ => .inl)
        fun y g member => ?_
      exact (List.mem_append.mp member).imp id fun new => by
        cases List.mem_singleton.mp new
        exact ⟨lt, begun, own⟩
    next done =>
      refine w.soonWakes (fun h member => ?_) fun h member g => ?_
      · cases List.mem_singleton.mp member
        refine ⟨lt, begun, fun r racing => ?_⟩
        obtain ⟨y, hy, here, _⟩ := w.races f r racing
        obtain rfl : y = x := Option.some.inj (hy.symm.trans (own r racing ▸ hx))
        exact ⟨by rw [own r racing], here, y, hy, done⟩
      · cases List.mem_singleton.mp member
        rfl

end Wired

end Loops

end Notebook.Loop
