import Notebook.Proofs.RaceWiring

/-! What leaves the signals of races and the loop in use alone: everything but an interrupt, a race that
begins and a fresh loop. -/

set_option autoImplicit false

namespace Notebook.Loop.Loops

variable {κ ν ε γ : Type} {stage : κ → Stage} {l l' l'' : Loops κ ν ε γ}

/-- A change that keeps the loop in use, and everything on its loop. -/
structure Frame (l l' : Loops κ ν ε γ) : Prop where
  size : l.futures.size ≤ l'.futures.size
  homes : ∀ f, f < l.futures.size → l'.loopOf f = l.loopOf f
  current : l'.current = l.current
  queues : l'.queues.size = l.queues.size
  closed : ∀ n, l'.isClosed n = l.isClosed n

structure Tame (stage : κ → Stage) (l l' : Loops κ ν ε γ) : Prop extends Frame l l' where
  stages : ∀ f, f < l.futures.size → l'.stageOf stage f = l.stageOf stage f ∨ l'.stageOf stage f = .plain
  fresh : ∀ f r, l.futures.size ≤ f → l'.stageOf stage f ≠ .racing r

structure Calm (stage : κ → Stage) (l l' : Loops κ ν ε γ) : Prop extends Tame stage l l' where
  signals : ∀ i x, l.latch? i = some x →
    ∃ x', l'.latch? i = some x' ∧ x'.outcome = x.outcome ∧ x'.loop = x.loop

theorem stageOf_out {f : FutureId} (out : l.futures.size ≤ f) : l.stageOf stage f = .plain := by
  rw [stageOf, future?, Array.getElem?_eq_none out]
  rfl

namespace Frame

theorem refl (l : Loops κ ν ε γ) : l.Frame l := ⟨Nat.le_refl _, fun _ _ => rfl, rfl, rfl, fun _ => rfl⟩

theorem trans (h : l.Frame l') (h' : l'.Frame l'') : l.Frame l'' where
  size := Nat.le_trans h.size h'.size
  homes f lt := (h'.homes f (Nat.lt_of_lt_of_le lt h.size)).trans (h.homes f lt)
  current := h'.current.trans h.current
  queues := h'.queues.trans h.queues
  closed n := (h'.closed n).trans (h.closed n)

theorem aside (futures : l'.futures = l.futures) (current : l'.current = l.current)
    (queues : l'.queues.size = l.queues.size) (closed : ∀ n, l'.isClosed n = l.isClosed n) :
    l.Frame l' where
  size := Nat.le_of_eq (congrArg Array.size futures.symm)
  homes f _ := by rw [loopOf, future?, futures, loopOf, future?]
  current := current
  queues := queues
  closed := closed

theorem modifyFuture (l : Loops κ ν ε γ) (f : FutureId) {g : Future κ ν ε γ → Future κ ν ε γ}
    (home : ∀ x, (g x).loop = x.loop) : l.Frame (l.modifyFuture f g) where
  size := Nat.le_of_eq Array.size_modify.symm
  homes k _ := by
    rw [loopOf, future?_modifyFuture, loopOf]
    split
    · cases l.future? k with
      | none => rfl
      | some x => exact home x
    · rfl
  current := rfl
  queues := rfl
  closed _ := rfl

theorem push (l : Loops κ ν ε γ) (x : Future κ ν ε γ) : l.Frame { l with futures := l.futures.push x } where
  size := Nat.le_trans (Nat.le_succ _) (Nat.le_of_eq (Array.size_push _).symm)
  homes f lt := by rw [loopOf, future?_push, if_neg (Nat.ne_of_lt lt), loopOf]
  current := rfl
  queues := rfl
  closed _ := rfl

end Frame

namespace Tame

theorem refl (l : Loops κ ν ε γ) : l.Tame stage l :=
  { Frame.refl l with
    stages := fun _ _ => .inl rfl
    fresh := fun _ _ out h => nomatch (stageOf_out out).symm.trans h }

theorem trans (h : l.Tame stage l') (h' : l'.Tame stage l'') : l.Tame stage l'' :=
  { h.toFrame.trans h'.toFrame with
    stages := fun f lt => by
      rcases h'.stages f (Nat.lt_of_lt_of_le lt h.size) with same | plain
      · exact same ▸ h.stages f lt
      · exact .inr plain
    fresh := fun f r out => by
      by_cases there : f < l'.futures.size
      · rcases h'.stages f there with same | plain
        · exact same ▸ h.fresh f r out
        · exact fun racing => nomatch plain.symm.trans racing
      · exact h'.fresh f r (Nat.not_lt.mp there) }

theorem racing (h : l.Tame stage l') {f : FutureId} {r : Race} (racing : l'.stageOf stage f = .racing r) :
    l.stageOf stage f = .racing r := by
  by_cases lt : f < l.futures.size
  · exact (h.stages f lt).elim (fun same => same ▸ racing) fun plain => nomatch plain.symm.trans racing
  · exact absurd racing (h.fresh f r (Nat.not_lt.mp lt))

theorem aside (futures : l'.futures = l.futures) (current : l'.current = l.current)
    (queues : l'.queues.size = l.queues.size) (closed : ∀ n, l'.isClosed n = l.isClosed n) :
    l.Tame stage l' := by
  obtain ⟨futures', latches', waiters', queues', current', running'⟩ := l'
  subst futures current
  exact ⟨.aside rfl rfl queues closed, fun _ _ => .inl rfl, (refl l).fresh⟩

end Tame

namespace Calm

theorem refl (l : Loops κ ν ε γ) : l.Calm stage l :=
  { Tame.refl l with signals := fun _ x hx => ⟨x, hx, rfl, rfl⟩ }

theorem trans (h : l.Calm stage l') (h' : l'.Calm stage l'') : l.Calm stage l'' :=
  { h.toTame.trans h'.toTame with
    signals := fun i x hx => by
      obtain ⟨y, hy, outcome, loop⟩ := h.signals i x hx
      obtain ⟨z, hz, outcome', loop'⟩ := h'.signals i y hy
      exact ⟨z, hz, outcome'.trans outcome, loop'.trans loop⟩ }

/-! Changes of one thing. -/

theorem aside (futures : l'.futures = l.futures) (latches : l'.latches = l.latches)
    (current : l'.current = l.current) (queues : l'.queues.size = l.queues.size)
    (closed : ∀ n, l'.isClosed n = l.isClosed n) : l.Calm stage l' :=
  { Tame.aside futures current queues closed with
    signals := fun i x hx => ⟨x, by rw [latch?, latches]; exact hx, rfl, rfl⟩ }

theorem modifyQueue (l : Loops κ ν ε γ) (n : Nat) {g : Queue ε γ → Queue ε γ}
    (open_ : ∀ q, (g q).isClosed = q.isClosed) : l.Calm stage (l.modifyQueue n g) := by
  refine aside rfl rfl rfl Array.size_modify fun m => ?_
  have found : (l.modifyQueue n g).queues[m]? = if n = m then l.queues[m]?.map g else l.queues[m]? :=
    Array.getElem?_modify ..
  rw [isClosed, found, isClosed]
  split
  · cases l.queues[m]? with
    | none => rfl
    | some q => exact open_ q
  · rfl

theorem soonAll (l : Loops κ ν ε γ) (n : Nat) (hs : List (Handle ε γ)) : l.Calm stage (l.soonAll n hs) :=
  modifyQueue l n fun _ => rfl

theorem soon (l : Loops κ ν ε γ) (n : Nat) (h : Handle ε γ) : l.Calm stage (l.soon n h) :=
  modifyQueue l n fun _ => rfl

theorem modifyFuture (l : Loops κ ν ε γ) {f : FutureId} {g : Future κ ν ε γ → Future κ ν ε γ}
    (home : ∀ x, (g x).loop = x.loop)
    (h : ∀ x, l.future? f = some x → (g x).stage stage = x.stage stage ∨ (g x).stage stage = .plain) :
    l.Calm stage (l.modifyFuture f g) :=
  { Frame.modifyFuture l f home with
    stages := fun k _ => by
      rw [stageOf_modifyFuture]
      split
      next same =>
        subst same
        rw [stageOf]
        cases hx : l.future? f with
        | none => exact .inl rfl
        | some x => exact h x hx
      next => exact .inl rfl
    fresh := fun k r out racing => by
      rw [stageOf_out (Nat.le_trans (Nat.le_of_eq Array.size_modify) out)] at racing
      cases racing
    signals := fun _ x hx => ⟨x, hx, rfl, rfl⟩ }

theorem modifyTask (l : Loops κ ν ε γ) (f : FutureId) {g : Task κ → Task κ}
    (body : ∀ t, (g t).body = t.body) : l.Calm stage (l.modifyTask f g) := by
  refine modifyFuture l (fun _ => rfl) fun x _ => .inl ?_
  unfold Future.stage Future.body?
  cases x.task <;> simp [body]

theorem push (l : Loops κ ν ε γ) {x : Future κ ν ε γ} (stages : ∀ r, x.stage stage ≠ .racing r) :
    l.Calm stage { l with futures := l.futures.push x } :=
  { Frame.push l x with
    stages := fun f lt => .inl (by rw [stageOf, future?_push, if_neg (Nat.ne_of_lt lt), stageOf])
    fresh := fun f r out racing => by
      rw [stageOf, future?_push] at racing
      split at racing
      · exact stages r racing
      · exact (refl l).fresh f r out racing
    signals := fun _ x hx => ⟨x, hx, rfl, rfl⟩ }

theorem modifyLatch (l : Loops κ ν ε γ) (i : LatchId) {g : Latch ε → Latch ε}
    (same : ∀ x, (g x).outcome = x.outcome ∧ (g x).loop = x.loop) : l.Calm stage (l.modifyLatch i g) :=
  { refl l with
    signals := fun k x hx => by
      rw [latch?_modifyLatch, hx]
      split
      · exact ⟨g x, rfl, same x⟩
      · exact ⟨x, rfl, rfl, rfl⟩ }

theorem newLatch (l : Loops κ ν ε γ) : l.Calm stage l.newLatch.2 :=
  { refl l with
    signals := fun i x hx => by
      rw [latch?_newLatch, if_neg (Nat.ne_of_lt (Array.getElem?_eq_some_iff.mp hx).1)]
      exact ⟨x, hx, rfl, rfl⟩ }

/-! Operations. -/

theorem create (l : Loops κ ν ε γ) : l.Calm stage l.create.2 := push l nofun

theorem spawn (l : Loops κ ν ε γ) {body : Option κ} (fresh : ∀ b r, body = some b → stage b ≠ .racing r) :
    l.Calm stage (l.spawn body).2 := by
  refine .trans (push l fun r => ?_) (soon _ _ _)
  cases body with
  | none => exact nofun
  | some b => exact fresh b r rfl

theorem addCallback (l : Loops κ ν ε γ) (f : FutureId) (c : Callback γ) :
    l.Calm stage (l.addCallback f c) := by
  unfold Loops.addCallback
  split
  · exact refl l
  · split
    · exact soon ..
    · exact modifyFuture l (fun _ => rfl) fun _ _ => .inl rfl

theorem settle (l : Loops κ ν ε γ) (f : FutureId) {o : Outcome ν ε} (ended : o.isDone = true) :
    l.Calm stage (l.settle f o) := by
  unfold Loops.settle
  split
  · exact refl l
  · split
    · exact refl l
    · refine .trans ?_ (soonAll _ _ _)
      refine modifyFuture l (fun _ => rfl) fun x _ => .inr ?_
      rw [Future.stage, Future.body?, if_pos ended]
      rfl

theorem settleOwn (l : Loops κ ν ε γ) (f : FutureId) {o : Outcome ν ε} (ended : o.isDone = true) :
    l.Calm stage (l.settleOwn f o) := by
  unfold Loops.settleOwn
  split
  · exact settle l f ended
  · exact refl l

theorem modifyWaiter (l : Loops κ ν ε γ) (i : WaiterId) (g : Waiter → Waiter) :
    l.Calm stage (l.modifyWaiter i g) := aside rfl rfl rfl rfl fun _ => rfl

theorem settleWaiter (l : Loops κ ν ε γ) (i : WaiterId) (state : WaiterState) :
    l.Calm stage (l.settleWaiter i state).2 := by
  unfold Loops.settleWaiter
  split
  · exact refl l
  · split
    · exact (modifyWaiter l i _).trans (soonAll _ _ _)
    · exact refl l

theorem handOn (l : Loops κ ν ε γ) {cancel : FutureId → Loops κ ν ε γ → Request × Loops κ ν ε γ}
    (keeps : ∀ f (l : Loops κ ν ε γ), l.Calm stage (cancel f l).2) (what : Option Awaited) :
    l.Calm stage (l.handOn cancel what).2 := by
  unfold Loops.handOn
  split
  · exact refl l
  · exact keeps _ l
  · exact settleWaiter ..

theorem handOnAll {cancel : FutureId → Loops κ ν ε γ → Request × Loops κ ν ε γ}
    (keeps : ∀ f (l : Loops κ ν ε γ), l.Calm stage (cancel f l).2) (ms : List FutureId) (l : Loops κ ν ε γ) :
    l.Calm stage (Loops.handOnAll cancel ms l).2 := by
  induction ms generalizing l with
  | nil => exact refl l
  | cons m ms rest =>
    have asked := keeps m l
    rw [Loops.handOnAll]
    split <;> rename_i answer <;> rw [answer] at asked
    · exact asked
    · exact asked.trans (rest _)
    · exact asked.trans (rest _)

theorem cancelWithin (room : Nat) (f : FutureId) (l : Loops κ ν ε γ) :
    l.Calm stage (Loops.cancelWithin room f l).2 := by
  induction room generalizing f l with
  | zero => exact refl l
  | succ room ih =>
    unfold Loops.cancelWithin
    split
    next => exact refl l
    next x _ =>
      split
      · exact refl l
      · split
        · split
          · exact settle l f rfl
          · have handed := handOnAll ih x.members l
            dsimp only
            split
            · exact handed.trans (modifyFuture _ (fun _ => rfl) fun _ _ => .inl rfl)
            · exact handed
        next t _ =>
          have counted : l.Calm stage (l.modifyTask f fun t => { t with cancels := t.cancels + 1 }) :=
            modifyTask l f fun _ => rfl
          have handed := counted.trans (handOn _ ih t.awaiting)
          dsimp only
          split
          · exact handed.trans (modifyTask _ f fun _ => rfl)
          · exact handed

theorem cancel (l : Loops κ ν ε γ) (f : FutureId) : l.Calm stage (l.cancel f).2 := cancelWithin _ f l

theorem take {h : Handle ε γ} (taken : l.take? = some (h, l')) : l.Calm stage l' := by
  unfold Loops.take? at taken
  split at taken
  · cases taken
  · split at taken
    · cases taken
      exact modifyQueue l _ fun _ => rfl
    · split at taken
      · cases taken
      · cases taken
        exact modifyQueue l _ fun _ => rfl

theorem takeSignal (l : Loops κ ν ε γ) (f : FutureId) (s : Signal ε) :
    l.Calm stage (l.takeSignal f s).2 := by
  unfold Loops.takeSignal
  split
  · exact refl l
  · exact modifyTask l f fun _ => rfl

theorem watch (l : Loops κ ν ε γ) (what : Awaited) (f : FutureId) : l.Calm stage (l.watch what f) := by
  cases what with
  | future g => exact addCallback ..
  | waiter i =>
    change l.Calm stage (l.watchWaiter i f)
    unfold Loops.watchWaiter
    split
    · exact refl l
    · split
      · exact modifyWaiter ..
      · exact soon ..

theorem await (l : Loops κ ν ε γ) (f : FutureId) (what : Awaited) : l.Calm stage (l.await f what) := by
  have waits : l.Calm stage ((l.watch what f).modifyTask f fun t => { t with awaiting := some what }) :=
    (watch l what f).trans (modifyTask _ f fun _ => rfl)
  unfold Loops.await
  dsimp only
  split
  · split
    · have handed : Calm stage _ _ :=
        handOn ((l.watch what f).modifyTask f fun t => { t with awaiting := some what })
          (fun g l => cancel l g) (some what)
      split
      · exact (waits.trans handed).trans (modifyTask _ f fun _ => rfl)
      · exact waits.trans handed
    · exact waits
  · exact waits

theorem finish (l : Loops κ ν ε γ) (f : FutureId) {o : Outcome ν ε} (ended : o.isDone = true) :
    l.Calm stage (l.finish f o) := by
  unfold Loops.finish
  dsimp only
  split
  · split
    · refine .trans ?_ (settle _ f rfl)
      exact modifyTask l f fun _ => rfl
    · exact settle l f rfl
  · exact settle l f ended

theorem goesOn (l : Loops κ ν ε γ) (f : FutureId) {b : κ} (plain : stage b = .plain) :
    l.Calm stage (l.modifyTask f fun t => { t with body := some b }) := by
  refine modifyFuture l (fun _ => rfl) fun x _ => .inr ?_
  unfold Future.stage Future.body?
  cases x.outcome.isDone with
  | true => rfl
  | false => cases x.task <;> simp [plain]

theorem armed (l : Loops κ ν ε γ) (c : Controller) : l.Calm stage (c.current l).2.2 := by
  rcases current_cases c l with ⟨same, _⟩ | ⟨new, _⟩
  · rw [same]
    exact refl l
  · rw [new]
    exact newLatch l

theorem watchLatch (l : Loops κ ν ε γ) (i : LatchId) (v : WaiterId) : l.Calm stage (l.watchLatch i v) := by
  unfold Loops.watchLatch
  split
  · exact refl l
  · split
    · exact soon ..
    · exact modifyLatch l i fun _ => ⟨rfl, rfl⟩

theorem begin (l : Loops κ ν ε γ) (task : FutureId) (c : Controller) :
    l.Calm stage (Race.begin task c l).2.2 := by
  have ready : l.Calm stage (c.current l).2.2 := armed l c
  have waits : (c.current l).2.2.Calm stage (c.current l).2.2.newWaiter.2 := aside rfl rfl rfl rfl fun _ => rfl
  exact ((ready.trans waits).trans (addCallback _ _ _)).trans (watchLatch _ _ _)

theorem release (l : Loops κ ν ε γ) (r : Race) : l.Calm stage (r.release l) := by
  refine .trans ?_ (modifyLatch _ _ fun _ => ⟨rfl, rfl⟩)
  exact modifyFuture l (fun _ => rfl) fun _ _ => .inl rfl

theorem decide (l : Loops κ ν ε γ) (r : Race) : l.Calm stage (r.decide l).2 := by
  have released : l.Calm stage (r.release l) := release l r
  unfold Race.decide
  dsimp only
  split
  · exact released
  · exact released
  · exact released
  · split
    · exact released.trans (cancel _ _)
    · split <;> exact released.trans (cancel _ _)

theorem abandon (l : Loops κ ν ε γ) (r : Race) : l.Calm stage (r.abandon l).2 :=
  (release l r).trans (cancel _ _)

end Calm

end Notebook.Loop.Loops
