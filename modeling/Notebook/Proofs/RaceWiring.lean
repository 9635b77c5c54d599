import Notebook.Proofs.Wiring

set_option autoImplicit false

namespace Notebook.Loop.Loops

variable {κ ν ε γ : Type} {stage : κ → Stage} {l l' : Loops κ ν ε γ}

/-! Cancelling. -/

/-- A change that keeps loops wired and takes no request to cancel back. -/
def Rewired (stage : κ → Stage) (l l' : Loops κ ν ε γ) : Prop :=
  l'.Wired stage ∧ ∀ f, l.cancels f ≤ l'.cancels f

theorem cancels_settle (l : Loops κ ν ε γ) (f : FutureId) (o : Outcome ν ε) (k : FutureId) :
    l.cancels k ≤ (l.settle f o).cancels k := by
  unfold settle
  split
  · exact Nat.le_refl _
  · split
    · exact Nat.le_refl _
    · exact cancels_modifyFuture (g := fun x => { x with outcome := o, callbacks := [] })
        (fun _ _ => Nat.le_refl _) k

theorem cancels_settleWaiter (l : Loops κ ν ε γ) (i : WaiterId) (state : WaiterState) (k : FutureId) :
    (l.settleWaiter i state).2.cancels k = l.cancels k := by
  unfold settleWaiter
  split
  · rfl
  · split <;> rfl

namespace Rewired

theorem trans {l'' : Loops κ ν ε γ} (h : Rewired stage l l') (h' : Rewired stage l' l'') :
    Rewired stage l l'' := ⟨h'.1, fun f => Nat.le_trans (h.2 f) (h'.2 f)⟩

theorem handOn (w : l.Wired stage) {cancel : FutureId → Loops κ ν ε γ → Request × Loops κ ν ε γ}
    (keeps : ∀ f (l : Loops κ ν ε γ), l.Wired stage → Rewired stage l (cancel f l).2)
    {f : FutureId} {what : Option Awaited}
    (mine : ∀ i, what = some (.waiter i) → l.awaiting f = some (.waiter i))
    (counted : 0 < l.cancels f) : Rewired stage l (l.handOn cancel what).2 := by
  unfold Loops.handOn
  split
  next => exact ⟨w, fun _ => Nat.le_refl _⟩
  next g => exact keeps g l w
  next i =>
    refine ⟨w.settleWaiter i nofun nofun fun _ g r racing same => ?_,
      fun k => Nat.le_of_eq (cancels_settleWaiter l i .cancelled k).symm⟩
    obtain rfl := (w.awaits f i (mine i rfl)).2 g r racing same
    exact counted

theorem askLater (w : l.Wired stage) {f : FutureId} (counted : 0 < l.cancels f) :
    Rewired stage l (l.modifyTask f fun t => { t with mustCancel := true }) := by
  refine ⟨w.modifyTask (fun _ => rfl) (fun _ => Nat.le_refl _) (fun x t hx ht _ => .inr ?_) fun _ _ => .inl,
    cancels_modifyFuture fun x _ => ?_⟩
  · rw [cancels, hx, Option.elim_some, Future.cancels, ht] at counted
    exact counted
  · cases ht : x.task <;> simp [Future.cancels, ht]

theorem handOnAll {cancel : FutureId → Loops κ ν ε γ → Request × Loops κ ν ε γ}
    (keeps : ∀ f (l : Loops κ ν ε γ), l.Wired stage → Rewired stage l (cancel f l).2) (ms : List FutureId)
    (l : Loops κ ν ε γ) (w : l.Wired stage) : Rewired stage l (Loops.handOnAll cancel ms l).2 := by
  induction ms generalizing l with
  | nil => exact ⟨w, fun _ => Nat.le_refl _⟩
  | cons m ms rest =>
    have asked := keeps m l w
    rw [Loops.handOnAll]
    split <;> rename_i answer <;> rw [answer] at asked
    · exact asked
    · exact asked.trans (rest _ asked.1)
    · exact asked.trans (rest _ asked.1)

theorem cancelWithin (room : Nat) (f : FutureId) (l : Loops κ ν ε γ) (w : l.Wired stage) :
    Rewired stage l (Loops.cancelWithin room f l).2 := by
  induction room generalizing f l with
  | zero => exact ⟨w, fun _ => Nat.le_refl _⟩
  | succ room ih =>
    unfold Loops.cancelWithin
    split
    next => exact ⟨w, fun _ => Nat.le_refl _⟩
    next x hx =>
      split
      next => exact ⟨w, fun _ => Nat.le_refl _⟩
      next =>
        split
        next =>
          split
          next => exact ⟨w.settle f rfl, cancels_settle l f _⟩
          next =>
            have all := handOnAll ih x.members l w
            dsimp only
            split
            next =>
              refine all.trans ⟨all.1.modifyFuture fun y _ => ?_, cancels_modifyFuture fun _ _ => Nat.le_refl _⟩
              exact ⟨rfl, id, .inl rfl, fun _ => .inl, Nat.le_refl _, .inl, fun _ => .inl⟩
            next => exact all
        next t ht =>
          have asked : Rewired stage l (l.modifyTask f fun t => { t with cancels := t.cancels + 1 }) := by
            refine ⟨w.modifyTask (fun _ => rfl) (fun _ => Nat.le_succ _) (fun _ _ _ _ => .inl) fun _ _ => .inl,
              cancels_modifyFuture fun y _ => ?_⟩
            cases hy : y.task <;> simp [Future.cancels, hy]
          have now : (l.modifyTask f fun t => { t with cancels := t.cancels + 1 }).future? f
              = some { x with task := some { t with cancels := t.cancels + 1 } } := by
            rw [modifyTask, future?_modifyFuture, if_pos rfl, hx, Option.map_some, ht]
            rfl
          have counted : 0 < (l.modifyTask f fun t => { t with cancels := t.cancels + 1 }).cancels f := by
            rw [cancels, now]
            exact Nat.succ_pos _
          have mine (i : WaiterId) (same : t.awaiting = some (.waiter i)) :
              (l.modifyTask f fun t => { t with cancels := t.cancels + 1 }).awaiting f
                = some (.waiter i) := by
            rw [awaiting, now]
            exact same
          have handed := handOn asked.1 (fun g l w => ih g l w) mine counted
          dsimp only
          split
          · exact (asked.trans handed).trans (askLater handed.1 (Nat.lt_of_lt_of_le counted (handed.2 f)))
          · exact asked.trans handed

theorem cancel (w : l.Wired stage) (f : FutureId) : Rewired stage l (l.cancel f).2 := cancelWithin _ f l w

end Rewired

/-! Things that come in. -/

def NoTurn (l : Loops κ ν ε γ) (f : FutureId) : Prop := ∀ n, ∀ h ∈ l.ready n, h.isTurnOf f = false

theorem ready_of_queues (same : l'.queues = l.queues) (n : Nat) : l'.ready n = l.ready n := by
  unfold ready
  rw [same]

inductive Takes (l : Loops κ ν ε γ) (h : Handle ε γ) (l' : Loops κ ν ε γ) : Prop where
  | entry (rest : List (Handle ε γ)) (first : l.ready l.current = h :: rest)
    (others : ∀ n, l'.ready n = if l.current = n then rest else l.ready n)
  | timer {f : FutureId} (expires : h = .expire f) (others : ∀ n, l'.ready n = l.ready n)

theorem takes {h : Handle ε γ} (taken : l.take? = some (h, l')) : l.Takes h l' := by
  unfold Loops.take? at taken
  split at taken
  next => cases taken
  next q hq =>
    split at taken
    next h' rest ready =>
      cases taken
      refine .entry rest ?_ fun n => ?_
      · rw [Loops.ready, hq]
        exact ready
      · rw [ready_modifyQueue]
        by_cases same : l.current = n
        · rw [if_pos same, if_pos same, ← same, hq]
          rfl
        · rw [if_neg same, if_neg same]
    next none =>
      split at taken
      next => cases taken
      next due f rest _ =>
        cases taken
        refine .timer rfl fun n => ?_
        rw [ready_modifyQueue]
        split
        · unfold Loops.ready
          cases l.queues[n]? <;> rfl
        · rfl

structure SameBut (l l' : Loops κ ν ε γ) : Prop where
  futures : l'.futures = l.futures
  latches : l'.latches = l.latches
  waiters : l'.waiters = l.waiters

theorem sameBut_take? {h : Handle ε γ} (taken : l.take? = some (h, l')) : l.SameBut l' := by
  unfold Loops.take? at taken
  split at taken
  · cases taken
  · split at taken
    · cases taken
      exact ⟨rfl, rfl, rfl⟩
    · split at taken
      · cases taken
      · cases taken
        exact ⟨rfl, rfl, rfl⟩

theorem reach_take? {h : Handle ε γ} (taken : l.take? = some (h, l')) : l'.reach = l.reach := by
  unfold Loops.take? at taken
  split at taken
  · cases taken
  · split at taken
    · cases taken
      rfl
    · split at taken
      · cases taken
      · cases taken
        rfl

theorem SameBut.stageOf (same : l.SameBut l') (f : FutureId) : l'.stageOf stage f = l.stageOf stage f := by
  unfold Loops.stageOf future?
  rw [same.futures]

theorem SameBut.fits (same : l.SameBut l') {n : Nat} {h : Handle ε γ} (fits : l.Fits stage n h) :
    l'.Fits stage n h := by
  obtain ⟨futures', latches', waiters', queues', current', running'⟩ := l'
  obtain ⟨rfl, rfl, rfl⟩ := same
  cases h <;> exact fits

theorem Wired.ofReady (w : l.Wired stage) (same : l.SameBut l')
    (ready : ∀ n, ∀ h ∈ l'.ready n, h ∈ l.ready n)
    (count : ∀ n f, (l'.ready n).countP (·.isTurnOf f) ≤ (l.ready n).countP (·.isTurnOf f)) :
    l'.Wired stage := by
  obtain ⟨futures', latches', waiters', queues', current', running'⟩ := l'
  obtain ⟨rfl, rfl, rfl⟩ := same
  exact
    { w with
      entries := fun n h member => by
        have fits := w.entries n h (ready n h member)
        cases h <;> exact fits
      once := fun f ahead => Nat.le_trans (count _ f) (w.once f ahead)
      callbacks := fun k x hx c member => by
        have fits := w.callbacks k x hx c member
        cases c <;> exact fits }

theorem Wired.take {h : Handle ε γ} (w : l.Wired stage) (taken : l.take? = some (h, l')) :
    l'.Wired stage := by
  have same := sameBut_take? taken
  cases takes taken with
  | timer _ others =>
    exact w.ofReady same (fun n e member => others n ▸ member)
      fun n f => Nat.le_of_eq (congrArg _ (others n))
  | entry rest first others =>
    refine w.ofReady same (fun n e member => ?_) fun n f => ?_
    · rw [others] at member
      split at member
      next here =>
        rw [← here, first]
        exact List.mem_cons_of_mem _ member
      next => exact member
    · rw [others]
      split
      next here =>
        rw [← here, first]
        rw [List.countP_cons]
        exact Nat.le_add_right _ _
      next => exact Nat.le_refl _

theorem Wired.taken {h : Handle ε γ} (w : l.Wired stage) (taken : l.take? = some (h, l')) :
    l'.Fits stage l.current h ∧ ∀ f, h.isTurnOf f = true → l'.stageOf stage f = .ahead → l'.NoTurn f := by
  have same := sameBut_take? taken
  cases takes taken with
  | timer expires _ =>
    subst expires
    exact ⟨trivial, nofun⟩
  | entry rest first others =>
    have fits := w.entries l.current h (by rw [first]; exact List.mem_cons_self)
    refine ⟨same.fits fits, fun f turns ahead n e member => ?_⟩
    rw [same.stageOf] at ahead
    have own {n : Nat} {e : Handle ε γ} (fits : l.Fits stage n e) (turns : e.isTurnOf f = true) :
        n = l.loopOf f := by
      cases e with
      | turn g s =>
        obtain rfl : g = f := by simpa [Handle.isTurnOf] using turns
        exact fits.2.1 ahead
      | _ => cases turns
    have bound := w.once f ahead
    rw [← own fits turns, first, List.countP_cons, if_pos turns] at bound
    have none : rest.countP (·.isTurnOf f) = 0 := Nat.le_zero.mp (Nat.le_of_succ_le_succ bound)
    have later : e ∈ rest → e.isTurnOf f = false := fun member =>
      Bool.eq_false_iff.mpr (List.countP_eq_zero.mp none e member)
    rw [others] at member
    split at member
    next => exact later member
    next elsewhere =>
      refine Bool.eq_false_iff.mpr fun turns' => elsewhere ?_
      exact (own fits turns).trans (own (w.entries n e member) turns').symm

/-! Things that come in. -/

theorem lt_of_racing {f : FutureId} {r : Race} (h : l.stageOf stage f = .racing r) :
    f < l.futures.size := by
  cases hf : l.future? f with
  | none =>
    rw [Loops.stageOf, hf] at h
    cases h
  | some x => exact lt_size_of_future? hf

theorem Wired.noTurn_fresh (w : l.Wired stage) (n : Nat) :
    (l.ready n).countP (·.isTurnOf l.futures.size) = 0 := by
  refine List.countP_eq_zero.mpr fun e member => ?_
  have fits := w.entries _ e member
  cases e with
  | turn g s =>
    have apart : g ≠ l.futures.size := Nat.ne_of_lt fits.1
    simpa [Handle.isTurnOf] using apart
  | _ => exact Bool.false_ne_true

theorem Wired.push (w : l.Wired stage) {x : Future κ ν ε γ} (stages : ∀ r, x.stage stage ≠ .racing r)
    (callbacks : x.callbacks = []) (must : x.mustCancel = false) (awaits : x.awaiting = none) :
    ({ l with futures := l.futures.push x } : Loops κ ν ε γ).Wired stage := by
  let l' : Loops κ ν ε γ := { l with futures := l.futures.push x }
  have size : l'.futures.size = l.futures.size + 1 := Array.size_push _
  have new : l'.future? l.futures.size = some x := (future?_push l x _).trans (if_pos rfl)
  have old {f : FutureId} (h : f ≠ l.futures.size) : l'.future? f = l.future? f :=
    (future?_push l x f).trans (if_neg h)
  have stage_old {f : FutureId} (h : f ≠ l.futures.size) : l'.stageOf stage f = l.stageOf stage f := by
    rw [Loops.stageOf, old h, Loops.stageOf]
  have racing {f : FutureId} {r : Race} (h : l'.stageOf stage f = .racing r) :
      l.stageOf stage f = .racing r := by
    by_cases last : f = l.futures.size
    · rw [last, Loops.stageOf, new] at h
      exact absurd h (stages r)
    · exact (stage_old last).symm.trans h
  have decided {r : Race} (h : l.Decided r) : l'.Decided r := by
    refine h.imp (fun done => ?_) id
    by_cases last : r.task = l.futures.size
    · rw [isDone_eq, last, future?, Array.getElem?_eq_none (Nat.le_refl _)] at done
      cases done
    · rw [isDone_eq, old last, ← isDone_eq]
      exact done
  have ahead {f : FutureId} (lt : f < l.futures.size) (h : l'.stageOf stage f = .ahead) :
      l.stageOf stage f = .ahead := (stage_old (Nat.ne_of_lt lt)).symm.trans h
  have loop_old {f : FutureId} (lt : f < l.futures.size) : l'.loopOf f = l.loopOf f := by
    rw [loopOf, old (Nat.ne_of_lt lt), loopOf]
  have later {f : FutureId} (lt : f < l.futures.size) : f < l'.futures.size :=
    size ▸ Nat.lt_succ_of_lt lt
  have fits {n : Nat} {h : Handle ε γ} (fits : l.Fits stage n h) : l'.Fits stage n h := by
    cases h with
    | turn f s =>
      refine ⟨later fits.1, fun h => ?_, fun r h => fits.2.2 r (racing h)⟩
      rw [loop_old fits.1]
      exact fits.2.1 (ahead fits.1 h)
    | wake f source =>
      refine ⟨later fits.1, fun h => fits.2.1 (ahead fits.1 h), fun r h => ?_⟩
      rw [loop_old fits.1]
      exact fits.2.2 r (racing h)
    | complete i => exact ⟨fits.1, fun f r h same => decided (fits.2 f r (racing h) same)⟩
    | act a f => trivial
    | expire f => trivial
  have fitsAt {k : FutureId} {c : Callback γ} (fits : l.FitsAt stage k c) : l'.FitsAt stage k c := by
    cases c with
    | wake f => exact ⟨later fits.1, fun h => fits.2.1 (ahead fits.1 h), fun r h => fits.2.2 r (racing h)⟩
    | complete i => exact ⟨fits.1, fun f r h => fits.2 f r (racing h)⟩
    | other a => trivial
  refine
    { entries := fun n h member => fits (w.entries n h member)
      once := fun f h => ?_
      callbacks := fun k y hy c member => ?_
      latches := fun i y hy v member =>
        ⟨(w.latches i y hy v member).1, fun f r h => (w.latches i y hy v member).2 f r (racing h)⟩
      waiters := fun i y hy f member => ?_
      races := fun f r h => ?_
      unique := fun f g r s hf hg => w.unique f g r s (racing hf) (racing hg)
      awaits := fun f i h => ?_
      must := fun f h => ?_ }
  · by_cases last : f = l.futures.size
    · exact Nat.le_trans (Nat.le_of_eq (last ▸ w.noTurn_fresh _)) (Nat.zero_le 1)
    · have lt : f < l.futures.size := by
        cases hf : l'.future? f with
        | none =>
          rw [Loops.stageOf, hf] at h
          cases h
        | some y =>
          have bound : f < l.futures.size + 1 := size ▸ lt_size_of_future? hf
          exact Nat.lt_of_le_of_ne (Nat.le_of_lt_succ bound) last
      rw [loop_old lt]
      exact w.once f (ahead lt h)
  · by_cases last : k = l.futures.size
    · rw [last] at hy
      obtain rfl := Option.some.inj (new.symm.trans hy)
      rw [callbacks] at member
      cases member
    · exact fitsAt (w.callbacks k y ((old last).symm.trans hy) c member)
  · obtain ⟨lt, begun, own⟩ := w.waiters i y hy f member
    exact ⟨later lt, fun h => begun (ahead lt h), fun r h => own r (racing h)⟩
  · obtain ⟨y, hy, here, completed, cancelled⟩ := w.races f r (racing h)
    refine ⟨y, hy, here.trans (loop_old (lt_of_racing (racing h))).symm, fun c => decided (completed c),
      fun c => ?_⟩
    have before := cancelled c
    by_cases last : f = l.futures.size
    · rw [Loops.cancels, last, future?, Array.getElem?_eq_none (Nat.le_refl _)] at before
      exact absurd before (Nat.lt_irrefl 0)
    · rw [Loops.cancels, old last]
      exact before
  · by_cases last : f = l.futures.size
    · rw [awaiting, last, new] at h
      cases awaits.symm.trans h
    · have before : l.awaiting f = some (.waiter i) := by
        rw [awaiting, old last] at h
        exact h
      exact ⟨(w.awaits f i before).1, fun g r h => (w.awaits f i before).2 g r (racing h)⟩
  · by_cases last : f = l.futures.size
    · rw [mustCancel, last, new] at h
      cases must.symm.trans h
    · rw [mustCancel, old last] at h
      rw [Loops.cancels, old last]
      exact w.must f h

theorem Wired.aside (w : l.Wired stage) (same : l.SameBut l') (queues : l'.queues = l.queues) :
    l'.Wired stage :=
  w.ofReady same (fun n _ member => ready_of_queues queues n ▸ member)
    fun n f => Nat.le_of_eq (by rw [ready_of_queues queues])

theorem Wired.create (w : l.Wired stage) : l.create.2.Wired stage := w.push nofun rfl rfl rfl

theorem Wired.spawn (w : l.Wired stage) {body : Option κ} (fresh : ∀ b r, body = some b → stage b ≠ .racing r) :
    (l.spawn body).2.Wired stage := by
  let x : Future κ ν ε γ := { loop := l.current, task := some { body } }
  have stages (r : Race) : x.stage stage ≠ .racing r := by
    cases body with
    | none => exact nofun
    | some b => exact fresh b r rfl
  have pushed : ({ l with futures := l.futures.push x } : Loops κ ν ε γ).Wired stage :=
    w.push stages rfl rfl rfl
  have new : ({ l with futures := l.futures.push x } : Loops κ ν ε γ).future? l.futures.size = some x :=
    (future?_push l x _).trans (if_pos rfl)
  refine pushed.soonAll (fun h member => ?_) fun f ahead => ?_
  · cases List.mem_singleton.mp member
    refine ⟨by simp, fun _ => ?_, fun r racing => ?_⟩
    · rw [loopOf, new]
      rfl
    · rw [Loops.stageOf, new] at racing
      exact stages r racing
  · by_cases last : f = l.futures.size
    · exact Nat.add_le_add List.countP_le_length (Nat.le_of_eq (last ▸ w.noTurn_fresh _))
    · have other : ((.turn l.futures.size .go : Handle ε γ).isTurnOf f) = false := by
        simpa [Handle.isTurnOf] using fun h => last h.symm
      rw [List.countP_cons_of_neg (by simp [other]), List.countP_nil, Nat.zero_add]
      exact pushed.once f ahead

/-! Signals and waiters that come in. -/

theorem latch?_newLatch (l : Loops κ ν ε γ) (i : LatchId) :
    l.newLatch.2.latch? i = if i = l.latches.size then some { loop := l.current } else l.latch? i :=
  Array.getElem?_push

theorem Wired.newLatch (w : l.Wired stage) : l.newLatch.2.Wired stage := by
  have decided {r : Race} (h : l.Decided r) : l.newLatch.2.Decided r := by
    refine h.imp id fun done => ?_
    rw [latchDone_eq] at done ⊢
    rw [latch?_newLatch, if_neg ?_]
    · exact done
    · rintro last
      rw [latch?, last, Array.getElem?_eq_none (Nat.le_refl _)] at done
      cases done
  have o : Onward stage l l.newLatch.2 :=
    { size := Nat.le_refl _, stages := fun _ => .inl rfl, loopOf := fun _ => rfl
      decided := fun _ => decided, waiters := fun _ x hx => ⟨x, hx, id⟩ }
  refine
    { w with
      entries := fun n h member => o.fits (w.entries n h member)
      callbacks := fun k x hx c member => o.fitsAt (w.callbacks k x hx c member)
      latches := fun i x hx => ?_
      races := fun f r racing => ?_ }
  · rw [latch?_newLatch] at hx
    split at hx
    · cases hx
      exact fun _ => nofun
    · exact w.latches i x hx
  · obtain ⟨x, hx, here, completed, cancelled⟩ := w.races f r racing
    exact ⟨x, hx, here, fun c => decided (completed c), cancelled⟩

theorem ready_renew (l : Loops κ ν ε γ) (close : Bool) (n : Nat) : (l.renew close).ready n = l.ready n := by
  have pushed (l : Loops κ ν ε γ) (current : Nat) :
      ({ l with queues := l.queues.push {}, current, running := none } : Loops κ ν ε γ).ready n = l.ready n := by
    unfold Loops.ready
    rw [Array.getElem?_push]
    split
    next last =>
      rw [last, Array.getElem?_eq_none (Nat.le_refl _)]
      rfl
    next => rfl
  unfold Loops.renew
  cases close with
  | false => exact pushed l _
  | true =>
    rw [if_pos rfl]
    refine (pushed _ _).trans ?_
    rw [ready_modifyQueue]
    split
    · unfold Loops.ready
      cases l.queues[n]? <;> rfl
    · rfl

theorem Wired.renew (w : l.Wired stage) (close : Bool) : (l.renew close).Wired stage :=
  w.ofReady (by cases close <;> exact ⟨rfl, rfl, rfl⟩) (fun n _ member => ready_renew l close n ▸ member)
    fun n f => Nat.le_of_eq (by rw [ready_renew])

/-! Turns. -/

theorem Wired.takeSignal (w : l.Wired stage) (f : FutureId) (s : Signal ε) :
    (l.takeSignal f s).2.Wired stage := by
  unfold Loops.takeSignal
  split
  · exact w
  · exact w.modifyTask (fun _ => rfl) (fun _ => Nat.le_refl _) (fun _ _ _ _ => nofun) fun _ _ => nofun

theorem Wired.finish (w : l.Wired stage) (f : FutureId) {o : Outcome ν ε} (ended : o.isDone = true) :
    (l.finish f o).Wired stage := by
  have taken : (l.modifyTask f fun t => { t with mustCancel := false }).Wired stage :=
    w.modifyTask (fun _ => rfl) (fun _ => Nat.le_refl _) (fun _ _ _ _ => nofun) fun _ _ => .inl
  unfold Loops.finish
  dsimp only
  split
  · split
    · exact taken.settle f rfl
    · exact w.settle f rfl
  · exact w.settle f ended

/-- Whether something resumes a task that awaits it, as far as races are concerned. -/
def Awaits (stage : κ → Stage) (l : Loops κ ν ε γ) (f : FutureId) : Awaited → Prop
  | .future _ => ∀ r, l.stageOf stage f ≠ .racing r
  | .waiter i => i < l.waiters.size ∧ (∀ r, l.stageOf stage f = .racing r → r.waiter = i) ∧
      ∀ g r, l.stageOf stage g = .racing r → r.waiter = i → g = f

theorem Wired.watch (w : l.Wired stage) {f : FutureId} {what : Awaited} (lt : f < l.futures.size)
    (begun : l.stageOf stage f ≠ .ahead) (awaits : l.Awaits stage f what) :
    (l.watch what f).Wired stage := by
  cases what with
  | future g => exact w.addCallback ⟨lt, begun, awaits⟩
  | waiter i => exact w.watchWaiter lt begun awaits.2.1

theorem stageOf_addCallback (l : Loops κ ν ε γ) (f : FutureId) (c : Callback γ) (k : FutureId) :
    (l.addCallback f c).stageOf stage k = l.stageOf stage k := by
  unfold Loops.addCallback
  split
  · rfl
  · split
    · rfl
    · rw [stageOf_modifyFuture]
      split
      · rw [Loops.stageOf]
        cases l.future? k <;> rfl
      · rfl

theorem stageOf_watch (l : Loops κ ν ε γ) (what : Awaited) (f k : FutureId) :
    (l.watch what f).stageOf stage k = l.stageOf stage k := by
  cases what with
  | future g => exact stageOf_addCallback l g _ k
  | waiter i =>
    change (l.watchWaiter i f).stageOf stage k = _
    unfold Loops.watchWaiter
    split
    · rfl
    · split <;> rfl

theorem waiters_addCallback (l : Loops κ ν ε γ) (f : FutureId) (c : Callback γ) :
    (l.addCallback f c).waiters = l.waiters := by
  unfold Loops.addCallback
  split
  · rfl
  · split <;> rfl

theorem size_waiters_watch (l : Loops κ ν ε γ) (what : Awaited) (f : FutureId) :
    (l.watch what f).waiters.size = l.waiters.size := by
  cases what with
  | future g =>
    exact congrArg Array.size (waiters_addCallback l g _)
  | waiter i =>
    change (l.watchWaiter i f).waiters.size = _
    unfold Loops.watchWaiter
    split
    · rfl
    · split
      · exact Array.size_modify
      · rfl

theorem Wired.await (w : l.Wired stage) {f : FutureId} {what : Awaited} (lt : f < l.futures.size)
    (begun : l.stageOf stage f ≠ .ahead) (awaits : l.Awaits stage f what) :
    (l.await f what).Wired stage := by
  have watched := w.watch lt begun awaits
  have waits : ((l.watch what f).modifyTask f fun t => { t with awaiting := some what }).Wired stage := by
    refine watched.modifyTask (fun _ => rfl) (fun _ => Nat.le_refl _) (fun _ _ _ _ => .inl) fun _ i same => ?_
    cases same
    obtain ⟨there, _, own⟩ := awaits
    rw [size_waiters_watch]
    exact .inr ⟨there, fun k r racing => own k r (stageOf_watch l _ f k ▸ racing)⟩
  unfold Loops.await
  dsimp only
  generalize here : (l.watch what f).modifyTask f (fun t => { t with awaiting := some what }) = l' at waits ⊢
  cases ht : (l'.future? f).bind (·.task) with
  | none => exact waits
  | some t =>
    dsimp only
    split
    next must =>
      obtain ⟨x, hx, task⟩ := Option.bind_eq_some_iff.mp ht
      have mine (i : WaiterId) (same : some what = some (.waiter i)) : l'.awaiting f = some (.waiter i) := by
        rw [← same, ← here, awaiting, Loops.modifyTask, future?_modifyFuture, if_pos rfl]
        rw [← here, Loops.modifyTask, future?_modifyFuture, if_pos rfl] at hx
        obtain ⟨y, hy, rfl⟩ := Option.map_eq_some_iff.mp hx
        obtain ⟨u, hu, rfl⟩ := Option.map_eq_some_iff.mp task
        rw [hy]
        simp [Future.awaiting, hu]
      have counted : 0 < l'.cancels f := by
        refine waits.must f ?_
        rw [mustCancel, hx, Option.any_some, Future.mustCancel, task]
        exact must
      have handed := Rewired.handOn waits (fun g l w => Rewired.cancel w g) mine counted
      split
      · refine handed.1.modifyTask (fun _ => rfl) (fun _ => Nat.le_refl _) (fun _ _ _ _ same => ?_) fun _ _ => .inl
        cases same
      · exact handed.1
    next => exact waits

theorem stageOf_modifyTask (l : Loops κ ν ε γ) (f : FutureId) {g : Task κ → Task κ}
    (body : ∀ t, (g t).body = t.body) (k : FutureId) :
    (l.modifyTask f g).stageOf stage k = l.stageOf stage k := by
  rw [Loops.modifyTask, stageOf_modifyFuture]
  split
  · rw [Loops.stageOf]
    cases l.future? k with
    | none => rfl
    | some x =>
      rw [Option.elim_some, Option.elim_some, Future.stage, Future.stage, Future.body?, Future.body?]
      cases x.task <;> simp [body]
  · rfl

theorem stageOf_takeSignal (l : Loops κ ν ε γ) (f : FutureId) (s : Signal ε) (k : FutureId) :
    (l.takeSignal f s).2.stageOf stage k = l.stageOf stage k := by
  unfold Loops.takeSignal
  split
  · rfl
  · refine stageOf_modifyTask l f ?_ k
    exact fun _ => rfl

theorem stageOf_goesOn (l : Loops κ ν ε γ) (f : FutureId) {b : κ} (plain : stage b = .plain) :
    (l.modifyTask f fun t => { t with body := some b }).stageOf stage f = .plain := by
  rw [Loops.modifyTask, stageOf_modifyFuture, if_pos rfl]
  cases l.future? f with
  | none => rfl
  | some x =>
    rw [Option.elim_some, Future.stage, Future.body?]
    cases x.outcome.isDone with
    | true => rfl
    | false => cases x.task <;> simp [plain]

theorem Wired.goesOn (w : l.Wired stage) {f : FutureId} {b : κ} (plain : stage b = .plain) :
    (l.modifyTask f fun t => { t with body := some b }).Wired stage := by
  refine w.modifyFuture fun x _ => ⟨rfl, id, .inr ?_, fun _ => .inl, ?_, fun must => .inl ?_, fun i awaits => .inl ?_⟩
  · unfold Future.stage Future.body?
    cases x.outcome.isDone with
    | true => rfl
    | false => cases x.task <;> simp [plain]
  · cases ht : x.task <;> simp [Future.cancels, ht]
  · cases ht : x.task <;> simp_all [Future.mustCancel]
  · cases ht : x.task <;> simp_all [Future.awaiting]

theorem Wired.soonTurn (w : l.Wired stage) {f : FutureId} (lt : f < l.futures.size)
    (plain : l.stageOf stage f = .plain) (n : Nat) : (l.soon n (.turn f .go)).Wired stage := by
  change (l.soonAll n [.turn f .go]).Wired stage
  refine w.soonAll (fun e member => ?_) fun g ahead => ?_
  · cases List.mem_singleton.mp member
    refine ⟨lt, fun ahead => ?_, fun r racing => ?_⟩
    · exact nomatch plain.symm.trans ahead
    · exact nomatch plain.symm.trans racing
  · have other : f ≠ g := by
      rintro rfl
      exact nomatch plain.symm.trans ahead
    rw [List.countP_cons_of_neg (by simpa [Handle.isTurnOf] using other), List.countP_nil, Nat.zero_add]
    exact w.once g ahead

/-! Races that begin and end. -/

theorem loopOf_modifyTask (l : Loops κ ν ε γ) (f : FutureId) (g : Task κ → Task κ) (k : FutureId) :
    (l.modifyTask f g).loopOf k = l.loopOf k := by
  rw [Loops.loopOf, Loops.modifyTask, future?_modifyFuture, Loops.loopOf]
  split
  · cases l.future? k <;> rfl
  · rfl

theorem stageOf_setBody {f : FutureId} (there : l.stageOf stage f ≠ .plain) (b : κ) :
    (l.modifyTask f fun t => { t with body := some b }).stageOf stage f = stage b := by
  rw [Loops.stageOf] at there
  rw [Loops.modifyTask, Loops.stageOf, future?_modifyFuture, if_pos rfl]
  cases hx : l.future? f with
  | none =>
    rw [hx] at there
    exact absurd rfl there
  | some x =>
    rw [hx, Option.elim_some, Future.stage, Future.body?] at there
    rw [Option.map_some, Option.elim_some, Future.stage, Future.body?]
    cases done : x.outcome.isDone with
    | true =>
      rw [done] at there
      exact absurd rfl there
    | false =>
      cases ht : x.task with
      | none =>
        rw [done, ht] at there
        exact absurd rfl there
      | some t => rfl

theorem waiter?_newWaiter (l : Loops κ ν ε γ) (i : WaiterId) :
    l.newWaiter.2.waiter? i = if i = l.waiters.size then some { loop := l.current } else l.waiter? i :=
  Array.getElem?_push

/-- A task whose turn has come enters a race, for which there is a waiter of its own that nothing
completes yet. -/
theorem Wired.enter (w : l.Wired stage) {f : FutureId} {r : Race} {b : κ} (own : r.waiter = l.waiters.size)
    (racing : stage b = .racing r) (ahead : l.stageOf stage f = .ahead) (turn : l.NoTurn f)
    (here : l.loopOf f = l.current) :
    (l.newWaiter.2.modifyTask f fun t => { t with body := some b }).Wired stage := by
  let l' : Loops κ ν ε γ := l.newWaiter.2.modifyTask f fun t => { t with body := some b }
  have size : l'.futures.size = l.futures.size := Array.size_modify
  have later {i : WaiterId} (lt : i < l.waiters.size) : i < l'.waiters.size :=
    Nat.lt_of_lt_of_eq (Nat.lt_succ_of_lt lt) (Array.size_push _).symm
  have waiter_old {i : WaiterId} (lt : i < l.waiters.size) : l'.waiter? i = l.waiter? i :=
    (waiter?_newWaiter l i).trans (if_neg (Nat.ne_of_lt lt))
  have found (k : FutureId) : l'.future? k = if f = k
      then (l.future? k).map fun x => { x with task := x.task.map fun t => { t with body := some b } }
      else l.future? k := future?_modifyFuture ..
  have stage_old {k : FutureId} (h : f ≠ k) : l'.stageOf stage k = l.stageOf stage k := by
    rw [Loops.stageOf, found, if_neg h, Loops.stageOf]
  -- The one task whose stage changes.
  have stage_new : l'.stageOf stage f = .racing r := by
    rw [← racing]
    exact stageOf_setBody (l := l.newWaiter.2) (fun plain => by cases ahead.symm.trans plain) b
  have was_ahead {k : FutureId} (h : l'.stageOf stage k = .ahead) : l.stageOf stage k = .ahead := by
    by_cases same : f = k
    · rw [← same, stage_new] at h
      cases h
    · exact (stage_old same).symm.trans h
  have was_racing {k : FutureId} {s : Race} (h : l'.stageOf stage k = .racing s) :
      (k = f ∧ s = r) ∨ l.stageOf stage k = .racing s := by
    by_cases same : f = k
    · rw [← same, stage_new] at h
      cases h
      exact .inl ⟨same.symm, rfl⟩
    · exact .inr ((stage_old same).symm.trans h)
  have lt_waiter {k : FutureId} {s : Race} (h : l.stageOf stage k = .racing s) : s.waiter < l.waiters.size := by
    obtain ⟨x, hx, _⟩ := w.races k s h
    exact lt_size_of_waiter? hx
  have loops (k : FutureId) : l'.loopOf k = l.loopOf k := loopOf_modifyTask ..
  have decided {s : Race} (h : l.Decided s) : l'.Decided s := by
    refine h.imp (fun done => ?_) id
    rw [isDone_eq] at done ⊢
    rw [found]
    split
    · cases hx : l.future? s.task with
      | none =>
        rw [hx] at done
        cases done
      | some x =>
        rw [hx] at done
        exact done
    · exact done
  have cancels (k : FutureId) : l'.cancels k = l.cancels k := by
    rw [Loops.cancels, found, Loops.cancels]
    split
    · cases l.future? k with
      | none => rfl
      | some x => cases ht : x.task <;> simp [Future.cancels, ht]
    · rfl
  have known {i : WaiterId} (lt : i < l.waiters.size) {P : FutureId → Race → Prop}
      (before : ∀ k s, l.stageOf stage k = .racing s → s.waiter = i → P k s) :
      ∀ k s, l'.stageOf stage k = .racing s → s.waiter = i → P k s := by
    intro k s h same
    rcases was_racing h with ⟨rfl, rfl⟩ | old
    · exact absurd (own.symm.trans same) (Nat.ne_of_gt lt)
    · exact before k s old same
  have not_ahead {k : FutureId} (begun : l.stageOf stage k ≠ .ahead) : k ≠ f := fun same => begun (same ▸ ahead)
  have fits {n : Nat} {h : Handle ε γ} (fits : l.Fits stage n h) (others : h.isTurnOf f = false) :
      l'.Fits stage n h := by
    cases h with
    | turn k s =>
      have apart : k ≠ f := by simpa [Handle.isTurnOf] using others
      refine ⟨size ▸ fits.1, fun h => (fits.2.1 (was_ahead h)).trans (loops k).symm, fun s h => ?_⟩
      exact (was_racing h).elim (fun new => apart new.1) (fits.2.2 s)
    | wake k source =>
      refine ⟨size ▸ fits.1, fun h => fits.2.1 (was_ahead h), fun s h => ?_⟩
      rcases was_racing h with new | old
      · exact absurd new.1 (not_ahead fits.2.1)
      · obtain ⟨mine, loop, x, hx, done⟩ := fits.2.2 s old
        exact ⟨mine, loop.trans (loops k).symm, x, (waiter_old (lt_waiter old)).trans hx, done⟩
    | complete i =>
      exact ⟨later fits.1, known fits.1 fun k s old same => decided (fits.2 k s old same)⟩
    | act a k => trivial
    | expire k => trivial
  have fitsAt {k : FutureId} {c : Callback γ} (fits : l.FitsAt stage k c) : l'.FitsAt stage k c := by
    cases c with
    | wake g =>
      refine ⟨size ▸ fits.1, fun h => fits.2.1 (was_ahead h), fun s h => ?_⟩
      exact (was_racing h).elim (fun new => not_ahead fits.2.1 new.1) (fits.2.2 s)
    | complete i => exact ⟨later fits.1, known fits.1 fits.2⟩
    | other a => trivial
  refine
    { entries := fun n h member => fits (w.entries n h member) (turn n h member)
      once := fun k h => ?_
      callbacks := fun k x hx c member => ?_
      latches := fun i x hx v member => ?_
      waiters := fun i x hx k member => ?_
      races := fun k s h => ?_
      unique := fun j k s t hs ht same => ?_
      awaits := fun k i h => ?_
      must := fun k h => ?_ }
  · rw [loops]
    exact w.once k (was_ahead h)
  · rw [found] at hx
    split at hx
    next =>
      obtain ⟨y, hy, rfl⟩ := Option.map_eq_some_iff.mp hx
      exact fitsAt (w.callbacks k y hy c member)
    next => exact fitsAt (w.callbacks k x hx c member)
  · obtain ⟨lt, mine⟩ := w.latches i x hx v member
    exact ⟨later lt, known lt mine⟩
  · by_cases last : i = l.waiters.size
    · have new : l'.waiter? i = some { loop := l.current } := (waiter?_newWaiter l i).trans (if_pos last)
      rw [new] at hx
      cases hx
      cases member
    · have old : l'.waiter? i = l.waiter? i := (waiter?_newWaiter l i).trans (if_neg last)
      rw [old] at hx
      obtain ⟨lt, begun, mine⟩ := w.waiters i x hx k member
      refine ⟨size ▸ lt, fun h => begun (was_ahead h), fun s h => ?_⟩
      exact (was_racing h).elim (fun new => absurd new.1 (not_ahead begun)) (mine s)
  · rcases was_racing h with ⟨rfl, rfl⟩ | old
    · refine ⟨{ loop := l.current }, (waiter?_newWaiter l _).trans (if_pos own), ?_, ?_, ?_⟩
      · exact here.symm.trans (loops k).symm
      · intro same
        cases same
      · intro same
        cases same
    · obtain ⟨x, hx, loop, completed, cancelled⟩ := w.races k s old
      exact ⟨x, (waiter_old (lt_waiter old)).trans hx, loop.trans (loops k).symm,
        fun c => decided (completed c), fun c => cancels k ▸ cancelled c⟩
  · rcases was_racing hs with ⟨rfl, rfl⟩ | oldS <;> rcases was_racing ht with ⟨rfl, rfl⟩ | oldT
    · rfl
    · exact absurd (own.symm.trans same) (Nat.ne_of_gt (lt_waiter oldT))
    · exact absurd (own.symm.trans same.symm) (Nat.ne_of_gt (lt_waiter oldS))
    · exact w.unique j k s t oldS oldT same
  · have before : l.awaiting k = some (.waiter i) := by
      rw [awaiting, found] at h
      split at h
      · cases hx : l.future? k with
        | none =>
          rw [hx] at h
          cases h
        | some x =>
          rw [hx] at h
          rw [awaiting, hx]
          cases ht : x.task <;> simp_all [Future.awaiting]
      · exact h
    obtain ⟨lt, mine⟩ := w.awaits k i before
    exact ⟨later lt, known lt mine⟩
  · rw [cancels]
    refine w.must k ?_
    rw [mustCancel, found] at h
    split at h
    · cases hx : l.future? k with
      | none =>
        rw [hx] at h
        cases h
      | some x =>
        rw [hx] at h
        rw [mustCancel, hx]
        cases ht : x.task <;> simp_all [Future.mustCancel]
    · exact h

theorem modifyFuture_comm (l : Loops κ ν ε γ) (f k : FutureId) {g h : Future κ ν ε γ → Future κ ν ε γ}
    (comm : ∀ x, g (h x) = h (g x)) :
    (l.modifyFuture k h).modifyFuture f g = (l.modifyFuture f g).modifyFuture k h := by
  have same : (l.futures.modify k h).modify f g = (l.futures.modify f g).modify k h := by
    refine Array.ext (by simp) fun i hi hi' => ?_
    simp only [Array.getElem_modify]
    split <;> split <;> simp [comm]
  unfold modifyFuture
  rw [same]

theorem addCallback_modifyTask (l : Loops κ ν ε γ) (f k : FutureId) (g : Task κ → Task κ)
    (c : Callback γ) : (l.addCallback k c).modifyTask f g = (l.modifyTask f g).addCallback k c := by
  have found : (l.modifyTask f g).future? k = if f = k
      then (l.future? k).map fun x => { x with task := x.task.map g } else l.future? k :=
    future?_modifyFuture ..
  unfold addCallback
  rw [found]
  cases hx : l.future? k with
  | none =>
    rw [Option.map_none, ite_self]
  | some x =>
    -- Both sides see the same outcome and the same loop.
    obtain ⟨y, hy, outcome, loop⟩ : ∃ y, (if f = k
        then (some x).map fun x => { x with task := x.task.map g } else some x) = some y ∧
        y.outcome = x.outcome ∧ y.loop = x.loop := by
      split
      · exact ⟨_, rfl, rfl, rfl⟩
      · exact ⟨_, rfl, rfl, rfl⟩
    rw [hy]
    dsimp only
    rw [outcome, loop]
    cases x.outcome.isDone with
    | true => rfl
    | false => exact modifyFuture_comm l f k fun _ => rfl

theorem watchLatch_modifyTask (l : Loops κ ν ε γ) (f : FutureId) (g : Task κ → Task κ) (i : LatchId)
    (v : WaiterId) : (l.watchLatch i v).modifyTask f g = (l.modifyTask f g).watchLatch i v := by
  have found : (l.modifyTask f g).latch? i = l.latch? i := rfl
  unfold watchLatch
  rw [found]
  split
  · rfl
  · split <;> rfl

theorem current_cases (c : Controller) (l : Loops κ ν ε γ) :
    ((c.current l).2.2 = l ∧ c.signal = some (c.current l).1 ∧ (c.current l).2.1 = c ∧
        (l.latchOutcome (c.current l).1).isDone = false ∧ l.loopOfLatch (c.current l).1 = l.current) ∨
      ((c.current l).2.2 = l.newLatch.2 ∧ (c.current l).1 = l.latches.size ∧
        (c.current l).2.1 = { signal := some l.latches.size } ∧
        ∀ i, c.signal = some i → (l.latchOutcome i).isDone = true ∨ l.loopOfLatch i ≠ l.current) := by
  unfold Controller.current
  dsimp only
  split
  next none => exact .inr ⟨rfl, rfl, rfl, fun i armed => nomatch none.symm.trans armed⟩
  next i armed =>
    split
    next spent =>
      refine .inr ⟨rfl, rfl, rfl, fun k same => ?_⟩
      obtain rfl := Option.some.inj (armed.symm.trans same)
      simpa [bne_iff_ne] using spent
    next usable =>
      simp only [Bool.or_eq_true, bne_iff_ne, ne_eq, not_or, Decidable.not_not, Bool.not_eq_true] at usable
      exact .inl ⟨rfl, armed, rfl, usable.1, usable.2⟩

theorem Wired.current (w : l.Wired stage) (c : Controller) : (c.current l).2.2.Wired stage := by
  rcases current_cases c l with ⟨same, _⟩ | ⟨new, _⟩
  · rw [same]
    exact w
  · rw [new]
    exact w.newLatch

theorem Wired.interrupt (w : l.Wired stage) (c : Controller) (inLoop : Bool) (e : ε) :
    (c.interrupt inLoop e l).2.Wired stage := by
  unfold Controller.interrupt
  split
  · exact w
  · split
    · exact w
    · split
      · exact w
      · unfold Controller.arm
        cases inLoop with
        | true => exact (w.settleLatch _ rfl).newLatch
        | false => exact w.settleLatch _ rfl

theorem stageOf_watchLatch (l : Loops κ ν ε γ) (i : LatchId) (v : WaiterId) (k : FutureId) :
    (l.watchLatch i v).stageOf stage k = l.stageOf stage k := by
  unfold watchLatch
  split
  · rfl
  · split <;> rfl

theorem waiters_watchLatch (l : Loops κ ν ε γ) (i : LatchId) (v : WaiterId) :
    (l.watchLatch i v).waiters = l.waiters := by
  unfold watchLatch
  split
  · rfl
  · split <;> rfl

/-- A race whose turn has come: nothing else is to begin it, and it is on the loop in use. -/
structure Due (stage : κ → Stage) (l : Loops κ ν ε γ) (f : FutureId) : Prop where
  ahead : l.stageOf stage f = .ahead
  turn : l.NoTurn f
  here : l.loopOf f = l.current

namespace Due

theorem lt {f : FutureId} (due : l.Due stage f) : f < l.futures.size := by
  have ahead := due.ahead
  cases hf : l.future? f with
  | none =>
    rw [Loops.stageOf, hf] at ahead
    cases ahead
  | some x => exact lt_size_of_future? hf

theorem aside {f : FutureId} (due : l.Due stage f) (futures : l'.futures = l.futures)
    (queues : l'.queues = l.queues) (current : l'.current = l.current) : l'.Due stage f where
  ahead := by
    rw [stageOf, future?, futures]
    exact due.ahead
  turn n h member := due.turn n h (ready_of_queues queues n ▸ member)
  here := by
    rw [loopOf, future?, futures, current]
    exact due.here

theorem armed {f : FutureId} (due : l.Due stage f) (c : Controller) : (c.current l).2.2.Due stage f := by
  rcases current_cases c l with ⟨same, _⟩ | ⟨new, _⟩
  · rw [same]
    exact due
  · rw [new]
    exact due.aside rfl rfl rfl

theorem spawn {f : FutureId} (due : l.Due stage f) (body : Option κ) : (l.spawn body).2.Due stage f := by
  have old : (l.spawn body).2.future? f = l.future? f :=
    (future?_push l _ f).trans (if_neg (Nat.ne_of_lt due.lt))
  refine ⟨?_, fun n h member => ?_, ?_⟩
  · rw [stageOf, old]
    exact due.ahead
  · change h ∈ (soonAll { l with futures := l.futures.push _ } l.current [.turn l.futures.size .go]).ready n at member
    rcases mem_ready_soonAll member with before | ⟨_, new⟩
    · exact due.turn n h before
    · cases List.mem_singleton.mp new
      simpa [Handle.isTurnOf] using Nat.ne_of_gt due.lt
  · rw [loopOf, old]
    exact due.here

end Due

theorem Wired.begin (w : l.Wired stage) {f : FutureId} (task : FutureId) (c : Controller) {b : Race → κ}
    (racing : ∀ r, stage (b r) = .racing r) (due : l.Due stage f) :
    let r := (Race.begin task c l).1
    let l' := (Race.begin task c l).2.2.modifyTask f fun t => { t with body := some (b r) }
    l'.Wired stage ∧ l'.stageOf stage f = .racing r ∧ l'.Awaits stage f (.waiter r.waiter) := by
  have w₁ := w.current c
  have due₁ := due.armed c
  unfold Race.begin
  generalize c.current l = out at w₁ due₁ ⊢
  obtain ⟨signal, c', l₁⟩ := out
  dsimp only at w₁ due₁ ⊢
  rw [watchLatch_modifyTask, addCallback_modifyTask]
  let r : Race := { task, signal, waiter := l₁.newWaiter.1 }
  have w₂ := w₁.enter (r := r) rfl (racing r) due₁.ahead due₁.turn due₁.here
  have entered := stageOf_setBody (l := l₁.newWaiter.2) (fun plain => nomatch due₁.ahead.symm.trans plain) (b r)
  -- The waiter is known to this race alone.
  have mine : ∀ k s, (l₁.newWaiter.2.modifyTask f fun t => { t with body := some (b r) }).stageOf stage k
      = .racing s → s.waiter = r.waiter → s = r := by
    intro k s h same
    obtain rfl := w₂.unique k f s r h (entered.trans (racing r)) same
    exact Stage.racing.inj (h.symm.trans (entered.trans (racing r)))
  have lt : r.waiter < (l₁.newWaiter.2.modifyTask f fun t => { t with body := some (b r) }).waiters.size :=
    Nat.lt_of_lt_of_eq (Nat.lt_succ_self _) (Array.size_push _).symm
  have w₃ := w₂.addCallback (f := task) (c := .complete r.waiter)
    ⟨lt, fun k s h same => congrArg Race.task (mine k s h same)⟩
  have stages (k : FutureId) :
      (((l₁.newWaiter.2.modifyTask f fun t => { t with body := some (b r) }).addCallback task
        (.complete r.waiter)).watchLatch signal r.waiter).stageOf stage k
      = (l₁.newWaiter.2.modifyTask f fun t => { t with body := some (b r) }).stageOf stage k :=
    (stageOf_watchLatch ..).trans (stageOf_addCallback ..)
  refine ⟨?_, ?_, ?_, fun s h => ?_, fun k s h same => ?_⟩
  · refine w₃.watchLatch ?_ fun k s h same => ?_
    · rw [waiters_addCallback]
      exact lt
    · exact congrArg Race.signal (mine k s (stageOf_addCallback _ _ _ k ▸ h) same)
  · exact (stages f).trans (entered.trans (racing r))
  · rw [waiters_watchLatch, waiters_addCallback]
    exact lt
  · rw [stages, entered, racing] at h
    cases h
    rfl
  · rw [stages] at h
    exact w₂.unique k f s r h (entered.trans (racing r)) same

theorem Wired.release (w : l.Wired stage) (r : Race) : (r.release l).Wired stage := by
  have removed : (l.removeWaiter r.task r.waiter).Wired stage :=
    w.modifyFuture fun x _ => ⟨rfl, id, .inl rfl, fun _ member => .inl ((List.mem_filter.mp member).1),
      Nat.le_refl _, .inl, fun _ => .inl⟩
  exact removed.modifyLatch (fun _ => id) fun _ _ member => .inl ((List.mem_filter.mp member).1)

theorem Wired.decide (w : l.Wired stage) (r : Race) : (r.decide l).2.Wired stage := by
  have released := w.release r
  unfold Race.decide
  dsimp only
  split
  · exact released
  · exact released
  · exact released
  · have cancelled := (Rewired.cancel released r.task).1
    split
    · exact cancelled
    · split <;> exact cancelled

theorem Wired.abandon (w : l.Wired stage) (r : Race) : (r.abandon l).2.Wired stage :=
  (Rewired.cancel (w.release r) r.task).1

end Notebook.Loop.Loops
