import Notebook.Loop.Basic

/-! What programs keep of event loops.

A program makes futures and tasks, ends futures and cancels any of them. How a task ends is up to its
body. Latches are out of reach, and waiters too but for a request to cancel that a task hands on. -/

set_option autoImplicit false

namespace Notebook.Loop

variable {κ ν ε γ : Type}

/-- What a program keeps of a future: whether it is a task, with what body, and how it has ended. A
task that is cancelled takes the request at its next turn. -/
structure Future.Keeps (x x' : Future κ ν ε γ) : Prop where
  body : x'.task.map (·.body) = x.task.map (·.body)
  done : x.outcome.isDone = true → x'.outcome = x.outcome
  task : x.task.isSome = true → x'.outcome = x.outcome

namespace Future.Keeps

variable {x x' x'' : Future κ ν ε γ}

theorem refl (x : Future κ ν ε γ) : x.Keeps x := ⟨rfl, fun _ => rfl, fun _ => rfl⟩

theorem isTask (h : x.Keeps x') : x'.task.isSome = x.task.isSome := by
  simpa using congrArg Option.isSome h.body

theorem trans (h : x.Keeps x') (h' : x'.Keeps x'') : x.Keeps x'' where
  body := h'.body.trans h.body
  done d := by
    have first := h.done d
    exact (h'.done (first ▸ d)).trans first
  task t := (h'.task (h.isTask.trans t)).trans (h.task t)

theorem mapTask (x : Future κ ν ε γ) {g : Task κ → Task κ} (h : ∀ t, (g t).body = t.body) :
    x.Keeps { x with task := x.task.map g } where
  body := by cases x.task <;> simp [h]
  done _ := rfl
  task _ := rfl

end Future.Keeps

namespace Loops

theorem future?_modifyFuture (l : Loops κ ν ε γ) (f : FutureId)
    (g : Future κ ν ε γ → Future κ ν ε γ) (k : FutureId) :
    (l.modifyFuture f g).future? k = if f = k then (l.future? k).map g else l.future? k :=
  Array.getElem?_modify ..

theorem future?_push (l : Loops κ ν ε γ) (x : Future κ ν ε γ) (k : FutureId) :
    ({ l with futures := l.futures.push x }).future? k
      = if k = l.futures.size then some x else l.future? k := Array.getElem?_push

/-- What an execution of programs keeps of event loops; tasks that come in have bodies of the
programs' own. -/
structure Leads (own : κ → Prop) (l l' : Loops κ ν ε γ) : Prop where
  size : l.futures.size ≤ l'.futures.size
  kept : ∀ f x, l.future? f = some x → ∃ x', l'.future? f = some x' ∧ x.Keeps x'
  new : ∀ f x, l'.future? f = some x → l.futures.size ≤ f →
    ∀ t, x.task = some t → ∃ b, t.body = some b ∧ own b
  latches : l'.latches = l.latches

theorem lt_size_of_future? {l : Loops κ ν ε γ} {f : FutureId} {x : Future κ ν ε γ}
    (h : l.future? f = some x) : f < l.futures.size := by
  obtain ⟨hf, _⟩ := Array.getElem?_eq_some_iff.mp h
  exact hf

namespace Leads

variable {own : κ → Prop} {l l' l'' : Loops κ ν ε γ}

theorem refl (l : Loops κ ν ε γ) : l.Leads own l where
  size := Nat.le_refl _
  kept _ x h := ⟨x, h, .refl x⟩
  new _ _ h hf := absurd (lt_size_of_future? h) (Nat.not_lt.mpr hf)
  latches := rfl

theorem trans (h : l.Leads own l') (h' : l'.Leads own l'') : l.Leads own l'' where
  size := Nat.le_trans h.size h'.size
  kept f x hx := by
    obtain ⟨x', hx', first⟩ := h.kept f x hx
    obtain ⟨x'', hx'', second⟩ := h'.kept f x' hx'
    exact ⟨x'', hx'', first.trans second⟩
  new f x hx hf t ht := by
    by_cases old : f < l'.futures.size
    · -- Made in the first part, and kept in the second.
      obtain ⟨x', hx'⟩ : ∃ x', l'.future? f = some x' := ⟨_, Array.getElem?_eq_getElem old⟩
      obtain ⟨y, hy, keeps⟩ := h'.kept f x' hx'
      obtain rfl : y = x := Option.some.inj (hy.symm.trans hx)
      have same := keeps.body
      rw [ht] at same
      obtain ⟨t', ht', body⟩ := Option.map_eq_some_iff.mp same.symm
      obtain ⟨b, hb, mine⟩ := h.new f x' hx' hf t' ht'
      exact ⟨b, body.symm.trans hb, mine⟩
    · exact h'.new f x hx (Nat.not_lt.mp old) t ht
  latches := h'.latches.trans h.latches

theorem aside (h : l'.futures = l.futures) (hl : l'.latches = l.latches) : l.Leads own l' := by
  have same (f : FutureId) : l'.future? f = l.future? f := by rw [future?, h, future?]
  exact ⟨Nat.le_of_eq (congrArg Array.size h.symm), fun f x hx => ⟨x, (same f).trans hx, .refl x⟩,
    fun f x hx => (refl l).new f x ((same f).symm.trans hx), hl⟩

theorem modifyFuture (l : Loops κ ν ε γ) {f : FutureId} {g : Future κ ν ε γ → Future κ ν ε γ}
    (h : ∀ x, l.future? f = some x → x.Keeps (g x)) : l.Leads own (l.modifyFuture f g) where
  size := by simp [Loops.modifyFuture]
  kept k x hx := by
    rw [future?_modifyFuture]
    split
    next same =>
      subst same
      exact ⟨g x, by rw [hx]; rfl, h x hx⟩
    next => exact ⟨x, hx, .refl x⟩
  new k x hx hk := by
    have lt := lt_size_of_future? hx
    rw [Loops.modifyFuture, Array.size_modify] at lt
    exact absurd lt (Nat.not_lt.mpr hk)
  latches := rfl

theorem push (l : Loops κ ν ε γ) {x : Future κ ν ε γ}
    (tasks : ∀ t, x.task = some t → ∃ b, t.body = some b ∧ own b) :
    l.Leads own { l with futures := l.futures.push x } where
  size := by simp
  kept f y hy := by
    rw [future?_push, if_neg (Nat.ne_of_lt (lt_size_of_future? hy))]
    exact ⟨y, hy, .refl y⟩
  new f y hy hf := by
    rw [future?_push] at hy
    split at hy
    next =>
      cases hy
      exact tasks
    next => exact absurd (lt_size_of_future? hy) (Nat.not_lt.mpr hf)
  latches := rfl

theorem soon (l : Loops κ ν ε γ) (n : Nat) (h : Handle ε γ) : l.Leads own (l.soon n h) := aside rfl rfl

theorem soonAll (l : Loops κ ν ε γ) (n : Nat) (hs : List (Handle ε γ)) : l.Leads own (l.soonAll n hs) :=
  aside rfl rfl

theorem create (l : Loops κ ν ε γ) : l.Leads own l.create.2 := push l nofun

theorem spawn (l : Loops κ ν ε γ) {body : κ} (h : own body) :
    l.Leads own (l.spawn (some body)).2 := by
  refine .trans (.push l fun t ht => ?_) (.soon _ _ _)
  cases ht
  exact ⟨body, rfl, h⟩

theorem sleep (l : Loops κ ν ε γ) (delay : Float) : l.Leads own (l.sleep delay).2 :=
  (create l).trans (aside rfl rfl)

theorem addCallback (l : Loops κ ν ε γ) (f : FutureId) (c : Callback γ) :
    l.Leads own (l.addCallback f c) := by
  unfold Loops.addCallback
  split
  · exact .refl l
  · split
    · exact .soon ..
    · exact .modifyFuture l fun x _ => ⟨rfl, fun _ => rfl, fun _ => rfl⟩

theorem joined (l : Loops κ ν ε γ) (f : FutureId) (members watched : List FutureId) (action : γ) :
    l.Leads own (l.joined f members watched action) := by
  have first : l.Leads own (l.modifyFuture f fun x => { x with members }) :=
    .modifyFuture l fun x _ => ⟨rfl, fun _ => rfl, fun _ => rfl⟩
  unfold Loops.joined
  generalize (l.modifyFuture f fun x => { x with members }) = l' at first ⊢
  induction watched generalizing l' with
  | nil => exact first
  | cons m ms ih => exact ih _ (first.trans (.addCallback l' m _))

theorem settle (l : Loops κ ν ε γ) (f : FutureId) (o : Outcome ν ε)
    (h : ∀ x, l.future? f = some x → x.task.isNone = true) : l.Leads own (l.settle f o) := by
  unfold Loops.settle
  split
  next => exact .refl l
  next x hx =>
    split
    next => exact .refl l
    next pending =>
      refine .trans (.modifyFuture l fun y hy => ?_) (.soonAll _ _ _)
      obtain rfl : x = y := Option.some.inj (hx.symm.trans hy)
      refine ⟨rfl, fun d => absurd d pending, fun t => ?_⟩
      simp [Option.isNone_iff_eq_none.mp (h x hx)] at t

theorem settleOwn (l : Loops κ ν ε γ) (f : FutureId) (o : Outcome ν ε) :
    l.Leads own (l.settleOwn f o) := by
  unfold Loops.settleOwn
  split
  next mine =>
    refine .settle l f o fun x hx => ?_
    rw [hx, Option.any_some] at mine
    exact mine
  next => exact .refl l

theorem settleWaiter (l : Loops κ ν ε γ) (i : WaiterId) (state : WaiterState) :
    l.Leads own (l.settleWaiter i state).2 := by
  unfold Loops.settleWaiter
  split
  · exact .refl l
  · split
    · exact .aside rfl rfl
    · exact .refl l

theorem modifyTask (l : Loops κ ν ε γ) (f : FutureId) {g : Task κ → Task κ}
    (h : ∀ t, (g t).body = t.body) : l.Leads own (l.modifyTask f g) :=
  .modifyFuture l fun x _ => .mapTask x h

theorem handOn (l : Loops κ ν ε γ) {cancel : FutureId → Loops κ ν ε γ → Request × Loops κ ν ε γ}
    (keeps : ∀ f (l : Loops κ ν ε γ), l.Leads own (cancel f l).2) (what : Option Awaited) :
    l.Leads own (l.handOn cancel what).2 := by
  unfold Loops.handOn
  split
  · exact .refl l
  · exact keeps _ l
  · exact .settleWaiter l _ _

theorem handOnAll {cancel : FutureId → Loops κ ν ε γ → Request × Loops κ ν ε γ}
    (keeps : ∀ f (l : Loops κ ν ε γ), l.Leads own (cancel f l).2) (ms : List FutureId) (l : Loops κ ν ε γ) :
    l.Leads own (Loops.handOnAll cancel ms l).2 := by
  induction ms generalizing l with
  | nil => exact .refl l
  | cons m ms rest =>
    have asked := keeps m l
    rw [Loops.handOnAll]
    split <;> rename_i answer <;> rw [answer] at asked
    · exact asked
    · exact asked.trans (rest _)
    · exact asked.trans (rest _)

theorem cancelWithin (room : Nat) (f : FutureId) (l : Loops κ ν ε γ) :
    l.Leads own (Loops.cancelWithin room f l).2 := by
  induction room generalizing f l with
  | zero => exact .refl l
  | succ room ih =>
    rw [Loops.cancelWithin]
    split
    next => exact .refl l
    next x hx =>
      split
      next => exact .refl l
      next =>
        split
        next noTask =>
          split
          next =>
            refine .settle l f _ fun y hy => ?_
            obtain rfl : x = y := Option.some.inj (hx.symm.trans hy)
            rw [noTask]
            rfl
          next =>
            have handed := handOnAll ih x.members l
            dsimp only
            split
            next =>
              exact handed.trans (.modifyFuture _ fun _ _ => ⟨rfl, fun _ => rfl, fun _ => rfl⟩)
            next => exact handed
        next t _ =>
          have counted : l.Leads own (l.modifyTask f fun t => { t with cancels := t.cancels + 1 }) :=
            .modifyTask l f fun _ => rfl
          have handed := counted.trans (handOn _ ih t.awaiting)
          dsimp only
          split
          · exact handed.trans (.modifyTask _ f fun _ => rfl)
          · exact handed

theorem cancel (l : Loops κ ν ε γ) (f : FutureId) : l.Leads own (l.cancel f).2 :=
  cancelWithin _ f l

end Leads

end Loops

end Notebook.Loop
