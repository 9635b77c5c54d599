import Mathlib.Logic.Relation
import Notebook.Proofs.Signals

/-! Interrupts are isolated by race: how a race ends hangs on the interrupts since it took its signal, and
on its own task. -/

set_option autoImplicit false

namespace Notebook.Loop.Loops

variable {κ ν ε γ : Type} {stage : κ → Stage} {l l' l'' : Loops κ ν ε γ}

/-! A race stays under way until its own turn comes. -/

def Stays (stage : κ → Stage) (l l' : Loops κ ν ε γ) : Prop :=
  ∀ f r, l.stageOf stage f = .racing r → l'.stageOf stage f = .racing r

namespace Stays

theorem refl (l : Loops κ ν ε γ) : l.Stays stage l := fun _ _ => id

theorem trans (h : l.Stays stage l') (h' : l'.Stays stage l'') : l.Stays stage l'' :=
  fun f r racing => h' f r (h f r racing)

theorem of_futures (same : l'.futures = l.futures) : l.Stays stage l' := fun f r racing => by
  rw [stageOf, future?, same]
  exact racing

theorem of_leads (h : l.Leads (fun _ => True) l') : l.Stays stage l' := by
  intro f r racing
  cases hx : l.future? f with
  | none =>
    rw [stageOf, hx] at racing
    cases racing
  | some x =>
    obtain ⟨x', hx', keeps⟩ := h.kept f x hx
    rw [stageOf, hx, Option.elim_some] at racing
    rw [stageOf, hx', Option.elim_some]
    cases ht : x.task with
    | none =>
      rw [Future.stage, Future.body?, ht] at racing
      cases done : x.outcome.isDone <;> simp [done] at racing
    | some t =>
      have body := keeps.body
      rw [ht] at body
      obtain ⟨t', ht', same⟩ := Option.map_eq_some_iff.mp body
      rw [← racing, Future.stage, Future.stage, Future.body?, Future.body?, keeps.task (by rw [ht]; rfl), ht, ht']
      exact congrArg (fun b => (if x.outcome.isDone then none else b).elim Stage.plain stage) same

theorem modifyTask (l : Loops κ ν ε γ) (f : FutureId) {g : Task κ → Task κ} (body : ∀ t, (g t).body = t.body) :
    l.Stays stage (l.modifyTask f g) := of_leads (.modifyTask l f body)

theorem watch (l : Loops κ ν ε γ) (what : Awaited) (f : FutureId) : l.Stays stage (l.watch what f) :=
  fun k _ racing => (stageOf_watch l what f k).trans racing

theorem await (l : Loops κ ν ε γ) (f : FutureId) (what : Awaited) : l.Stays stage (l.await f what) := by
  have waits : l.Stays stage ((l.watch what f).modifyTask f fun t => { t with awaiting := some what }) :=
    (watch l what f).trans (modifyTask _ f fun _ => rfl)
  unfold Loops.await
  dsimp only
  split
  · split
    · have handed := waits.trans (.of_leads (.handOn _ (fun f l => .cancel l f) (some what)))
      split
      · exact handed.trans (modifyTask _ f fun _ => rfl)
      · exact handed
    · exact waits
  · exact waits

end Stays

theorem stageOf_finish (l : Loops κ ν ε γ) {f k : FutureId} (apart : k ≠ f) (o : Outcome ν ε) :
    (l.finish f o).stageOf stage k = l.stageOf stage k := by
  have settled (l : Loops κ ν ε γ) (o : Outcome ν ε) : (l.settle f o).stageOf stage k = l.stageOf stage k := by
    unfold settle
    split
    · rfl
    · split
      · rfl
      · exact (stageOf_modifyFuture l f _ k).trans (if_neg apart.symm)
  unfold finish
  dsimp only
  split
  · split
    · refine (settled _ _).trans (stageOf_modifyTask l f ?_ k)
      exact fun _ => rfl
    · exact settled l _
  · exact settled l _

/-! How often a task is asked to be cancelled. -/

def isTask (l : Loops κ ν ε γ) (f : FutureId) : Bool := (l.future? f).any (·.task.isSome)

def asks (l : Loops κ ν ε γ) (f : FutureId) : List FutureId :=
  (l.future? f).elim [] fun x => x.members ++ (x.awaiting.bind (·.future?)).toList

/-- Whether a request to cancel a future may come to another. -/
def Reaches (l : Loops κ ν ε γ) : FutureId → FutureId → Prop :=
  Relation.ReflTransGen fun f g => g ∈ l.asks f

def WaitsForItself (l : Loops κ ν ε γ) (f : FutureId) : Prop :=
  Relation.TransGen (fun f g => g ∈ l.asks f) f f

/-- A chain of so many steps by which a request to cancel a future may be handed on. -/
inductive Chain (l : Loops κ ν ε γ) : Nat → FutureId → Prop where
  | here (f : FutureId) : Chain l 0 f
  | next {n : Nat} {f g : FutureId} (asked : g ∈ l.asks f) (rest : Chain l n g) : Chain l (n + 1) f

theorem Chain.mono (asks : ∀ f g, g ∈ l'.asks f → g ∈ l.asks f) {n : Nat} {f : FutureId} (chain : l'.Chain n f) :
    l.Chain n f := by
  induction chain with
  | here f => exact .here f
  | next asked _ ih => exact .next (asks _ _ asked) ih

theorem chain_succ {n : Nat} {f : FutureId} : l.Chain (n + 1) f ↔ ∃ g ∈ l.asks f, l.Chain n g :=
  ⟨fun | .next asked rest => ⟨_, asked, rest⟩, fun ⟨_, asked, rest⟩ => .next asked rest⟩

instance (l : Loops κ ν ε γ) : (n : Nat) → (f : FutureId) → Decidable (l.Chain n f)
  | 0, f => .isTrue (.here f)
  | n + 1, _ =>
    have (g : FutureId) : Decidable (l.Chain n g) := instDecidableChain l n g
    decidable_of_iff _ chain_succ.symm

/-- The stack lets a request to cancel a future come to its end. -/
def Near (l : Loops κ ν ε γ) (f : FutureId) : Prop := ¬l.Chain l.reach f

instance (l : Loops κ ν ε γ) (f : FutureId) : Decidable (l.Near f) := inferInstanceAs (Decidable (¬_))

theorem WaitsForItself.chain {f : FutureId} (waits : l.WaitsForItself f) (n : Nat) : l.Chain n f := by
  suffices all : ∀ g, Relation.TransGen (fun f g => g ∈ l.asks f) g f → l.Chain n g from all f waits
  induction n with
  | zero => exact fun g _ => .here g
  | succ n ih =>
    intro g comes
    obtain ⟨k, asked, further⟩ := Relation.TransGen.head'_iff.mp comes
    exact .next asked (ih k (.trans_right further waits))

/-- A change by which nobody awaits anything else and some tasks are not asked to be cancelled. -/
structure Spares (own : FutureId → Prop) (l l' : Loops κ ν ε γ) : Prop where
  asks : l'.asks = l.asks
  cancels : ∀ k, own k → l'.cancels k = l.cancels k

namespace Spares

variable {own : FutureId → Prop}

theorem refl (l : Loops κ ν ε γ) : l.Spares own l := ⟨rfl, fun _ _ => rfl⟩

theorem trans (h : l.Spares own l') (h' : l'.Spares own l'') : l.Spares own l'' :=
  ⟨h'.asks.trans h.asks, fun k mine => (h'.cancels k mine).trans (h.cancels k mine)⟩

theorem reaches (h : l.Spares own l') : l'.Reaches = l.Reaches := by
  unfold Reaches
  rw [h.asks]

theorem modifyFuture (l : Loops κ ν ε γ) (f : FutureId) {g : Future κ ν ε γ → Future κ ν ε γ}
    (members : ∀ x, (g x).members = x.members) (awaiting : ∀ x, (g x).awaiting = x.awaiting)
    (cancels : own f → ∀ x, (g x).cancels = x.cancels) : l.Spares own (l.modifyFuture f g) where
  asks := by
    funext a
    rw [Loops.asks, future?_modifyFuture, Loops.asks]
    split
    · cases l.future? a with
      | none => rfl
      | some x => simp only [Option.map_some, Option.elim_some, members, awaiting]
    · rfl
  cancels k mine := by
    rw [Loops.cancels, future?_modifyFuture, Loops.cancels]
    split
    next same =>
      cases l.future? k with
      | none => rfl
      | some x => exact cancels (same ▸ mine) x
    next => rfl

theorem modifyTask (l : Loops κ ν ε γ) (f : FutureId) {g : Task κ → Task κ}
    (awaiting : ∀ t, (g t).awaiting = t.awaiting) (cancels : own f → ∀ t, (g t).cancels = t.cancels) :
    l.Spares own (l.modifyTask f g) := by
  refine modifyFuture l f (fun _ => rfl) (fun x => ?_) fun mine x => ?_
  · cases ht : x.task <;> simp [Future.awaiting, ht, awaiting]
  · cases ht : x.task <;> simp [Future.cancels, ht, cancels mine]

theorem aside (futures : l'.futures = l.futures) : l.Spares own l' where
  asks := by
    funext a
    rw [Loops.asks, future?, futures, Loops.asks, future?]
  cancels k _ := by rw [Loops.cancels, future?, futures, Loops.cancels, future?]

theorem settle (l : Loops κ ν ε γ) (f : FutureId) (o : Outcome ν ε) : l.Spares own (l.settle f o) := by
  unfold Loops.settle
  split
  · exact refl l
  · split
    · exact refl l
    · have ended : l.Spares own (l.modifyFuture f fun x => { x with outcome := o, callbacks := [] }) :=
        modifyFuture l f (fun _ => rfl) (fun _ => rfl) fun _ _ => rfl
      exact ended.trans (aside rfl)

theorem settleWaiter (l : Loops κ ν ε γ) (i : WaiterId) (state : WaiterState) :
    l.Spares own (l.settleWaiter i state).2 := by
  unfold Loops.settleWaiter
  split
  · exact refl l
  · split
    · exact aside rfl
    · exact refl l

theorem handOnAll {cancel : FutureId → Loops κ ν ε γ → Request × Loops κ ν ε γ}
    (keeps : ∀ f (l : Loops κ ν ε γ), (∀ k, own k → ¬l.Reaches f k) → l.Spares own (cancel f l).2)
    (ms : List FutureId) (l : Loops κ ν ε γ) (apart : ∀ m ∈ ms, ∀ k, own k → ¬l.Reaches m k) :
    l.Spares own (Loops.handOnAll cancel ms l).2 := by
  induction ms generalizing l with
  | nil => exact refl l
  | cons m ms rest =>
    have asked := keeps m l (apart m List.mem_cons_self)
    have further : ∀ n ∈ ms, ∀ k, own k → ¬(cancel m l).2.Reaches n k := fun n member =>
      asked.reaches ▸ apart n (List.mem_cons_of_mem _ member)
    rw [Loops.handOnAll]
    split <;> rename_i answer <;> rw [answer] at asked further
    · exact asked
    · exact asked.trans (rest _ further)
    · exact asked.trans (rest _ further)

theorem cancelWithin (room : Nat) (f : FutureId) (l : Loops κ ν ε γ) (apart : ∀ k, own k → ¬l.Reaches f k) :
    l.Spares own (Loops.cancelWithin room f l).2 := by
  induction room generalizing f l with
  | zero => exact refl l
  | succ room ih =>
    unfold Loops.cancelWithin
    split
    next => exact refl l
    next x hx =>
      have further (g : FutureId) (member : g ∈ x.members ++ (x.awaiting.bind (·.future?)).toList) (k : FutureId)
          (mine : own k) : ¬l.Reaches g k := by
        refine fun reaches => apart k mine (.head ?_ reaches)
        rw [Loops.asks, hx]
        exact member
      split
      next => exact refl l
      next =>
        split
        next =>
          split
          · exact settle l f _
          · have handed := handOnAll ih x.members l fun m member => further m (List.mem_append_left _ member)
            dsimp only
            split
            · exact handed.trans (modifyFuture _ f (fun _ => rfl) (fun _ => rfl) fun _ _ => rfl)
            · exact handed
        next t ht =>
          have counted : l.Spares own (l.modifyTask f fun t => { t with cancels := t.cancels + 1 }) :=
            modifyTask l f (fun _ => rfl) fun mine => absurd .refl (apart f mine)
          have handed : l.Spares own ((l.modifyTask f fun t => { t with cancels := t.cancels + 1 }).handOn
              (Loops.cancelWithin room) t.awaiting).2 := by
            refine counted.trans ?_
            unfold Loops.handOn
            split
            next => exact refl _
            next g awaited =>
              refine ih g _ (counted.reaches ▸ further g (List.mem_append_right _ ?_))
              simp [Future.awaiting, ht, awaited, Awaited.future?]
            next => exact settleWaiter _ _ _
          dsimp only
          split
          · exact handed.trans (modifyTask _ f (fun _ => rfl) fun _ _ => rfl)
          · exact handed

theorem asks_cancelWithin (room : Nat) (f : FutureId) (l : Loops κ ν ε γ) :
    (Loops.cancelWithin room f l).2.asks = l.asks := by
  have spared : l.Spares (fun _ => False) (Loops.cancelWithin room f l).2 := cancelWithin room f l nofun
  exact spared.asks

end Spares

theorem asks_counted (l : Loops κ ν ε γ) (f : FutureId) :
    (l.modifyTask f fun t => { t with cancels := t.cancels + 1 }).asks = l.asks := by
  have counted : l.Spares (fun _ => False) (l.modifyTask f fun t => { t with cancels := t.cancels + 1 }) :=
    .modifyTask l f (fun _ => rfl) nofun
  exact counted.asks

theorem handOnAll_tooDeep {cancel : FutureId → Loops κ ν ε γ → Request × Loops κ ν ε γ}
    (asks : ∀ f (l : Loops κ ν ε γ), (cancel f l).2.asks = l.asks) {ms : List FutureId} {l : Loops κ ν ε γ}
    (deep : (handOnAll cancel ms l).1 = .tooDeep) :
    ∃ m ∈ ms, ∃ l', l'.asks = l.asks ∧ (cancel m l').1 = .tooDeep := by
  induction ms generalizing l with
  | nil => cases deep
  | cons m ms rest =>
    have same := asks m l
    have later (deep : (handOnAll cancel ms (cancel m l).2).1 = .tooDeep) :
        ∃ n ∈ m :: ms, ∃ l', l'.asks = l.asks ∧ (cancel n l').1 = .tooDeep := by
      obtain ⟨n, member, l', kept, deep⟩ := rest deep
      exact ⟨n, List.mem_cons_of_mem _ member, l', kept.trans same, deep⟩
    rw [handOnAll] at deep
    split at deep <;> rename_i answer
    · exact ⟨m, List.mem_cons_self, l, rfl, congrArg Prod.fst answer⟩
    · rw [answer] at later
      exact later deep
    · rw [answer] at later
      refine later ?_
      dsimp only at deep
      split at deep
      · assumption
      · cases deep

theorem chain_of_tooDeep {room : Nat} {f : FutureId} {l : Loops κ ν ε γ}
    (deep : (cancelWithin room f l).1 = .tooDeep) : l.Chain room f := by
  induction room generalizing f l with
  | zero => exact .here f
  | succ room ih =>
    have next {x : Future κ ν ε γ} (hx : l.future? f = some x) {g : FutureId}
        (member : g ∈ x.members ++ (x.awaiting.bind (·.future?)).toList) {l' : Loops κ ν ε γ}
        (same : l'.asks = l.asks) (deep : (cancelWithin room g l').1 = .tooDeep) : l.Chain (room + 1) f := by
      refine .next ?_ ((ih deep).mono fun a b member => congrFun same a ▸ member)
      rw [asks, hx]
      exact member
    unfold cancelWithin at deep
    split at deep
    next => cases deep
    next x hx =>
      split at deep
      next => cases deep
      next =>
        split at deep
        next =>
          split at deep
          next => cases deep
          next =>
            obtain ⟨m, member, l', same, deep⟩ := handOnAll_tooDeep (Spares.asks_cancelWithin room) deep
            exact next hx (List.mem_append_left _ member) same deep
        next t ht =>
          dsimp only at deep
          split at deep
          next => cases deep
          next =>
            unfold handOn at deep
            split at deep
            next => cases deep
            next g awaited =>
              refine next hx (List.mem_append_right _ ?_) (asks_counted l f) deep
              simp [Future.awaiting, ht, awaited, Awaited.future?]
            next =>
              dsimp only at deep
              split at deep <;> cases deep

theorem cancels_cancel {f : FutureId} (task : l.isTask f = true) (undone : l.isDone f = false)
    (near : l.Near f) : (l.cancel f).2.cancels f = l.cancels f + 1 := by
  obtain ⟨x, hx, isTask⟩ := (Option.any_eq_true _ _).mp task
  obtain ⟨t, ht⟩ := Option.isSome_iff_exists.mp isTask
  have pending : x.outcome.isDone = false := by
    rw [isDone_eq, hx] at undone
    exact undone
  have counted : (l.modifyTask f fun t => { t with cancels := t.cancels + 1 }).cancels f = l.cancels f + 1 := by
    rw [cancels, Loops.modifyTask, future?_modifyFuture, if_pos rfl, cancels, hx]
    simp [Future.cancels, ht]
  have handed (room : Nat) : (l.modifyTask f fun t => { t with cancels := t.cancels + 1 }).Spares (· = f)
      ((l.modifyTask f fun t => { t with cancels := t.cancels + 1 }).handOn (cancelWithin room) t.awaiting).2 := by
    unfold Loops.handOn
    split
    next => exact .refl _
    next g awaited =>
      refine .cancelWithin _ g _ fun k mine reaches => near (WaitsForItself.chain ?_ _)
      rw [mine, Reaches, asks_counted] at reaches
      refine .head' ?_ reaches
      rw [Loops.asks, hx, Option.elim_some]
      exact List.mem_append_right _ (by simp [Future.awaiting, ht, awaited, Awaited.future?])
    next => exact .settleWaiter _ _ _
  unfold Loops.cancel
  cases reach : l.reach with
  | zero => exact absurd (reach ▸ .here f) near
  | succ room =>
    unfold Loops.cancelWithin
    rw [hx]
    dsimp only
    rw [pending, if_neg Bool.false_ne_true, ht]
    dsimp only
    split
    · have later (l : Loops κ ν ε γ) : l.Spares (· = f) (l.modifyTask f fun t => { t with mustCancel := true }) :=
        .modifyTask l f (fun _ => rfl) fun _ _ => rfl
      exact (((handed _).trans (later _)).cancels f rfl).trans counted
    · exact ((handed _).cancels f rfl).trans counted

end Notebook.Loop.Loops

namespace Notebook.Loop.Arena

open Notebook.Loop.Loops

variable {β ν : Type}

theorem stays_deed (w : World β ν) (d : Deed β ν) : w.loops.Stays stageOf (d.perform w).loops := by
  cases d with
  | note e => exact .refl _
  | interrupt =>
    refine .of_futures ?_
    change (w.controller.interrupt w.inLoop w.interrupted w.loops).2.futures = _
    have settled (l : Tracks β ν) (i : LatchId) (o : Outcome Unit Error) : (l.settleLatch i o).futures = l.futures := by
      unfold settleLatch
      split
      · rfl
      · split <;> rfl
    unfold Controller.interrupt
    split
    · rfl
    · split
      · rfl
      · split
        · rfl
        · unfold Controller.arm
          cases w.inLoop <;> exact settled ..
  | create => exact .of_leads (.create _)
  | start c => exact .of_leads (.spawn _ trivial)
  | resolve f v => exact .of_leads (.settleOwn _ f _)
  | fail f e => exact .of_leads (.settleOwn _ f _)
  | cancel f => exact .of_leads (.cancel _ f)

theorem stays_deeds (w : World β ν) (ds : List (Deed β ν)) :
    w.loops.Stays stageOf (ds.foldl Deed.perform w).loops := by
  induction ds generalizing w with
  | nil => exact .refl _
  | cons d ds ih => exact (stays_deed w d).trans (ih (d.perform w))

theorem races_afterTurn {g k : FutureId} {r : Race} (apart : k ≠ g)
    {out : Turn (Coroutine β) ν Error × World β ν} (races : out.2.loops.stageOf stageOf k = .racing r) :
    (afterTurn g out).loops.stageOf stageOf k = .racing r := by
  obtain ⟨t, w⟩ := out
  have goesOn (b : Coroutine β) : ({ w.loops with running := none }.modifyTask g fun t =>
      { t with body := some b }).stageOf stageOf k = .racing r :=
    ((stageOf_modifyFuture _ g _ k).trans (if_neg apart.symm)).trans races
  cases t with
  | awaits what b => exact Stays.await _ g what k r (goesOn b)
  | pauses b => exact goesOn b
  | returns v => exact (stageOf_finish _ apart _).trans races
  | raises e => exact (stageOf_finish _ apart _).trans races
  | cancelled => exact (stageOf_finish _ apart _).trans races
  | leaves e => exact (stageOf_finish _ apart _).trans races

theorem stays_ends (l : Tracks β ν) (r : Race) (s : Signal Error) : l.Stays stageOf (ends r s l).2 := by
  have released : l.Stays stageOf (r.release l) := fun k s racing => by
    refine ((stageOf_modifyFuture l r.task _ k).trans ?_).trans racing
    split
    · rw [Loops.stageOf]
      cases l.future? k <;> rfl
    · rfl
  have cancels : l.Stays stageOf ((r.release l).cancel r.task).2 :=
    released.trans (.of_leads (.cancel _ _))
  cases s with
  | go =>
    change l.Stays stageOf (r.decide l).2
    unfold Race.decide
    dsimp only
    split
    · exact released
    · exact released
    · exact released
    · split
      · exact cancels
      · split <;> exact cancels
  | cancelled => exact cancels
  | failed e => exact cancels

theorem stays_resume (act : Conduct β ν) (w : World β ν) (g : FutureId) (b : Coroutine β) (s : Signal Error) :
    w.loops.Stays stageOf (resume act g b s w).2.loops := by
  have begins (w : World β ν) (task : FutureId) : w.loops.Stays stageOf (startRace task w).2.loops :=
    fun k _ racing => (World.stageOf_begin w.loops task w.controller k).trans racing
  cases b with
  | body b => exact stays_deeds w _
  | raceBody b =>
    cases s with
    | go =>
      rw [resume_raceBody]
      refine .trans (fun k _ racing => ?_) (begins _ _)
      exact (World.stageOf_prepared w b k).trans racing
    | cancelled => exact .refl _
    | failed e => exact .refl _
  | raceTask t =>
    cases s with
    | go => exact begins w t
    | cancelled => exact .refl _
    | failed e => exact .refl _
  | racing r =>
    have opened : resume act g (.racing r) s w = raceTurn r s w := rfl
    rw [opened, raceTurn_eq]
    exact stays_ends w.loops r s

theorem races_turn (act : Conduct β ν) (unit : ν) {w : World β ν} {g k : FutureId} {r : Race} (apart : k ≠ g)
    (s : Signal Error) (races : w.Races k r) : (((runner act unit).turn g s w).2).Races k r := by
  rw [World.races_iff] at races ⊢
  have turning := (stageOf_turning w g s k).trans races
  rcases turn_cases act unit g s w with ⟨_, nothing⟩ | ⟨_, outside⟩ | ⟨x, b, hx, hb, turn⟩
  · rw [nothing]
    exact races
  · rw [outside]
    exact turning
  · rw [turn]
    exact races_afterTurn apart (stays_resume act _ g b _ k r turning)

/-! The turn that ends a race. -/

theorem turn_race (act : Conduct β ν) (unit : ν) {w : World β ν} {f : FutureId} {r : Race}
    (races : w.Races f r) (s : Signal Error) :
    ((runner act unit).turn f s w).2 =
      afterTurn f (endingTurn w.interrupted (ends r (w.turning f s).1 (w.turning f s).2.loops).1,
        { (w.turning f s).2 with loops := (ends r (w.turning f s).1 (w.turning f s).2.loops).2 }) := by
  rcases turn_cases act unit f s w with ⟨none, _⟩ | ⟨none, _⟩ | ⟨x, b, hx, hb, turn⟩
  · cases none.symm.trans races
  · cases none.symm.trans races
  · have same : some b = some (.racing r) := by
      rw [← hb, ← races, hx]
      rfl
    cases same
    have opened : resume act f (.racing r) (w.turning f s).1 (w.turning f s).2
        = raceTurn r (w.turning f s).1 (w.turning f s).2 := rfl
    rw [turn, opened, raceTurn_eq]
    rfl

theorem races_step (act : Conduct β ν) (unit : ν) {w : World β ν} (h : w.Sound) {f : FutureId} {r : Race}
    (races : w.Races f r) (s : Step β ν) :
    (s.perform act unit w).Races f r ∨ ∃ l x, w.loops.take? = some (.wake f (.waiter r.waiter), l) ∧
      w.loops.current = w.loops.loopOf f ∧ w.loops.waiter? r.waiter = some x ∧ x.state ≠ .pending ∧
      s.perform act unit w = ((runner act unit).turn f (l.signalOf (.waiter r.waiter)) { w with loops := l }).2 := by
  have racing := World.races_iff.mp races
  have stays {w' : World β ν} (stays : w.loops.Stays stageOf w'.loops) : w'.Races f r :=
    World.races_iff.mpr (stays f r racing)
  cases s with
  | deed d => exact .inl (stays (stays_deed w d))
  | entry =>
    change (nextEntry act unit w).Races f r ∨ ∃ l x, _ ∧ _ ∧ _ ∧ _ ∧ nextEntry act unit w = _
    unfold nextEntry
    split
    next => exact .inl races
    next e l taken =>
      have same := sameBut_take? taken
      have there : ({ w with loops := l } : World β ν).Races f r :=
        World.races_iff.mpr ((same.stageOf f).trans racing)
      obtain ⟨fits, _⟩ := h.wired.taken taken
      have racing' := (same.stageOf f).trans racing
      cases e with
      | turn g s =>
        refine .inl (races_turn act unit ?_ s there)
        rintro rfl
        exact fits.2.2 r racing'
      | wake g source =>
        by_cases mine : f = g
        · subst mine
          obtain ⟨rfl, home, x, hx, done⟩ := fits.2.2 r racing'
          rw [loopOf, future?, same.futures] at home
          rw [waiter?, same.waiters] at hx
          exact .inr ⟨l, x, taken, home, hx, done, rfl⟩
        · exact .inl (races_turn act unit mine _ there)
      | complete i =>
        refine .inl (World.races_iff.mpr ?_)
        exact (Stays.of_leads (.settleWaiter l i .completed)) f r racing'
      | act a k => cases a
      | expire k =>
        refine .inl (World.races_iff.mpr ?_)
        exact (Stays.of_leads (.settleOwn l k (.result unit))) f r racing'
  | look =>
    refine .inl (stays (.of_futures ?_))
    change w.look.2.loops.futures = _
    unfold World.look
    split
    · rcases current_cases w.controller w.loops with ⟨same, _⟩ | ⟨new, _⟩
      · exact congrArg Loops.futures same
      · have futures := congrArg Loops.futures new
        exact futures
    · split
      · rfl
      · split <;> rfl
  | host =>
    refine .inl (World.races_iff.mpr ?_)
    have old : (w.loops.spawn none).2.future? f = w.loops.future? f :=
      (future?_push w.loops _ f).trans (if_neg (Nat.ne_of_lt (lt_of_racing racing)))
    change (w.loops.spawn none).2.stageOf stageOf f = _
    rw [Loops.stageOf, old]
    exact racing
  | pause t =>
    refine .inl (stays ?_)
    change w.loops.Stays stageOf (if isHost w.loops t then _ else w : World β ν).loops
    split
    · exact .of_futures rfl
    · exact .refl _
  | conclude t =>
    refine .inl (World.races_iff.mpr ?_)
    change (if isHost w.loops t then _ else w : World β ν).loops.stageOf stageOf f = _
    split
    next host =>
      have apart : f ≠ t := by
        rintro rfl
        cases (stageOf_host host).1.symm.trans racing
      exact (stageOf_finish w.loops apart (.result unit)).trans racing
    next => exact racing
  | loop runs => exact .inl races
  | renew close => exact .inl (stays (.of_futures (World.renew_frame w.loops close).1))

/-! How a race ends. -/

theorem outcome_settle {l : Tracks β ν} {f : FutureId} {x : Future (Coroutine β) ν Error Empty}
    (hx : l.future? f = some x) (pending : x.outcome.isDone = false) (o : Outcome ν Error) :
    (l.settle f o).outcome f = o := by
  unfold settle
  rw [hx]
  dsimp only
  rw [pending, if_neg Bool.false_ne_true]
  change (l.modifyFuture f _).outcome f = o
  rw [Loops.outcome, future?_modifyFuture, if_pos rfl, hx]
  rfl

theorem spares_finish (l : Tracks β ν) (f : FutureId) (o : Outcome ν Error) (own : FutureId → Prop) :
    l.Spares own (l.finish f o) := by
  unfold Loops.finish
  dsimp only
  split
  · split
    · refine .trans ?_ (.settle _ f _)
      exact .modifyTask l f (fun _ => rfl) fun _ _ => rfl
    · exact .settle l f _
  · exact .settle l f o

theorem outcome_finish {l : Tracks β ν} {f : FutureId} {x : Future (Coroutine β) ν Error Empty}
    (hx : l.future? f = some x) (pending : x.outcome.isDone = false) (must : l.mustCancel f = false)
    (o : Outcome ν Error) : (l.finish f o).outcome f = o := by
  have kept : (((l.future? f).bind (·.task)).elim false (·.mustCancel)) = false := by
    rw [mustCancel, hx, Option.any_some, Future.mustCancel] at must
    rw [hx, Option.bind_some]
    cases ht : x.task with
    | none => rfl
    | some t => simpa [ht] using must
  unfold Loops.finish
  dsimp only
  rw [kept]
  split
  · exact outcome_settle hx pending _
  · exact outcome_settle hx pending _

/-- What a race hands on of the end of its task. -/
def passedOn : Outcome ν Error → Outcome ν Error
  | .cancelled => .failed { type := "CellError", message := "cell task was cancelled" }
  | o => o

theorem task_of_racing {l : Tracks β ν} {f : FutureId} {r : Race} (racing : l.stageOf stageOf f = .racing r) :
    ∃ x t, l.future? f = some x ∧ x.outcome.isDone = false ∧ x.task = some t := by
  cases hx : l.future? f with
  | none =>
    rw [Loops.stageOf, hx] at racing
    cases racing
  | some x =>
    rw [Loops.stageOf, hx, Option.elim_some, Future.stage, Future.body?] at racing
    cases done : x.outcome.isDone with
    | true =>
      rw [done] at racing
      cases racing
    | false =>
      cases ht : x.task with
      | none =>
        rw [done, ht] at racing
        cases racing
      | some t => exact ⟨x, t, rfl, done, ht⟩

/-- What the loops of a race are when its turn comes, next to what they were before. -/
structure Resumes (f : FutureId) (l l' : Tracks β ν) : Prop where
  outcome : ∀ k, l'.outcome k = l.outcome k
  cancels : ∀ k, l'.cancels k = l.cancels k
  asks : ∀ k g, g ∈ l'.asks k → g ∈ l.asks k
  latch : ∀ i, l'.latchOutcome i = l.latchOutcome i
  tasks : ∀ k, l'.isTask k = l.isTask k
  stays : l.Stays stageOf l'
  reach : l'.reach = l.reach

theorem outcome_modifyFuture (l : Tracks β ν) (f : FutureId)
    {g : Future (Coroutine β) ν Error Empty → Future (Coroutine β) ν Error Empty}
    (same : ∀ x, (g x).outcome = x.outcome) (k : FutureId) : (l.modifyFuture f g).outcome k = l.outcome k := by
  rw [Loops.outcome, future?_modifyFuture, Loops.outcome]
  by_cases mine : f = k
  · rw [if_pos mine]
    cases l.future? k with
    | none => rfl
    | some x => exact same x
  · rw [if_neg mine]

theorem isTask_modifyFuture (l : Tracks β ν) (f : FutureId)
    {g : Future (Coroutine β) ν Error Empty → Future (Coroutine β) ν Error Empty}
    (same : ∀ x, (g x).task.isSome = x.task.isSome) (k : FutureId) : (l.modifyFuture f g).isTask k = l.isTask k := by
  rw [Loops.isTask, future?_modifyFuture, Loops.isTask]
  split
  · cases l.future? k with
    | none => rfl
    | some x => exact same x
  · rfl

theorem latchOutcome_modifyLatch (l : Tracks β ν) (i : LatchId) {g : Latch Error → Latch Error}
    (same : ∀ x, (g x).outcome = x.outcome) (k : LatchId) : (l.modifyLatch i g).latchOutcome k = l.latchOutcome k := by
  rw [latchOutcome, latch?_modifyLatch, latchOutcome]
  by_cases mine : i = k
  · rw [if_pos mine]
    cases l.latch? k with
    | none => rfl
    | some x => exact same x
  · rw [if_neg mine]

theorem resumes_takeSignal (l : Tracks β ν) (f : FutureId) (s : Signal Error) :
    Resumes f l (l.takeSignal f s).2 := by
  unfold Loops.takeSignal
  split
  next => exact ⟨fun _ => rfl, fun _ => rfl, fun _ _ => id, fun _ => rfl, fun _ => rfl, .refl l, rfl⟩
  next t ht =>
    refine ⟨fun k => ?_, fun k => ?_, fun k g member => ?_, fun _ => rfl, fun k => ?_, ?_, rfl⟩
    · refine outcome_modifyFuture l f ?_ k
      exact fun _ => rfl
    · change (l.modifyFuture f _).cancels k = _
      rw [Loops.cancels, future?_modifyFuture, Loops.cancels]
      split
      · cases l.future? k with
        | none => rfl
        | some x => cases hx : x.task <;> simp [Future.cancels, hx]
      · rfl
    · change g ∈ (l.modifyFuture f _).asks k at member
      rw [Loops.asks, future?_modifyFuture] at member
      rw [Loops.asks]
      split at member
      · cases hx : l.future? k with
        | none =>
          rw [hx] at member
          cases member
        | some x =>
          rw [hx] at member
          cases hy : x.task <;> simp_all [Future.awaiting]
      · exact member
    · refine isTask_modifyFuture l f (fun x => ?_) k
      cases x.task <;> rfl
    · refine Stays.modifyTask l f ?_
      exact fun _ => rfl

theorem Resumes.trans {f : FutureId} {l l' l'' : Tracks β ν} (h : Resumes f l l') (h' : Resumes f l' l'') :
    Resumes f l l'' where
  outcome k := (h'.outcome k).trans (h.outcome k)
  cancels k := (h'.cancels k).trans (h.cancels k)
  asks k g member := h.asks k g (h'.asks k g member)
  latch i := (h'.latch i).trans (h.latch i)
  tasks k := (h'.tasks k).trans (h.tasks k)
  stays := h.stays.trans h'.stays
  reach := h'.reach.trans h.reach

theorem Resumes.aside {f : FutureId} {l l' : Tracks β ν} (futures : l'.futures = l.futures)
    (latches : l'.latches = l.latches) (reach : l'.reach = l.reach) : Resumes f l l' where
  outcome k := by rw [Loops.outcome, future?, futures, Loops.outcome, future?]
  cancels k := by rw [Loops.cancels, future?, futures, Loops.cancels, future?]
  asks k g member := by
    rw [Loops.asks, future?, futures] at member
    exact member
  latch i := by rw [latchOutcome, latch?, latches, latchOutcome, latch?]
  tasks k := by rw [Loops.isTask, future?, futures, Loops.isTask, future?]
  stays := .of_futures futures
  reach := reach

theorem Resumes.near {f : FutureId} {l l' : Tracks β ν} (h : Resumes f l l') {k : FutureId} (near : l.Near k) :
    l'.Near k := fun chain => near (h.reach ▸ chain.mono h.asks)

theorem resumes_release (l : Tracks β ν) (f : FutureId) (r : Race) : Resumes f l (r.release l) where
  outcome k := by
    refine outcome_modifyFuture l r.task ?_ k
    exact fun _ => rfl
  cancels k := by
    have spared : l.Spares (fun _ => True) (l.removeWaiter r.task r.waiter) :=
      .modifyFuture l _ (fun _ => rfl) (fun _ => rfl) fun _ _ => rfl
    exact spared.cancels k trivial
  asks k g member := by
    have spared : l.Spares (fun _ => True) (l.removeWaiter r.task r.waiter) :=
      .modifyFuture l _ (fun _ => rfl) (fun _ => rfl) fun _ _ => rfl
    exact (congrFun spared.asks k) ▸ member
  latch i := by
    refine latchOutcome_modifyLatch (l.removeWaiter r.task r.waiter) r.signal ?_ i
    exact fun _ => rfl
  tasks k := by
    refine isTask_modifyFuture l r.task ?_ k
    exact fun _ => rfl
  stays := by
    intro k s racing
    refine ((stageOf_modifyFuture l r.task _ k).trans ?_).trans racing
    split
    · rw [Loops.stageOf]
      cases l.future? k <;> rfl
    · rfl
  reach := rfl

/-- How a race ends whose turn has come, when nobody asked its task or itself to be cancelled. -/
theorem outcome_race {w : World β ν} (h : w.loops.Wired stageOf) {f : FutureId} {r : Race} (races : w.Races f r)
    (race : w.loops.cancels f = 0) (fired : w.loops.isDone r.task = false →
      w.loops.latchOutcome r.signal = .failed w.interrupted) :
    let w' := afterTurn f (endingTurn w.interrupted (r.decide w.loops).1,
      { w with loops := (r.decide w.loops).2 })
    (w.loops.isDone r.task = true →
      w'.loops.outcome f = passedOn (w.loops.outcome r.task) ∧ w'.loops.cancels r.task = w.loops.cancels r.task) ∧
    (w.loops.isDone r.task = false →
      w'.loops.outcome f = .failed w.interrupted ∨ w'.loops.outcome f = .failed tooDeep) ∧
    (w.loops.isDone r.task = false → w.loops.Near r.task →
      w'.loops.outcome f = .failed w.interrupted ∧
      (w.loops.isTask r.task = true → w'.loops.cancels r.task = w.loops.cancels r.task + 1)) := by
  have racing := World.races_iff.mp races
  have released := resumes_release w.loops f r
  have wired := h.release r
  obtain ⟨x, t, hx, pending, ht⟩ := task_of_racing (released.stays f r racing)
  have must : (r.release w.loops).mustCancel f = false := by
    refine Bool.eq_false_iff.mpr fun must => ?_
    have asked := wired.must f must
    rw [released.cancels, race] at asked
    exact Nat.lt_irrefl 0 asked
  have ended_ (o : Outcome ν Error) : (({ r.release w.loops with running := none } : Tracks β ν).finish f o).outcome f = o :=
    outcome_finish (l := { r.release w.loops with running := none }) hx pending must o
  have spared (o : Outcome ν Error) :
      (({ r.release w.loops with running := none } : Tracks β ν).finish f o).cancels r.task
        = w.loops.cancels r.task :=
    ((spares_finish _ f o (· = r.task)).cancels r.task rfl).trans (released.cancels r.task)
  have cancel : Leads (fun _ => True) (r.release w.loops) ((r.release w.loops).cancel r.task).2 :=
    .cancel _ r.task
  have still (e : Error) : (({ ((r.release w.loops).cancel r.task).2 with running := none } : Tracks β ν).settle f
      (.failed e)).outcome f = .failed e := by
    obtain ⟨y, _, hy, open_, _⟩ := task_of_racing ((Stays.of_leads cancel) f r (released.stays f r racing))
    exact outcome_settle (l := { ((r.release w.loops).cancel r.task).2 with running := none }) hy open_ _
  -- The task is asked to be cancelled, and the stack may be used up by it.
  have opened (undone : w.loops.isDone r.task = false) :
      ((r.release w.loops).cancel r.task).1 = .tooDeep ∧
        r.decide w.loops = (.tooDeep, ((r.release w.loops).cancel r.task).2) ∨
      ((r.release w.loops).cancel r.task).1 ≠ .tooDeep ∧
        r.decide w.loops = (.failed w.interrupted, ((r.release w.loops).cancel r.task).2) := by
    have outcome : w.loops.outcome r.task = .pending := by
      cases outcome : w.loops.outcome r.task with
      | pending => rfl
      | _ =>
        rw [isDone, outcome] at undone
        cases undone
    have signal : ((r.release w.loops).cancel r.task).2.latchOutcome r.signal = .failed w.interrupted := by
      rw [← fired undone, ← released.latch, latchOutcome, latch?, cancel.latches, latchOutcome, latch?]
    unfold Race.decide
    dsimp only
    rw [released.outcome, outcome]
    dsimp only
    split
    next deep => exact .inl ⟨deep, rfl⟩
    next taken =>
      rw [signal]
      exact .inr ⟨taken, rfl⟩
  refine ⟨fun done => ?_, fun undone => ?_, fun undone near => ?_⟩
  · cases outcome : w.loops.outcome r.task with
    | pending =>
      rw [isDone, outcome] at done
      cases done
    | result v =>
      have decided : r.decide w.loops = (.returned v, r.release w.loops) := by
        unfold Race.decide
        dsimp only
        rw [released.outcome, outcome]
      rw [decided]
      exact ⟨ended_ _, spared _⟩
    | failed e =>
      have decided : r.decide w.loops = (.failed e, r.release w.loops) := by
        unfold Race.decide
        dsimp only
        rw [released.outcome, outcome]
      rw [decided]
      exact ⟨ended_ _, spared _⟩
    | cancelled =>
      have decided : r.decide w.loops = (.taskCancelled, r.release w.loops) := by
        unfold Race.decide
        dsimp only
        rw [released.outcome, outcome]
      rw [decided]
      exact ⟨ended_ _, spared _⟩
  · rcases opened undone with ⟨_, decided⟩ | ⟨_, decided⟩
    · rw [decided]
      exact .inr (still _)
    · rw [decided]
      exact .inl (still _)
  · rcases opened undone with ⟨deep, _⟩ | ⟨_, decided⟩
    · exact absurd (chain_of_tooDeep deep) (released.near near)
    · rw [decided]
      refine ⟨still _, fun task => ?_⟩
      have asked := cancels_cancel ((released.tasks r.task).trans task)
        (by rw [isDone, released.outcome]; exact undone) (released.near near)
      let l : Tracks β ν := { ((r.release w.loops).cancel r.task).2 with running := none }
      have finished : l.Spares (· = r.task) (l.settle f (.failed w.interrupted)) := .settle l f _
      rw [released.cancels] at asked
      exact (finished.cancels r.task rfl).trans asked

/-- A race that nobody asked to be cancelled is resumed only when it is decided, and goes on. -/
theorem resumes_decided {w : World β ν} (h : w.loops.Wired stageOf) {f : FutureId} {r : Race} (races : w.Races f r)
    (race : w.loops.cancels f = 0) {x : Waiter} (hx : w.loops.waiter? r.waiter = some x) (done : x.state ≠ .pending)
    {l : Tracks β ν} {e : Handle Error Empty} (taken : w.loops.take? = some (e, l)) :
    w.loops.Decided r ∧ (l.takeSignal f (l.signalOf (.waiter r.waiter))).1 = .go := by
  have same := sameBut_take? taken
  obtain ⟨y, hy, _, completed, cancelled⟩ := h.races f r (World.races_iff.mp races)
  obtain rfl := Option.some.inj (hx.symm.trans hy)
  have state : x.state = .completed := by
    cases state : x.state with
    | pending => exact absurd state done
    | completed => rfl
    | cancelled => exact absurd race (Nat.ne_of_gt (cancelled state))
  refine ⟨completed state, ?_⟩
  have go : l.signalOf (.waiter r.waiter) = .go := by
    have here : l.waiterState r.waiter = .completed := by
      rw [waiterState, waiter?, same.waiters, ← waiter?, hx]
      exact state
    unfold signalOf
    dsimp only
    rw [here]
    rfl
  rw [go]
  unfold Loops.takeSignal
  split
  next => rfl
  next t ht =>
    have must : t.mustCancel = false := by
      refine Bool.eq_false_iff.mpr fun must => absurd race (Nat.ne_of_gt (h.must f ?_))
      obtain ⟨z, hz, task⟩ := Option.bind_eq_some_iff.mp ht
      rw [future?, same.futures] at hz
      rw [mustCancel, future?, hz, Option.any_some, Future.mustCancel, task]
      exact must
    dsimp only
    rw [must]
    rfl

/-! Whole races. -/

/-- What is so between the step by which a race begins, after which the world is `start`, and its end. -/
structure Since (start w : World β ν) (f : FutureId) (r : Race) : Prop where
  there : f < w.loops.futures.size
  begun : w.loops.stageOf stageOf f ≠ .ahead
  home : w.loops.loopOf f = start.loops.current
  later : start.loops.current ≤ w.loops.current
  message : w.message = start.message
  signal : w.loops.current = start.loops.current → w.Races f r →
    (w.Armed r.signal ∧ w.interrupts = start.interrupts) ∨ (w.Fired r.signal ∧ start.interrupts < w.interrupts)

theorem since_begin (act : Conduct β ν) (unit : ν) {w : World β ν} (h : w.Sound) {f : FutureId} {r : Race}
    {s : Step β ν} (before : ¬w.Races f r) (races : (s.perform act unit w).Races f r) :
    Since (s.perform act unit w) (s.perform act unit w) f r := by
  have racing := World.races_iff.mp races
  rcases World.moves_step act unit h s with ⟨close, rfl⟩ | moves
  · refine absurd (World.races_iff.mpr ?_) before
    rw [← racing, Loops.stageOf, Loops.stageOf, future?, future?]
    exact congrArg (fun fs : Array (Future (Coroutine β) ν Error Empty) => fs[f]?.elim Stage.plain (·.stage stageOf))
      (World.renew_frame w.loops close).1.symm
  · rcases moves.races f r races with old | ⟨_, armed, _, home⟩
    · exact absurd old before
    · exact ⟨lt_of_racing racing, fun ahead => (by cases ahead.symm.trans racing), home, Nat.le_refl _, rfl,
        fun _ _ => .inl ⟨armed, rfl⟩⟩

theorem Since.step (act : Conduct β ν) (unit : ν) {start w : World β ν} (h : w.Sound) {f : FutureId} {r : Race}
    (since : Since start w f r) (s : Step β ν) : Since start (s.perform act unit w) f r := by
  rcases World.moves_step act unit h s with ⟨close, rfl⟩ | moves
  · -- The race stays behind on its loop.
    obtain ⟨futures, _, current, _, _⟩ := World.renew_frame w.loops close
    have further : start.loops.current < (w.loops.renew close).current := by
      rw [current]
      exact Nat.lt_of_le_of_lt since.later h.current
    refine ⟨?_, ?_, ?_, Nat.le_of_lt further, since.message, fun same => absurd same (Nat.ne_of_gt further)⟩
    · exact Nat.lt_of_lt_of_eq since.there (congrArg Array.size futures.symm)
    · change (w.loops.renew close).stageOf stageOf f ≠ _
      rw [Loops.stageOf, future?, futures]
      exact since.begun
    · change (w.loops.renew close).loopOf f = _
      rw [Loops.loopOf, future?, futures]
      exact since.home
  · have frame := moves.frame
    refine ⟨Nat.lt_of_lt_of_le since.there frame.size, moves.begun f since.there since.begun,
      (frame.homes f since.there).trans since.home, Nat.le_trans since.later (Nat.le_of_eq frame.current.symm),
      moves.message.trans since.message, fun same races => ?_⟩
    rcases moves.races f r races with old | ⟨ahead, _⟩
    · rcases since.signal (frame.current.symm.trans same) old with ⟨armed, count⟩ | ⟨fired, more⟩
      · rw [← count]
        exact moves.armed r.signal armed
      · exact .inr ⟨moves.fired r.signal fired, Nat.lt_of_lt_of_le more moves.count⟩
    · exact absurd ahead since.begun

theorem Since.after (act : Conduct β ν) (unit : ν) {start w : World β ν} (h : w.Sound) {f : FutureId} {r : Race}
    (since : Since start w f r) (steps : List (Step β ν)) : Since start (w.after act unit steps) f r := by
  induction steps generalizing w with
  | nil => exact since
  | cons s steps ih => exact ih (h.step act unit s) (since.step act unit h s)

/-- How a race ends: `start` is the world after the step by which it began, `w` the one before the step by
which it ends. -/
theorem Since.outcome (act : Conduct β ν) (unit : ν) {start w : World β ν} (h : w.Sound) {f : FutureId} {r : Race}
    (since : Since start w f r) (races : w.Races f r) {s : Step β ν}
    (ended : (s.perform act unit w).loops.isDone f = true) (race : w.loops.cancels f = 0) :
    let w' := s.perform act unit w
    (w.loops.isDone r.task = false → start.interrupts < w.interrupts) ∧
    (w.loops.isDone r.task = true →
      w'.loops.outcome f = passedOn (w.loops.outcome r.task) ∧ w'.loops.cancels r.task = w.loops.cancels r.task) ∧
    (w.loops.isDone r.task = false →
      w'.loops.outcome f = .failed w.interrupted ∨ w'.loops.outcome f = .failed tooDeep) ∧
    (w.loops.isDone r.task = false → w.loops.Near r.task →
      w'.loops.outcome f = .failed w.interrupted ∧
      (w.loops.isTask r.task = true → w'.loops.cancels r.task = w.loops.cancels r.task + 1)) := by
  rcases races_step act unit h races s with still | ⟨l, x, taken, home, hx, done, step⟩
  · obtain ⟨y, _, hy, pending, _⟩ := task_of_racing (World.races_iff.mp still)
    rw [isDone_eq, hy, Option.elim_some, pending] at ended
    cases ended
  · obtain ⟨decided, go⟩ := resumes_decided h.wired races race hx done taken
    have same := sameBut_take? taken
    have signal := since.signal (home.trans since.home) races
    have fired (undone : w.loops.isDone r.task = false) : w.Fired r.signal ∧ start.interrupts < w.interrupts := by
      rcases signal with ⟨armed, _⟩ | fired
      · obtain ⟨y, hy, pending, _⟩ := armed.latch
        rcases decided with now | now
        · rw [undone] at now
          cases now
        · rw [latchDone_eq, hy, Option.elim_some, pending] at now
          cases now
      · exact fired
    -- The world in which the race decides.
    let sig := l.signalOf (.waiter r.waiter)
    let w₁ : World β ν := { w with loops := l }
    let w₂ : World β ν := (w₁.turning f sig).2
    have resumes : Resumes f w.loops w₂.loops :=
      ((Resumes.aside same.futures same.latches (reach_take? taken)).trans (resumes_takeSignal l f sig)).trans
        (.aside rfl rfl rfl)
    have racing := World.races_iff.mp races
    have races₁ : w₁.Races f r := World.races_iff.mpr ((same.stageOf f).trans racing)
    have step' : s.perform act unit w = afterTurn f (endingTurn w.interrupted (r.decide w₂.loops).1,
        { w₂ with loops := (r.decide w₂.loops).2 }) := by
      have decides : ends r (w₁.turning f sig).1 w₂.loops = r.decide w₂.loops := by
        change ends r (l.takeSignal f sig).1 w₂.loops = _
        rw [go]
        rfl
      rw [step, turn_race act unit races₁, decides]
      rfl
    have wired₂ : w₂.loops.Wired stageOf := wired_turning (h.wired.take taken) f sig
    have ends := outcome_race wired₂ (World.races_iff.mpr (resumes.stays f r racing))
      ((resumes.cancels f).trans race) fun undone => by
        rw [isDone, resumes.outcome] at undone
        obtain ⟨y, hy, failed⟩ := (fired undone).1
        rw [resumes.latch, latchOutcome, hy]
        exact failed
    rw [isDone, resumes.outcome, resumes.cancels, resumes.tasks] at ends
    rw [step']
    exact ⟨fun undone => (fired undone).2, ends.1, ends.2.1, fun undone near =>
      ends.2.2 undone (resumes.near near)⟩

/-- A race raises the interrupt exactly if there was one since the race took its signal and its task was
not done when the race was resumed; the task is then cancelled once. Otherwise the race ends as its task
did, which was not cancelled, and says so of a task that ended cancelled all the same.

The race runs as the task `f` from the step `first` to the step `last`. Bodies do anything in their turns,
and anything is done from outside in between: other races, interrupts, with or without a running loop,
and fresh loops. Nobody else asks the race or its task to be cancelled. A request to cancel is handed on
along what a task awaits, as far as the stack reaches: where a task waits for itself, or along more tasks
than that, the error of the stack may take the place of the interrupt. -/
theorem raises_interrupted_iff (message : String) (reach : Nat) (act : Conduct β ν) (unit : ν)
    (before during : List (Step β ν)) (first last : Step β ν) (f : FutureId) (r : Race) :
    let w₀ := (World.fresh β ν message reach).after act unit before
    let start := first.perform act unit w₀
    let w := start.after act unit during
    let w' := last.perform act unit w
    let interrupted : Outcome ν Error := .failed { type := "Interrupted", message }
    let undone := start.interrupts < w.interrupts ∧ w.loops.isDone r.task = false
    let near := w.loops.Near r.task
    ¬w₀.Races f r → start.Races f r → w.Races f r → w'.loops.isDone f = true →
    w.loops.cancels f = 0 → w.loops.cancels r.task = 0 → w.loops.outcome r.task ≠ interrupted →
    (near → (w'.loops.outcome f = interrupted ↔ undone)) ∧
    (near → undone → w.loops.isTask r.task = true → w'.loops.cancels r.task = 1) ∧
    (undone → w'.loops.outcome f = interrupted ∨ w'.loops.outcome f = .failed tooDeep) ∧
    (¬undone → w'.loops.outcome f ≠ interrupted ∧ w'.loops.outcome f = passedOn (w.loops.outcome r.task) ∧
      w'.loops.cancels r.task = 0) := by
  intro w₀ start w w' interrupted undone near out begun races ended race task own
  have sound₀ : w₀.Sound := (World.sound_fresh message reach).after act unit before
  have sound₁ : start.Sound := sound₀.step act unit first
  have since := (since_begin act unit sound₀ out begun).after act unit sound₁ during
  have sound : w.Sound := sound₁.after act unit during
  obtain ⟨counted, finished, raised, exact_⟩ := since.outcome act unit sound races ended race
  have mine : (.failed w.interrupted : Outcome ν Error) = interrupted := by
    have same : w.message = message :=
      (since.message.trans (sound₀.message_step act unit first)).trans
        ((World.sound_fresh message reach).message_after act unit before)
    rw [World.interrupted, same]
  rw [mine] at raised exact_
  have all (h : ¬undone) : w.loops.isDone r.task = true := by
    refine Bool.of_not_eq_false fun open_ => h ⟨counted open_, open_⟩
  have other (h : ¬undone) : w'.loops.outcome f ≠ interrupted := by
    intro ends
    rw [(finished (all h)).1] at ends
    cases outcome : w.loops.outcome r.task with
    | cancelled =>
      rw [outcome] at ends
      have apart : "CellError" ≠ "Interrupted" := by decide
      exact absurd (congrArg Error.type (Outcome.failed.inj ends)) apart
    | _ =>
      rw [outcome] at ends own
      exact own ends
  refine ⟨fun close => ⟨fun ends => ?_, fun h => (exact_ h.2 close).1⟩, fun close h isTask => ?_,
    fun h => raised h.2, fun h => ?_⟩
  · exact Decidable.byContradiction fun h => other h ends
  · have once := (exact_ h.2 close).2 isTask
    rw [task] at once
    exact once
  · have ends := finished (all h)
    rw [task] at ends
    exact ⟨other h, ends⟩

deriving instance DecidableEq for Coroutine

deriving instance DecidableEq for Outcome

instance [DecidableEq β] (w : World β ν) (f : FutureId) (r : Race) : Decidable (w.Races f r) :=
  inferInstanceAs (Decidable (_ = _))

/-- A body that waits forever is interrupted. -/
theorem raises_interrupted_waiting :
    let act : Conduct Unit Unit := fun _ _ _ w => ([.create], .awaits w.loops.futures.size ())
    let w₀ := (World.fresh Unit Unit "stop" 980).after act () [.loop true, .deed (.start (.race ()))]
    let start := Step.entry.perform act () w₀
    let w := start.after act () [.entry, .deed .interrupt, .entry]
    let w' := Step.entry.perform act () w
    let r : Race := { task := 1, signal := 0, waiter := 0 }
    let interrupted : Outcome Unit Error := .failed { type := "Interrupted", message := "stop" }
    (¬w₀.Races 0 r ∧ start.Races 0 r ∧ w.Races 0 r ∧ w'.loops.isDone 0 = true ∧ w.loops.cancels 0 = 0 ∧
      w.loops.cancels 1 = 0 ∧ w.loops.outcome 1 ≠ interrupted ∧ w.loops.Near 1) ∧
    start.interrupts < w.interrupts ∧ w'.loops.outcome 0 = interrupted := by
  intro act w₀ start w w' r interrupted
  have out : ¬w₀.Races 0 r := by decide +kernel
  have begun : start.Races 0 r := by decide +kernel
  have races : w.Races 0 r := by decide +kernel
  have ended : w'.loops.isDone 0 = true := by decide +kernel
  have race : w.loops.cancels 0 = 0 := by decide +kernel
  have task : w.loops.cancels 1 = 0 := by decide +kernel
  have own : w.loops.outcome 1 ≠ interrupted := by decide +kernel
  have near : w.loops.Near 1 := by decide +kernel
  have undone : start.interrupts < w.interrupts ∧ w.loops.isDone 1 = false := by decide +kernel
  obtain ⟨raises, _⟩ := raises_interrupted_iff "stop" 980 act () [.loop true, .deed (.start (.race ()))]
    [.entry, .deed .interrupt, .entry] .entry .entry 0 r out begun races ended race task own
  exact ⟨⟨out, begun, races, ended, race, task, own, near⟩, undone.1, (raises near).mpr undone⟩

/-- Where two tasks wait for each other, the request to cancel one uses up the stack. -/
example :
    let act : Conduct Unit Unit := fun task _ _ _ => ([], .awaits (3 - task) ())
    let w := (World.fresh Unit Unit "stop" 980).after act () [.loop true, .deed (.start (.race ())), .entry,
      .deed (.start (.body ())), .entry, .entry, .deed .interrupt, .entry, .entry]
    w.loops.isDone 1 = false ∧ ¬w.loops.Near 1 ∧ w.loops.outcome 0 = .failed tooDeep := by
  decide +kernel

/-- A body that ends cancelled of itself, though nobody asked it to, is not what its race ends as. -/
theorem not_passed_on_cancelled :
    let act : Conduct Unit Unit := fun _ _ _ _ => ([], .cancelled)
    let w := (World.fresh Unit Unit "stop" 980).after act ()
      [.loop true, .deed (.start (.race ())), .entry, .entry, .entry, .entry]
    (w.interrupts = 0 ∧ w.loops.cancels 0 = 0 ∧ w.loops.cancels 1 = 0) ∧
      w.loops.outcome 1 = .cancelled ∧
      w.loops.outcome 0 = .failed { type := "CellError", message := "cell task was cancelled" } := by
  decide +kernel

end Notebook.Loop.Arena
