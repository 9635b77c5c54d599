import Notebook.Loop.Arena
import Notebook.Proofs.Calm

/-! Worlds of races stay wired, whatever bodies do in their turns and whatever is done from outside. -/

set_option autoImplicit false

namespace Notebook.Loop.Arena

open Notebook.Loop.Loops

variable {β ν : Type}

def stageOf : Coroutine β → Stage
  | .body _ => .plain
  | .raceBody _ => .ahead
  | .raceTask _ => .ahead
  | .racing r => .racing r

abbrev Tracks (β ν : Type) := Loops (Coroutine β) ν Error Empty

theorem launch_stage (c : Launch β) (r : Race) : stageOf c.coroutine ≠ .racing r := by
  cases c <;> exact nofun

/-! Turns, opened. -/

/-- What the loops of a world are after a task ended its turn. -/
def ended (l : Tracks β ν) (f : FutureId) : Turn (Coroutine β) ν Error → Tracks β ν
  | .awaits what body => (l.modifyTask f fun t => { t with body := some body }).await f what
  | .pauses body => (l.modifyTask f fun t => { t with body := some body }).soon (l.loopOf f) (.turn f .go)
  | .returns v => l.finish f (.result v)
  | .raises e => l.finish f (.failed e)
  | .cancelled => l.finish f .cancelled
  | .leaves e => l.finish f (.failed e)

theorem endTurn_eq (act : Conduct β ν) (unit : ν) (f : FutureId) (t : Turn (Coroutine β) ν Error)
    (w : World β ν) :
    ((runner act unit).endTurn f t w).2 = { w with loops := ended w.loops f t } := by
  cases t <;> rfl

/-- A world after the turn of a task, from how the turn ended and the world as it was then. -/
def afterTurn (f : FutureId) (out : Turn (Coroutine β) ν Error × World β ν) : World β ν :=
  { out.2 with loops := ended { out.2.loops with running := none } f out.1 }

def World.turning (w : World β ν) (f : FutureId) (s : Signal Error) : Signal Error × World β ν :=
  ((w.loops.takeSignal f s).1, { w with loops := { (w.loops.takeSignal f s).2 with running := some f } })

theorem body_takeSignal (l : Tracks β ν) (f : FutureId) (s : Signal Error) :
    (((l.takeSignal f s).2.future? f).bind (·.task)).map (·.body) = ((l.future? f).bind (·.task)).map (·.body) := by
  unfold Loops.takeSignal
  split
  next => rfl
  next =>
    change (((l.modifyFuture f _).future? f).bind (·.task)).map (·.body) = _
    rw [future?_modifyFuture, if_pos rfl]
    cases l.future? f with
    | none => rfl
    | some x => cases ht : x.task <;> simp [ht]

/-- What a turn comes to: nothing, what a task driven from outside does, or what a body does. -/
theorem turn_cases (act : Conduct β ν) (unit : ν) (f : FutureId) (s : Signal Error) (w : World β ν) :
    ((w.loops.future? f).bind (·.body?) = none ∧ ((runner act unit).turn f s w).2 = w) ∨
      ((w.loops.future? f).bind (·.body?) = none ∧ ((runner act unit).turn f s w).2 = (w.turning f s).2) ∨
      ∃ x b, w.loops.future? f = some x ∧ x.body? = some b ∧
        ((runner act unit).turn f s w).2 =
          afterTurn f (resume act f b (w.turning f s).1 (w.turning f s).2) := by
  have opened : (runner act unit).turn f s w = if w.loops.isDone f then (none, w)
      else (runner act unit).takeTurn f (w.loops.takeSignal f s).1 (w.loops.takeSignal f s).2 w := by
    change (if w.loops.isDone f then (pure none : M β ν (Option (Halt Error)))
      else (runner act unit).takeTurn f (w.loops.takeSignal f s).1 (w.loops.takeSignal f s).2) w = _
    split <;> rfl
  have same := body_takeSignal w.loops f s
  rw [opened]
  rw [isDone_eq]
  unfold Runner.takeTurn
  cases hx : w.loops.future? f with
  | none =>
    rw [hx] at same
    rw [Option.elim_none, if_neg Bool.false_ne_true, Option.map_eq_none_iff.mp same]
    exact .inl ⟨rfl, rfl⟩
  | some x =>
    rw [hx, Option.bind_some] at same
    rw [Option.elim_some, Option.bind_some, Future.body?]
    cases done : x.outcome.isDone with
    | true => exact .inl ⟨rfl, rfl⟩
    | false =>
      rw [if_neg Bool.false_ne_true, if_neg Bool.false_ne_true]
      cases ht : x.task with
      | none =>
        rw [ht] at same
        rw [Option.map_eq_none_iff.mp same]
        exact .inl ⟨rfl, rfl⟩
      | some t =>
        rw [ht] at same
        obtain ⟨u, hu, body⟩ := Option.map_eq_some_iff.mp same
        change u.body = t.body at body
        rw [hu]
        dsimp only
        rw [body, Option.bind_some]
        cases hb : t.body with
        | none => exact .inr (.inl ⟨rfl, rfl⟩)
        | some b =>
          refine .inr (.inr ⟨x, b, rfl, ?_, endTurn_eq act unit f _ _⟩)
          rw [Future.body?, done, if_neg Bool.false_ne_true, ht]
          exact hb

/-! Deeds. -/

theorem Deed.wired {w : World β ν} (h : w.loops.Wired stageOf) (d : Deed β ν) :
    (d.perform w).loops.Wired stageOf := by
  cases d with
  | note e => exact h
  | interrupt => exact h.interrupt ..
  | create => exact h.create
  | start c =>
    refine h.spawn fun b r same => ?_
    cases same
    exact launch_stage c r
  | resolve f v => exact h.settleOwn f rfl
  | fail f e => exact h.settleOwn f rfl
  | cancel f => exact (Rewired.cancel h f).1

theorem World.tame_interrupt (w : World β ν) : w.loops.Tame stageOf w.interrupt.loops := by
  have settled (l : Tracks β ν) (i : LatchId) (o : Outcome Unit Error) : l.Tame stageOf (l.settleLatch i o) := by
    unfold settleLatch
    split
    · exact .refl l
    · split
      · exact .refl l
      · refine .trans ?_ (Calm.soonAll _ _ _).toTame
        exact .aside rfl rfl rfl fun _ => rfl
  change w.loops.Tame stageOf (w.controller.interrupt w.inLoop w.interrupted w.loops).2
  unfold Controller.interrupt
  split
  · exact .refl _
  · split
    · exact .refl _
    · split
      · exact .refl _
      · unfold Controller.arm
        cases w.inLoop with
        | true => exact (settled _ _ _).trans (Calm.newLatch _).toTame
        | false => exact settled _ _ _

theorem Deed.tame (w : World β ν) (d : Deed β ν) : w.loops.Tame stageOf (d.perform w).loops := by
  cases d with
  | note e => exact .refl _
  | interrupt => exact w.tame_interrupt
  | create => exact (Calm.create _).toTame
  | start c =>
    refine (Calm.spawn _ fun b r same => ?_).toTame
    cases same
    exact launch_stage c r
  | resolve f v => exact (Calm.settleOwn _ f rfl).toTame
  | fail f e => exact (Calm.settleOwn _ f rfl).toTame
  | cancel f => exact (Calm.cancel _ f).toTame

theorem wired_deeds {w : World β ν} (h : w.loops.Wired stageOf) (ds : List (Deed β ν)) :
    (ds.foldl Deed.perform w).loops.Wired stageOf := by
  induction ds generalizing w with
  | nil => exact h
  | cons d ds ih => exact ih (d.wired h)

theorem tame_deeds (w : World β ν) (ds : List (Deed β ν)) :
    w.loops.Tame stageOf (ds.foldl Deed.perform w).loops := by
  induction ds generalizing w with
  | nil => exact .refl _
  | cons d ds ih => exact (d.tame w).trans (ih (d.perform w))

/-! Turns of bodies. -/

def PlainTurn : Turn (Coroutine β) ν Error → Prop
  | .awaits (.future _) b => stageOf b = .plain
  | .awaits (.waiter _) _ => False
  | .pauses b => stageOf b = .plain
  | _ => True

theorem Move.plainTurn (m : Move β ν) : PlainTurn m.turn := by
  cases m with
  | awaits f b => exact (rfl : stageOf (.body b) = .plain)
  | pauses b => exact (rfl : stageOf (.body b) = .plain)
  | returns v => trivial
  | raises e =>
    change PlainTurn (if e.leaves then .leaves e else .raises e)
    cases e.leaves <;> trivial
  | cancelled => trivial

theorem wired_ended {l : Tracks β ν} (h : l.Wired stageOf) {f : FutureId} (lt : f < l.futures.size)
    {t : Turn (Coroutine β) ν Error} (plain : PlainTurn t) : (ended l f t).Wired stageOf := by
  cases t with
  | awaits what b =>
    cases what with
    | waiter i => exact plain.elim
    | future g =>
      have stays := stageOf_goesOn l f plain
      refine (h.goesOn plain).await ?_ (fun ahead => nomatch stays.symm.trans ahead)
        fun r racing => nomatch stays.symm.trans racing
      exact Nat.lt_of_lt_of_eq lt Array.size_modify.symm
  | pauses b =>
    have stays := stageOf_goesOn l f plain
    exact (h.goesOn plain).soonTurn (Nat.lt_of_lt_of_eq lt Array.size_modify.symm) stays _
  | returns v => exact h.finish f (o := .result v) rfl
  | raises e => exact h.finish f (o := .failed e) rfl
  | cancelled => exact h.finish f (o := .cancelled) rfl
  | leaves e => exact h.finish f (o := .failed e) rfl

theorem tame_ended (l : Tracks β ν) (f : FutureId) {t : Turn (Coroutine β) ν Error} (plain : PlainTurn t) :
    l.Calm stageOf (ended l f t) := by
  cases t with
  | awaits what b =>
    cases what with
    | waiter i => exact plain.elim
    | future g => exact (Calm.goesOn l f plain).trans (Calm.await _ _ _)
  | pauses b => exact (Calm.goesOn l f plain).trans (Calm.soon _ _ _)
  | returns v => exact Calm.finish l f (o := .result v) rfl
  | raises e => exact Calm.finish l f (o := .failed e) rfl
  | cancelled => exact Calm.finish l f (o := .cancelled) rfl
  | leaves e => exact Calm.finish l f (o := .failed e) rfl

/-! Turns of races. -/

/-- How a race under way ends when it is resumed. -/
def ends (r : Race) (s : Signal Error) (l : Tracks β ν) : RaceEnd ν Error × Tracks β ν :=
  match s with
  | .go => r.decide l
  | _ => r.abandon l

def endingTurn (interrupted : Error) : RaceEnd ν Error → Turn (Coroutine β) ν Error
  | .returned v => .returns v
  | .failed e => .raises e
  | .taskCancelled => .raises { type := "CellError", message := "cell task was cancelled" }
  | .interrupted => .raises interrupted
  | .cancelled => .cancelled
  | .tooDeep => .raises tooDeep

theorem raceTurn_eq (r : Race) (s : Signal Error) (w : World β ν) :
    raceTurn r s w
      = (endingTurn w.interrupted (ends r s w.loops).1, { w with loops := (ends r s w.loops).2 }) := by
  have opened : raceTurn r s w = (do
      set { w with loops := (ends r s w.loops).2 }
      match (ends r s w.loops).1 with
      | .returned v => return .returns v
      | .failed e => return .raises e
      | .taskCancelled => return .raises { type := "CellError", message := "cell task was cancelled" }
      | .interrupted => return .raises w.interrupted
      | .cancelled => return .cancelled
      | .tooDeep => return .raises tooDeep : M β ν (Turn (Coroutine β) ν Error)) w := by
    cases s <;> rfl
  rw [opened]
  cases (ends r s w.loops).1 <;> rfl

theorem plain_endingTurn (e : Error) (x : RaceEnd ν Error) : PlainTurn (endingTurn e x : Turn (Coroutine β) ν Error) := by
  cases x <;> trivial

theorem wired_ends {l : Tracks β ν} (h : l.Wired stageOf) (r : Race) (s : Signal Error) :
    (ends r s l).2.Wired stageOf := by
  cases s with
  | go => exact h.decide r
  | cancelled => exact h.abandon r
  | failed e => exact h.abandon r

theorem calm_ends (l : Tracks β ν) (r : Race) (s : Signal Error) : l.Calm stageOf (ends r s l).2 := by
  cases s with
  | go => exact Calm.decide l r
  | cancelled => exact Calm.abandon l r
  | failed e => exact Calm.abandon l r

def World.prepared (w : World β ν) (b : β) : FutureId × World β ν :=
  let (controller, loops) : Controller × _ := (w.controller.current w.loops).2
  let (t, loops) := loops.spawn (some (.body b))
  (t, { w with controller, loops })

theorem resume_raceBody (act : Conduct β ν) (f : FutureId) (b : β) (w : World β ν) :
    resume act f (.raceBody b) .go w = startRace (w.prepared b).1 (w.prepared b).2 := rfl

theorem startRace_eq (task : FutureId) (w : World β ν) :
    startRace task w = (.awaits (.waiter (Race.begin task w.controller w.loops).1.waiter)
        (.racing (Race.begin task w.controller w.loops).1),
      { w with controller := (Race.begin task w.controller w.loops).2.1
               loops := (Race.begin task w.controller w.loops).2.2 }) := rfl

theorem not_racing_body {b : β} {b' : Coroutine β} {r : Race} (h : some (.body b) = some b') :
    stageOf b' ≠ .racing r := by
  cases h
  exact nofun

theorem stageOf_of_body {l : Tracks β ν} {f : FutureId} {x : Future (Coroutine β) ν Error Empty}
    {b : Coroutine β} (hx : l.future? f = some x) (hb : x.body? = some b) : l.stageOf stageOf f = stageOf b := by
  rw [Loops.stageOf, hx, Option.elim_some, Future.stage, hb]
  rfl

theorem stageOf_turning (w : World β ν) (f : FutureId) (s : Signal Error) (k : FutureId) :
    (w.turning f s).2.loops.stageOf stageOf k = w.loops.stageOf stageOf k :=
  stageOf_takeSignal w.loops f s k

theorem calm_turning (w : World β ν) (f : FutureId) (s : Signal Error) :
    w.loops.Calm stageOf (w.turning f s).2.loops :=
  (Calm.takeSignal w.loops f s).trans (.aside rfl rfl rfl rfl fun _ => rfl)

theorem wired_turning {w : World β ν} (h : w.loops.Wired stageOf) (f : FutureId) (s : Signal Error) :
    (w.turning f s).2.loops.Wired stageOf := (h.takeSignal f s).aside ⟨rfl, rfl, rfl⟩ rfl

theorem due_turning {w : World β ν} {f : FutureId} (due : w.loops.Due stageOf f) (s : Signal Error) :
    (w.turning f s).2.loops.Due stageOf f := by
  refine ⟨(stageOf_turning w f s f).trans due.ahead, ?_, ?_⟩
  · unfold World.turning Loops.takeSignal
    split <;> exact due.turn
  · unfold World.turning Loops.takeSignal
    split
    · exact due.here
    · exact (loopOf_modifyTask ..).trans due.here

theorem wired_afterTurn {f : FutureId} {out : Turn (Coroutine β) ν Error × World β ν}
    (h : out.2.loops.Wired stageOf) (lt : f < out.2.loops.futures.size) (plain : PlainTurn out.1) :
    (afterTurn f out).loops.Wired stageOf := by
  have aside : ({ out.2.loops with running := none } : Tracks β ν).Wired stageOf :=
    h.aside ⟨rfl, rfl, rfl⟩ rfl
  exact wired_ended aside lt plain

theorem wired_startRace {w : World β ν} (h : w.loops.Wired stageOf) {f : FutureId}
    (due : w.loops.Due stageOf f) (task : FutureId) :
    (afterTurn f (startRace task w)).loops.Wired stageOf := by
  have begun := h.begin task w.controller (b := .racing) (fun _ => rfl) due
  have calm : w.loops.Calm stageOf _ := .begin w.loops task w.controller
  have lt := Nat.lt_of_lt_of_le due.lt calm.size
  rw [startRace_eq]
  generalize Race.begin task w.controller w.loops = out at begun lt ⊢
  obtain ⟨r, c, l⟩ := out
  obtain ⟨wired, racing, awaits⟩ := begun
  -- What runs makes no difference to the wiring.
  have aside : ({ l with running := none }.modifyTask f fun t =>
      { t with body := some (.racing r) }).Wired stageOf := wired.aside ⟨rfl, rfl, rfl⟩ rfl
  refine aside.await ?_ (fun ahead => nomatch racing.symm.trans ahead) awaits
  exact Nat.lt_of_lt_of_eq lt Array.size_modify.symm

theorem wired_resume (act : Conduct β ν) {w : World β ν} (h : w.loops.Wired stageOf) {f : FutureId}
    {b : Coroutine β} (lt : f < w.loops.futures.size) (due : stageOf b = .ahead → w.loops.Due stageOf f)
    (s : Signal Error) : (afterTurn f (resume act f b s w)).loops.Wired stageOf := by
  have gives_up : (afterTurn f (.cancelled, w)).loops.Wired stageOf := wired_afterTurn h lt trivial
  cases b with
  | body b =>
    have opened : resume act f (.body b) s w
        = ((act f b s w).2.turn, (act f b s w).1.foldl Deed.perform w) := rfl
    rw [opened]
    exact wired_afterTurn (wired_deeds h _) (Nat.lt_of_lt_of_le lt (tame_deeds w _).size) (Move.plainTurn _)
  | raceBody b =>
    cases s with
    | go =>
      rw [resume_raceBody]
      refine wired_startRace ?_ (((due rfl).armed w.controller).spawn (some (.body b))) _
      exact (h.current w.controller).spawn fun _ _ => not_racing_body
    | cancelled => exact gives_up
    | failed e => exact gives_up
  | raceTask t =>
    cases s with
    | go => exact wired_startRace h (due rfl) t
    | cancelled => exact gives_up
    | failed e => exact gives_up
  | racing r =>
    have opened : resume act f (.racing r) s w = raceTurn r s w := rfl
    rw [opened, raceTurn_eq]
    exact wired_afterTurn (wired_ends h r s) (Nat.lt_of_lt_of_le lt (calm_ends w.loops r s).size)
      (plain_endingTurn _ _)

theorem wired_turn (act : Conduct β ν) (unit : ν) {w : World β ν} (h : w.loops.Wired stageOf) {f : FutureId}
    (lt : f < w.loops.futures.size) (due : w.loops.stageOf stageOf f = .ahead → w.loops.Due stageOf f)
    (s : Signal Error) : ((runner act unit).turn f s w).2.loops.Wired stageOf := by
  rcases turn_cases act unit f s w with ⟨_, nothing⟩ | ⟨_, outside⟩ | ⟨x, b, hx, hb, turn⟩
  · rw [nothing]
    exact h
  · rw [outside]
    exact wired_turning h f s
  · rw [turn]
    refine wired_resume act (wired_turning h f s) ?_ (fun ahead => ?_) _
    · exact Nat.lt_of_lt_of_le lt (calm_turning w f s).size
    · exact due_turning (due ((stageOf_of_body hx hb).trans ahead)) s

theorem wired_run (act : Conduct β ν) (unit : ν) {w : World β ν} (h : w.loops.Wired stageOf)
    {e : Handle Error Empty} (fits : w.loops.Fits stageOf w.loops.current e)
    (turn : ∀ f, e.isTurnOf f = true → w.loops.stageOf stageOf f = .ahead → w.loops.NoTurn f) :
    ((runner act unit).run e w).2.loops.Wired stageOf := by
  cases e with
  | turn f s =>
    refine wired_turn act unit h fits.1 (fun ahead => ⟨ahead, ?_, (fits.2.1 ahead).symm⟩) s
    exact turn f (beq_self_eq_true f) ahead
  | wake f source => exact wired_turn act unit h fits.1 (fun ahead => absurd ahead fits.2.1) _
  | complete i => exact h.settleWaiter i nofun (fun _ => fits.2) nofun
  | act a f => exact nomatch a
  | expire f => exact h.settleOwn f rfl

theorem wired_nextEntry (act : Conduct β ν) (unit : ν) {w : World β ν} (h : w.loops.Wired stageOf) :
    (nextEntry act unit w).loops.Wired stageOf := by
  unfold nextEntry
  split
  next => exact h
  next e l taken =>
    have calm : w.loops.Calm stageOf l := .take taken
    have here := calm.current
    obtain ⟨fits, turn⟩ := h.taken taken
    exact wired_run act unit (w := { w with loops := l }) (h.take taken) (here ▸ fits) turn

/-! Steps. -/

theorem stageOf_host {l : Tracks β ν} {t : FutureId} (host : isHost l t = true) :
    l.stageOf stageOf t = .plain ∧ t < l.futures.size := by
  unfold isHost at host
  cases hx : l.future? t with
  | none =>
    rw [hx] at host
    cases host
  | some x =>
    refine ⟨?_, lt_size_of_future? hx⟩
    rw [hx, Option.bind_some] at host
    rw [Loops.stageOf, hx, Option.elim_some, Future.stage, Future.body?]
    cases ht : x.task with
    | none => cases x.outcome.isDone <;> rfl
    | some u =>
      rw [ht, Option.any_some, Option.isNone_iff_eq_none] at host
      cases x.outcome.isDone with
      | true => rfl
      | false => simp [host]

theorem World.loops_look (w : World β ν) : w.loops.Calm stageOf w.look.2.loops := by
  unfold World.look
  split
  · exact Calm.armed w.loops w.controller
  · split
    · exact .refl _
    · split <;> exact .refl _

theorem Step.wired (act : Conduct β ν) (unit : ν) {w : World β ν} (h : w.loops.Wired stageOf) (s : Step β ν) :
    (s.perform act unit w).loops.Wired stageOf := by
  cases s with
  | deed d => exact d.wired h
  | entry => exact wired_nextEntry act unit h
  | look =>
    change w.look.2.loops.Wired stageOf
    unfold World.look
    split
    · exact h.current w.controller
    · split
      · exact h
      · split <;> exact h
  | host => exact h.spawn nofun
  | pause t =>
    change (if isHost w.loops t then _ else w : World β ν).loops.Wired stageOf
    split
    next host =>
      obtain ⟨plain, lt⟩ := stageOf_host host
      have aside : ({ w.loops with running := none } : Tracks β ν).Wired stageOf :=
        h.aside ⟨rfl, rfl, rfl⟩ rfl
      exact aside.soonTurn lt plain _
    next => exact h
  | conclude t =>
    change (if isHost w.loops t then _ else w : World β ν).loops.Wired stageOf
    split
    · exact (h.finish t (o := .result unit) rfl).aside ⟨rfl, rfl, rfl⟩ rfl
    · exact h
  | loop runs => exact h
  | renew close => exact h.renew close

end Notebook.Loop.Arena
