import Notebook.Proofs.Turns

/-! What the run of a cell writes and changes, by how it ends: for a session that records what is
written and reports diagnostics by the default template. -/

set_option autoImplicit false

namespace Notebook.Cell

def Diagnostic.defaultReport (d : Diagnostic) : String :=
  (if d.file == "" then "" else d.file ++ " ") ++ toString (Int.ofNat d.line + 1) ++ ":"
    ++ toString (Int.ofNat d.character + 1) ++ " - " ++ d.message

set_option maxRecDepth 100000 in
theorem parse_default : Template.parse defaultTemplate
    = .ok [.variable "file_prefix", .variable "line", .text ":", .variable "col", .text " - ",
        .variable "message"] := by rfl

set_option maxRecDepth 100000 in
theorem Diagnostic.report_default (d : Diagnostic) :
    d.report defaultTemplate = .ok d.defaultReport := by
  have rendered : d.report defaultTemplate
      = .ok ((if d.file == "" then "" else d.file ++ " ") ++ (toString (Int.ofNat d.line + 1) ++ (":" ++
          (toString (Int.ofNat d.character + 1) ++ (" - " ++ (d.message ++ "")))))) := by
    unfold Diagnostic.report Template.render
    rw [parse_default]
    rfl
  rw [rendered, defaultReport, String.append_empty]
  simp only [String.append_assoc]

end Notebook.Cell

namespace Notebook.Session

open Notebook.Machine Notebook.Loop Notebook.Cell

/-! Changes of the world alone. -/

/-- A quiet change that writes nothing and declares nothing. -/
structure Aside (s s' : State) : Prop extends Quiet s s' where
  sink : s'.sink = s.sink
  declarations : s'.declarations = s.declarations
  realm : s'.realm = s.realm

namespace Aside

variable {α : Type} {s s' s'' : State}

theorem refl (s : State) : Aside s s := ⟨.refl s, rfl, rfl, rfl⟩

theorem trans (h : Aside s s') (h' : Aside s' s'') : Aside s s'' :=
  ⟨h.toQuiet.trans h'.toQuiet, h'.sink.trans h.sink, h'.declarations.trans h.declarations,
    h'.realm.trans h.realm⟩

theorem ofWorld (s : State) {w : World} (leads : s.world.Leads w) : Aside s { s with world := w } :=
  ⟨⟨rfl, rfl, rfl, rfl, rfl, rfl, rfl, leads⟩, rfl, rfl, rfl⟩

theorem withLoops (s : State) (l : Loops Body Value Value Gather) : Aside s (s.withLoops l) :=
  .ofWorld s (.aside rfl rfl)

theorem inWorld (x : M α) (s : State) : Aside s (inWorld x s).2 := by
  have leads := x.leads s.world
  unfold Session.inWorld
  split <;> rename_i h <;> rw [h] at leads <;> exact .ofWorld s leads

theorem inWorldOr (a : α) (x : M α) (s : State) : Aside s (inWorldOr a x s).2 := by
  have first := Aside.inWorld x s
  unfold Session.inWorldOr
  rw [bind_apply]
  generalize Session.inWorld x s = out at first ⊢
  obtain ⟨r, s'⟩ := out
  cases r <;> exact first

theorem newError (cls message : String) (s : State) : Aside s (newError cls message s).2 :=
  .inWorldOr _ _ s

theorem troubleError (t : Trouble) (s : State) : Aside s (troubleError t s).2 := by
  unfold Session.troubleError
  split <;> exact .inWorldOr _ _ s

theorem interruption (s : State) : Aside s (interruption s).2 := .inWorldOr _ _ s

theorem setExports (e : Exports Value) (s : State) : Aside s (setExports e s).2 := .inWorldOr _ _ s

end Aside

/-! Writing. -/

section

variable {s : State} {r : Record Value} (hr : s.sink = .record r)

include hr

theorem write_recorded (c : Channel) (v : Value) :
    write c v s = (.ok (), { s with sink := .record (r.write c v) }) := by
  unfold write
  rw [bind_apply, get_apply]
  dsimp only
  rw [hr]
  rfl

theorem conclude_recorded (c : Channel) (v : Value) (e : RunEnd) :
    (Closing.writing c v e).conclude s = (e, { s with sink := .record (r.write c v) }) := by
  unfold Closing.conclude
  dsimp only
  rw [bind_apply, write_recorded hr]
  rfl

theorem fail_recorded (status : Status) (exc : Value) : (fail status exc).conclude s
    = (.outcome status (.error exc), { s with sink := .record (r.write .error exc) }) :=
  conclude_recorded hr _ _ _

end

def reportEvent (d : Diagnostic) : Channel × Value := (.error, .str d.defaultReport)

theorem report_recorded {s : State} {r : Record Value} (hr : s.sink = .record r)
    (template : s.config.template = .str defaultTemplate) (ds : List Diagnostic) :
    report ds s = (.ok (), { s with sink := .record ⟨r.events ++ ds.map reportEvent⟩ }) := by
  induction ds generalizing s r with
  | nil =>
    rw [List.map_nil, List.append_nil]
    change ((Except.ok () : Except Value Unit), s) = (.ok (), { s with sink := .record r })
    rw [← hr]
  | cons d ds ih =>
    have shown : reportOf d s = (.ok d.defaultReport, s) := by
      unfold reportOf
      rw [bind_apply, get_apply]
      dsimp only
      rw [template]
      dsimp only
      rw [d.report_default]
      rfl
    rw [report, bind_apply, shown]
    dsimp only
    rw [bind_apply, write_recorded hr]
    dsimp only
    rw [ih (s := { s with sink := .record (r.write .error (.str d.defaultReport)) }) rfl template]
    simp [Record.write, reportEvent]

/-- How the run of a body ends: with one value at most, with an error, or with an error that nothing
reports. -/
inductive Ends : Closing → Prop where
  | silent : Ends success
  | shown {v : Value} (some : v ≠ .none) : Ends (.writing .result v (.outcome .success .none))
  | failed {status : Status} (exc : Value)
      (which : status = .fault ∨ status = .rejected ∨ status = .cancelled) : Ends (fail status exc)
  | escaped (exc : Value) : Ends (.atOnce (.escaped exc))

def EndsFrom (s : State) (out : Closing × State) : Prop := Aside s out.2 ∧ Ends out.1

theorem EndsFrom.after {s s' : State} {out : Closing × State} (h : EndsFrom s' out)
    (first : Aside s s') : EndsFrom s out := ⟨first.trans h.1, h.2⟩

theorem finish_ends (last : Option String) (s : State) : EndsFrom s (finish last s) := by
  cases last with
  | none => exact ⟨.refl s, .silent⟩
  | some name =>
    have now : (exportsNow s).2 = s := by
      unfold exportsNow
      rw [bind_apply, get_apply]
      dsimp only
      generalize (s.world.heap.getD s.exports default).payload = p
      cases p <;> rfl
    unfold finish
    dsimp only
    rw [bind_apply, now]
    generalize (exportsNow s).1 = e
    cases e.get? name with
    | none => exact ⟨.refl s, .silent⟩
    | some v =>
      dsimp only
      rw [bind_apply]
      have removed := Aside.setExports (e.remove name) s
      generalize (setExports (e.remove name) s).2 = s' at removed ⊢
      cases none : v.is .none with
      | true => exact ⟨removed, .silent⟩
      | false =>
        have some : v ≠ .none := fun h => by
          rw [h] at none
          cases none
        exact ⟨removed, .shown some⟩

theorem failRace_ends (exc : Value) (s : State) : EndsFrom s (failRace exc s) := by
  unfold failRace
  rw [bind_apply]
  have first := Aside.inWorldOr true (isError exc "Exception") s
  generalize inWorldOr true (isError exc "Exception") s = asked at first ⊢
  obtain ⟨isException, s₁⟩ := asked
  cases isException with
  | false => exact ⟨first, .escaped exc⟩
  | true =>
    rw [if_neg (by simp), bind_apply]
    have second := first.trans (Aside.inWorldOr false (isError exc "Interrupted") s₁)
    dsimp only
    generalize inWorldOr false (isError exc "Interrupted") s₁ = asked at second ⊢
    obtain ⟨isInterrupted, s₂⟩ := asked
    refine ⟨second, .failed exc ?_⟩
    cases isInterrupted
    · exact .inr (.inl rfl)
    · exact .inr (.inr rfl)

theorem endBy_ends (last : Option String) (ending : RaceEnd Value Value) (s : State) :
    EndsFrom s (endBy last ending s) := by
  unfold endBy
  split
  · exact finish_ends last s
  · exact ⟨.refl s, .failed _ (.inr (.inl rfl))⟩
  · exact failRace_ends _ s
  · exact .after (failRace_ends _ _) (.newError "CellError" "cell task was cancelled" s)
  · exact .after (failRace_ends _ _) (.interruption s)
  · exact ⟨.inWorldOr Value.none (newException "CancelledError" []) s, .escaped _⟩
  · exact .after (failRace_ends _ _)
      (.newError "RecursionError" "maximum recursion depth exceeded while calling a Python object" s)

theorem endRace_ends (race : Race) (signal : Signal Value) (last : Option String) (s : State) :
    EndsFrom s (endRace race signal last s) := by
  have loops (l : Loops Body Value Value Gather) (ending : RaceEnd Value Value) :
      EndsFrom s (endBy last ending (s.withLoops l)) :=
    .after (endBy_ends last ending (s.withLoops l)) (.withLoops s l)
  unfold endRace
  rw [bind_apply, get_apply]
  exact loops _ _

/-! The run of a cell. -/

def State.accepted? (s : State) (src : String) : Option Compiled :=
  if isRunHere src then (s.compiled src).1.toOption.filter (·.diagnostics.isEmpty) else none

/-- What is wrong with a cell that is registered as a module, or runs in a browser. -/
def State.elsewhere? (s : State) (src : String) : Option (List Diagnostic) :=
  match (metadata src).module, (metadata src).mode with
  | some name, mode =>
    ((if mode == .browser then s.browser else s.inner).register name src).1.toOption
  | none, .browser => some []
  | none, .local => none

inductive State.Writes (s : State) (src : String) :
    Status → Detail → List (Channel × Value) → Prop where
  | diagnostics {c : Compiled} (here : isRunHere src = true) (compiled : (s.compiled src).1 = .ok c)
      (wrong : c.diagnostics ≠ []) :
      Writes s src .diagnostic (.diagnostics c.diagnostics) (c.diagnostics.map reportEvent)
  | error {status : Status} (exc : Value)
      (which : status = .fault ∨ status = .rejected ∨ status = .cancelled) :
      Writes s src status (.error exc) [(.error, exc)]
  | silent (here : isRunHere src = true) : Writes s src .success .none []
  | shown (here : isRunHere src = true) {v : Value} (some : v ≠ .none) :
      Writes s src .success .none [(.result, v)]
  | elsewhere {ds : List Diagnostic} (there : s.elsewhere? src = some ds) :
      Writes s src .success .none (ds.map reportEvent)

/-- A change that leaves alone the names of cells, their declarations and the realm. -/
structure Untouched (s s' : State) : Prop where
  exports : s'.exports = s.exports
  declarations : s'.declarations = s.declarations
  realm : s'.realm = s.realm
  heap : s'.world.heap = s.world.heap

/-- How the end of a run, what it writes and what it changes correspond. -/
structure Corresponds (s : State) (src : String) (e : RunEnd) (s' : State) : Prop where
  writes : ∃ r events, s.sink = .record r ∧ s'.sink = .record ⟨r.events ++ events⟩ ∧
    ∀ status detail, e = .outcome status detail → s.Writes src status detail events
  elsewhere : (s.elsewhere? src).isSome = true → e = .outcome .success .none ∧ Untouched s s'
  refused : ∀ detail, e = .outcome .diagnostic detail → Untouched s s'
  declarations : s'.declarations = ((s.accepted? src).map (·.declarations)).getD s.declarations

theorem elsewhere?_of_isRunHere {src : String} (here : isRunHere src = true) (s : State) :
    s.elsewhere? src = none := by
  unfold isRunHere at here
  rw [Bool.and_eq_true, Option.isNone_iff_eq_none, beq_iff_eq] at here
  unfold State.elsewhere?
  rw [here.1, here.2]

theorem Corresponds.ofEnds {s s₁ s₂ : State} {src : String} {r : Record Value} (hr : s₁.sink = .record r)
    {end_ : Closing} {c : Compiled} (here : isRunHere src = true) (accepted : s.accepted? src = some c)
    (sink : s₁.sink = s.sink) (declarations : s₁.declarations = c.declarations)
    (ends : EndsFrom s₁ (end_, s₂)) :
    Corresponds s src (end_.conclude s₂).1 (end_.conclude s₂).2 := by
  obtain ⟨aside, how⟩ := ends
  have hr₂ : s₂.sink = .record r := aside.sink.trans hr
  have there := elsewhere?_of_isRunHere here s
  have after : s₂.declarations = ((s.accepted? src).map (·.declarations)).getD s.declarations := by
    rw [accepted, aside.declarations, declarations]
    rfl
  have silent {e : RunEnd} (which : ∀ status detail, e = .outcome status detail → s.Writes src status detail [])
      (accepted : ∀ detail, e ≠ .outcome .diagnostic detail) : Corresponds s src e s₂ := by
    refine ⟨⟨r, [], sink.symm.trans hr, ?_, which⟩, fun some => ?_, fun detail same => ?_, after⟩
    · rw [hr₂, List.append_nil]
    · rw [there] at some
      cases some
    · exact absurd same (accepted detail)
  have written {channel : Channel} {v : Value} {status : Status} {detail : Detail}
      (which : s.Writes src status detail [(channel, v)]) (accepted : status ≠ .diagnostic) :
      Corresponds s src (.outcome status detail) { s₂ with sink := .record (r.write channel v) } := by
    refine ⟨⟨r, [(channel, v)], sink.symm.trans hr, rfl, fun status' detail' same => ?_⟩, fun some => ?_,
      fun detail' same => ?_, after⟩
    · cases same
      exact which
    · rw [there] at some
      cases some
    · cases same
      exact absurd rfl accepted
  cases how with
  | silent =>
    refine silent (fun status detail same => ?_) nofun
    cases same
    exact .silent here
  | shown some =>
    rw [conclude_recorded hr₂]
    exact written (.shown here some) nofun
  | @failed status exc which =>
    rw [conclude_recorded hr₂]
    refine written (.error exc which) ?_
    rintro rfl
    simp at which
  | escaped exc => exact silent nofun nofun

theorem Corresponds.ofFault {s s₁ : State} {src : String} {r : Record Value} (hr : s₁.sink = .record r)
    (there : s.elsewhere? src = none) (refused : s.accepted? src = none) (sink : s₁.sink = s.sink)
    (declarations : s₁.declarations = s.declarations) (exc : Value) :
    Corresponds s src ((fail .fault exc).conclude s₁).1 ((fail .fault exc).conclude s₁).2 := by
  rw [fail_recorded hr]
  refine ⟨⟨r, [(.error, exc)], sink.symm.trans hr, rfl, fun status detail same => ?_⟩,
    fun some => ?_, nofun, ?_⟩
  · cases same
    exact .error exc (.inl rfl)
  · rw [there] at some
    cases some
  · rw [refused]
    exact declarations

/-- What registering or compiling a cell comes to: its run ends, or its body is to be run. -/
structure PreparesWell (s : State) (src : String) (out : Prepared × State) : Prop where
  ended : ∀ c, out.1 = .ended c → Corresponds s src (c.conclude out.2).1 (c.conclude out.2).2
  body : ∀ c, out.1 = .body c →
    isRunHere src = true ∧ s.accepted? src = some c ∧ out.2.sink = s.sink

theorem PreparesWell.ofEnded {s : State} {src : String} {c : Closing} {s' : State}
    (h : Corresponds s src (c.conclude s').1 (c.conclude s').2) : PreparesWell s src (.ended c, s') where
  ended c' same := by
    cases same
    exact h
  body := nofun

section

variable {s : State} {r : Record Value} (hr : s.sink = .record r)
  (template : s.config.template = .str defaultTemplate)

include hr

theorem troubled_prepares {s₁ : State} {src : String} (t : Trouble)
    (there : s.elsewhere? src = none) (refused : s.accepted? src = none)
    (sink : s₁.sink = s.sink) (declarations : s₁.declarations = s.declarations) :
    PreparesWell s src ((do return .ended (fail .fault (← troubleError t)) : S Prepared) s₁) := by
  have made := Aside.troubleError t s₁
  rw [bind_apply]
  generalize troubleError t s₁ = out at made ⊢
  obtain ⟨exc, s₂⟩ := out
  exact .ofEnded (.ofFault (made.sink.trans (sink.trans hr)) there refused (made.sink.trans sink)
    (made.declarations.trans declarations) exc)

include template

theorem registered_prepares {s₁ : State} {src : String} (result : Except Trouble (List Diagnostic))
    (there : s.elsewhere? src = result.toOption) (refused : s.accepted? src = none)
    (same : s₁.sink = s.sink ∧ s₁.config = s.config) (untouched : Untouched s s₁) :
    PreparesWell s src (registered result s₁) := by
  cases result with
  | error t => exact troubled_prepares hr t there refused same.1 untouched.declarations
  | ok ds =>
    unfold registered
    dsimp only
    rw [bind_apply, report_recorded (same.1.trans hr) (same.2 ▸ template)]
    refine .ofEnded ⟨⟨r, ds.map reportEvent, hr, rfl, fun status detail same => ?_⟩, fun _ => ?_,
      nofun, ?_⟩
    · cases same
      exact .elsewhere there
    · exact ⟨rfl, untouched.exports, untouched.declarations, untouched.realm, untouched.heap⟩
    · rw [refused]
      exact untouched.declarations

theorem proceed_prepares {s₁ : State} {src : String} {c : Compiled} (here : isRunHere src = true)
    (compiled : (s.compiled src).1 = .ok c)
    (same : s₁.sink = s.sink ∧ s₁.config = s.config) (untouched : Untouched s s₁) :
    PreparesWell s src (proceed c s₁) := by
  have accepted : s.accepted? src = if c.diagnostics.isEmpty then some c else none := by
    unfold State.accepted?
    rw [if_pos here, compiled]
    cases empty : c.diagnostics.isEmpty <;> simp [Except.toOption, Option.filter, empty]
  have there := elsewhere?_of_isRunHere here s
  unfold proceed
  cases empty : c.diagnostics.isEmpty with
  | false =>
    rw [empty, if_neg Bool.false_ne_true] at accepted
    rw [if_pos (by simp), bind_apply, report_recorded (same.1.trans hr) (same.2 ▸ template)]
    refine .ofEnded ⟨⟨r, c.diagnostics.map reportEvent, hr, rfl, fun status detail same => ?_⟩,
      fun some => ?_, fun _ _ => ?_, ?_⟩
    · cases same
      exact .diagnostics here compiled (List.isEmpty_eq_false_iff.mp empty)
    · rw [there] at some
      cases some
    · exact ⟨untouched.exports, untouched.declarations, untouched.realm, untouched.heap⟩
    · rw [accepted]
      exact untouched.declarations
  | true =>
    rw [empty, if_pos rfl] at accepted
    rw [if_neg (by simp)]
    cases blank : c.body == "" with
    | true =>
      let s₂ : State := { s₁ with declarations := c.declarations }
      have sink : s₂.sink = s.sink := same.1
      exact .ofEnded (.ofEnds (sink.trans hr) here accepted sink rfl ⟨.refl s₂, .silent⟩)
    | false =>
      refine ⟨nofun, fun c' body => ?_⟩
      cases body
      exact ⟨here, accepted, same.1⟩

theorem prepare_prepares (src : String) : PreparesWell s src (prepare src s) := by
  have unaccepted (h : isRunHere src = false) : s.accepted? src = none := by
    unfold State.accepted?
    rw [h, if_neg Bool.false_ne_true]
  unfold prepare
  cases named : (metadata src).module with
  | some name =>
    have refused : s.accepted? src = none := unaccepted (by simp [isRunHere, named])
    have there : s.elsewhere? src
        = ((if (metadata src).mode == .browser then s.browser else s.inner).register name src).1.toOption := by
      unfold State.elsewhere?
      rw [named]
    change PreparesWell s src (registerModule (metadata src).mode name src s)
    unfold registerModule
    rw [bind_apply, get_apply]
    refine registered_prepares hr template _ there refused ?_ ?_
    · cases (metadata src).mode <;> exact ⟨rfl, rfl⟩
    · cases (metadata src).mode <;> exact ⟨rfl, rfl, rfl, rfl⟩
  | none =>
    cases mode : (metadata src).mode with
    | browser =>
      have refused : s.accepted? src = none := unaccepted (by simp [isRunHere, mode])
      have there : s.elsewhere? src = some [] := by
        unfold State.elsewhere?
        rw [named, mode]
      refine .ofEnded ⟨⟨r, [], hr, by rw [List.append_nil]; exact hr, fun status detail same => ?_⟩,
        fun _ => ⟨rfl, rfl, rfl, rfl, rfl⟩, nofun, by rw [refused]; rfl⟩
      cases same
      exact .elsewhere there
    | «local» =>
      have here : isRunHere src = true := by simp [isRunHere, named, mode]
      change PreparesWell s src (takeOver (s.compiled src).1 { s with inner := (s.compiled src).2 })
      cases result : (s.compiled src).1 with
      | error t =>
        have refused : s.accepted? src = none := by
          unfold State.accepted?
          rw [if_pos here, result]
          rfl
        exact troubled_prepares hr t (elsewhere?_of_isRunHere here s) refused rfl rfl
      | ok c => exact proceed_prepares hr template here result ⟨rfl, rfl⟩ ⟨rfl, rfl, rfl, rfl⟩

end

/-- What the beginning of a run comes to: it ends at once, or its body is raced. -/
structure BeginsWell (s : State) (src : String) (out : Begun × State) : Prop where
  ended : ∀ c, out.1 = .ended c → Corresponds s src (c.conclude out.2).1 (c.conclude out.2).2
  racing : ∀ race last, out.1 = .racing race last → isRunHere src = true ∧
    ∃ c, s.accepted? src = some c ∧ out.2.sink = s.sink ∧ out.2.declarations = c.declarations

theorem BeginsWell.ofEnded {s s' : State} {src : String} {c : Closing}
    (h : Corresponds s src (c.conclude s').1 (c.conclude s').2) : BeginsWell s src (.ended c, s') where
  ended c' same := by
    cases same
    exact h
  racing := nofun

theorem start_begins {s s₁ : State} {r : Record Value} {src : String} {c : Compiled}
    (hr : s.sink = .record r) (here : isRunHere src = true) (accepted : s.accepted? src = some c)
    (sink : s₁.sink = s.sink) : BeginsWell s src (start (.body c) s₁) := by
  let s₂ : State := { s₁ with realm := s₁.realm.next, declarations := c.declarations }
  have ran : Aside s₂ (runRealm c s₁).2 := .inWorld _ s₂
  unfold start
  dsimp only
  rw [bind_apply]
  generalize runRealm c s₁ = out at ran ⊢
  obtain ⟨result, s₃⟩ := out
  have hr₃ : s₃.sink = .record r := ran.sink.trans (sink.trans hr)
  have ends {c : Closing} {s' : State} (h : EndsFrom s₃ (c, s')) :
      Corresponds s src (c.conclude s').1 (c.conclude s').2 :=
    .ofEnds hr₃ here accepted (ran.sink.trans sink) ran.declarations h
  cases result with
  | error exc =>
    dsimp only
    rw [bind_apply]
    have asked := Aside.inWorldOr false (isError exc "KeyboardInterrupt") s₃
    generalize inWorldOr false (isError exc "KeyboardInterrupt") s₃ = out at asked ⊢
    obtain ⟨isInterrupt, s₄⟩ := out
    cases isInterrupt with
    | true => exact .ofEnded (ends ⟨asked, .escaped exc⟩)
    | false => exact .ofEnded (ends ⟨asked, .failed exc (.inl rfl)⟩)
  | ok v =>
    have done : BeginsWell s src ((do return .ended (← finish c.lastBinding) : S Begun) s₃) :=
      .ofEnded (ends (finish_ends c.lastBinding s₃))
    dsimp only
    generalize c.hasTopLevelAwait = mayWait
    cases mayWait with
    | false => exact done
    | true =>
      cases v with
      | ref task =>
        exact ⟨nofun, fun _ _ _ => ⟨here, c, accepted, ran.sink.trans sink, ran.declarations⟩⟩
      | _ => exact done

theorem begin_begins {s : State} {r : Record Value} (hr : s.sink = .record r)
    (template : s.config.template = .str defaultTemplate) (src : String) :
    BeginsWell s src (begin src s) := by
  have prepared := prepare_prepares hr template src
  unfold begin
  rw [bind_apply]
  generalize prepare src s = out at prepared ⊢
  obtain ⟨p, s₁⟩ := out
  cases p with
  | ended e => exact .ofEnded (prepared.ended e rfl)
  | body c =>
    obtain ⟨here, accepted, sink⟩ := prepared.body c rfl
    exact start_begins hr here accepted sink

/-! Whole runs. -/

/-- The run of a cell from its beginning to its end: it ends at once, or its body is raced while the event
loop goes on, and it ends when the race is over. -/
inductive Course (src : String) (s : State) : RunEnd → State → Prop where
  | atOnce {c : Closing} {s₁ s' : State} {e : RunEnd} (began : begin src s = (.ended c, s₁))
      (concluded : c.conclude s₁ = (e, s')) : Course src s e s'
  | raced {race : Race} {last : Option String} {s₁ s₂ s₃ s' : State} {signal : Signal Value} {c : Closing}
      {e : RunEnd} (began : begin src s = (.racing race last, s₁)) (meanwhile : Aside s₁ s₂)
      (ended : endRace race signal last s₂ = (c, s₃)) (concluded : c.conclude s₃ = (e, s')) : Course src s e s'

theorem Course.corresponds {s s' : State} {src : String} {e : RunEnd} {r : Record Value}
    (h : Course src s e s') (hr : s.sink = .record r)
    (template : s.config.template = .str defaultTemplate) : Corresponds s src e s' := by
  have began := begin_begins hr template src
  cases h with
  | @atOnce c _ _ _ same concluded =>
    rw [same] at began
    have corresponds := began.ended c rfl
    rw [concluded] at corresponds
    exact corresponds
  | @raced race last s₁ s₂ _ _ signal end_ _ same meanwhile ended concluded =>
    rw [same] at began
    obtain ⟨here, c, accepted, sink, declarations⟩ := began.racing race last rfl
    have ends := endRace_ends race signal last s₂
    rw [ended] at ends
    have corresponds := Corresponds.ofEnds (meanwhile.sink.trans (sink.trans hr)) here accepted
      (meanwhile.sink.trans sink) (meanwhile.declarations.trans declarations) ends
    rw [concluded] at corresponds
    exact corresponds

end Notebook.Session
