import Notebook.Proofs.Collect
import Notebook.Proofs.History

/-! Delivery of modules: the compiler does not hand out a text again that it noted before, which is
right as long as what it noted is recorded where modules are loaded from.

Compiling that fails throws away what it collected. It breaks the agreement if it noted a new text
before, and nothing else does. -/

set_option autoImplicit false

namespace Notebook.Session

open Notebook.Machine Notebook.Loop Notebook.Cell Notebook.Module

namespace State

/-- Every text that the compiler noted is recorded. -/
def Delivered (s : State) : Prop :=
  ∀ p text, s.inner.emitted.lookup p = some text → s.world.cache.sources.lookup p = some text

/-- Compiling a cell here fails after it noted a text that was neither noted before nor recorded. -/
def Loses (s : State) (src : String) : Prop :=
  isRunHere src = true ∧ (∃ t, (s.compiled src).1 = .error t) ∧
    ∃ p text, (s.compiled src).2.emitted.lookup p = some text ∧
      s.inner.emitted.lookup p ≠ some text ∧ s.world.cache.sources.lookup p ≠ some text

end State

theorem Quiet.delivered {s s' : State} (h : Quiet s s') : s'.Delivered ↔ s.Delivered := by
  unfold State.Delivered
  rw [h.inner, h.world.cache.sources]

theorem isRunHere_iff (src : String) :
    isRunHere src = true ↔ (metadata src).module = none ∧ (metadata src).mode = .local := by
  simp [isRunHere]

theorem taken_of_error {s : State} {src : String} {t : Trouble} (here : isRunHere src = true)
    (h : (s.compiled src).1 = .error t) : s.taken src = { s with inner := (s.compiled src).2 } := by
  obtain ⟨unnamed, mode⟩ := (isRunHere_iff src).mp here
  unfold State.taken
  rw [unnamed, mode]
  generalize s.compiled src = r at h ⊢
  obtain ⟨result, inner⟩ := r
  dsimp only at h
  subst h
  rfl

theorem taken_of_ok {s : State} {src : String} {c : Compiled} (here : isRunHere src = true)
    (h : (s.compiled src).1 = .ok c) :
    s.taken src = { s with
      inner := (s.compiled src).2
      world := { s.world with cache := s.world.cache.update c.updates } } := by
  obtain ⟨unnamed, mode⟩ := (isRunHere_iff src).mp here
  unfold State.taken
  rw [unnamed, mode]
  generalize s.compiled src = r at h ⊢
  obtain ⟨result, inner⟩ := r
  dsimp only at h
  subst h
  rfl

theorem taken_elsewhere {s : State} {src : String} (h : isRunHere src = false) :
    (s.taken src).inner.emitted = s.inner.emitted ∧ (s.taken src).world = s.world := by
  unfold State.taken
  cases named : (metadata src).module with
  | some name =>
    cases (metadata src).mode with
    | browser => exact ⟨rfl, rfl⟩
    | «local» =>
      refine ⟨?_, rfl⟩
      dsimp only
      unfold Compiler.register
      dsimp only
      split <;> rfl
  | none =>
    cases mode : (metadata src).mode with
    | browser => exact ⟨rfl, rfl⟩
    | «local» => simp [isRunHere, named, mode] at h

theorem delivered_taken_iff {s : State} (h : s.Delivered) (src : String) :
    (s.taken src).Delivered ↔ ¬ s.Loses src := by
  cases here : isRunHere src with
  | false =>
    obtain ⟨emitted, world⟩ := taken_elsewhere (s := s) here
    have kept : (s.taken src).Delivered := by
      unfold State.Delivered
      rw [emitted, world]
      exact h
    exact iff_of_true kept fun lost => absurd lost.1 (by simp [here])
  | true =>
    cases result : (s.compiled src).1 with
    | error t =>
      rw [taken_of_error here result]
      constructor
      · rintro kept ⟨_, _, p, text, noted, _, unrecorded⟩
        exact unrecorded (kept p text noted)
      · intro kept p text noted
        refine Classical.byContradiction fun unrecorded => kept ?_
        exact ⟨here, ⟨t, result⟩, p, text, noted, fun before => unrecorded (h p text before),
          unrecorded⟩
    | ok c =>
      rw [taken_of_ok here result]
      obtain ⟨new, after, _, out⟩ := s.inner.compile_notes s.files s.declarations src
      have modules : c.sideModules = new := out c result
      refine iff_of_true (fun p text noted => ?_) fun ⟨_, ⟨t, failed⟩, _⟩ => ?_
      · -- The same texts are noted and recorded, over what agreed before.
        change (s.compiled src).2.emitted.lookup p = some text at noted
        rw [show (s.compiled src).2 = s.inner.note new from after] at noted
        change (s.world.cache.update c.updates).sources.lookup p = some text
        rw [Cache.update_sources, lookup_setKeys, Compiled.updates, modules]
        rw [Compiler.note, lookup_setKeys] at noted
        cases fresh : (setKeys (new.map fun m => (m.path, m.source)) []).lookup p with
        | some t => simpa [fresh] using noted
        | none => exact h p text (by simpa [fresh] using noted)
      · rw [result] at failed
        cases failed

theorem delivered_begin_iff {s : State} (h : s.Delivered) (src : String) :
    (begin src s).2.Delivered ↔ ¬ s.Loses src :=
  (begin_quiet src s).delivered.trans (delivered_taken_iff h src)

/-- Everything that the compiler noted is recorded after every history in which no cell loses a
text; and a cell that loses one ends the agreement, whatever was done before. -/
theorem delivered_history (places : Path.Places) (config : Config) (files : Files)
    (isConsole : Bool) (realm : String) :
    let s := State.start places config files isConsole realm
    (∀ ops, Begins (fun s src => ¬ s.Loses src) (open_ s).1 (open_ s).2 ops →
      ((open_ s).2.after (open_ s).1 ops).Delivered) ∧
    ∀ ops src, ((open_ s).2.after (open_ s).1 ops).Delivered →
      ((begin src ((open_ s).2.after (open_ s).1 ops)).2.Delivered ↔
        ¬ ((open_ s).2.after (open_ s).1 ops).Loses src) := by
  intro s
  have u : Upkeep State.Delivered (fun s src => ¬ s.Loses src) fun _ _ => True :=
    { quiet := fun q => q.delivered.mpr
      taken := fun h => (delivered_taken_iff h _).mpr
      gives := fun _ _ => trivial }
  have started : s.Delivered := fun _ _ noted => by cases noted
  refine ⟨fun ops begins => ?_, fun ops src h => delivered_begin_iff h src⟩
  have opened := u.opened started rfl
  exact (u.history (open_ s).1 ops opened (fun _ _ _ h => h) (fun _ _ _ h => h)
    (fun _ _ _ _ _ noted => by cases noted) begins).2

/-- A directory with a module of one line and a file that is no text. -/
def readableAndNot : Files :=
  ⟨[("/w/a.py", [120, 32, 61, 32, 49, 10]), ("/w/b.py", [255])]⟩

set_option maxRecDepth 100000 in
/-- A cell that imports a module which can be read. -/
theorem delivered_history_imported :
    let s := State.start ⟨"/w", "/home/user"⟩ { rootDir := .str "/w" } readableAndNot false
    Begins (fun s src => ¬ s.Loses src) (open_ s).1 (open_ s).2 [.run "import a"] ∧
      ((open_ s).2.after (open_ s).1 [.run "import a"]).Delivered := by
  intro s
  have compiles : (((open_ s).2.compiled "import a").1.toOption.any fun _ => true) = true := by decide +kernel
  have ended : (begin "import a" (open_ s).2).1.isEnded = true := by decide +kernel
  have kept : ¬ (open_ s).2.Loses "import a" := by
    rintro ⟨-, ⟨t, failed⟩, -⟩
    rw [failed] at compiles
    cases compiles
  have begins : Begins (fun s src => ¬ s.Loses src) (open_ s).1 (open_ s).2 [.run "import a"] :=
    ⟨runBegins_of_ended (fun s src => ¬ s.Loses src) kept ended, trivial⟩
  exact ⟨begins, (delivered_history _ _ _ _ _).1 _ begins⟩

set_option maxRecDepth 100000 in
/-- The cell notes the first module and fails at the second, so the first is never recorded. -/
theorem not_delivered_after_undecodable :
    let s := State.start ⟨"/w", "/home/user"⟩ { rootDir := .str "/w" } readableAndNot false
    ¬ ((open_ s).2.after (open_ s).1 [.run "import a, b"]).Delivered := by
  intro s delivered
  have apart : ((open_ s).2.after (open_ s).1 [.run "import a, b"]).inner.emitted.lookup "/w/a.py"
        = some "x = 1\n" ∧
      ((open_ s).2.after (open_ s).1 [.run "import a, b"]).world.cache.sources.lookup "/w/a.py"
        = none := by decide +kernel
  obtain ⟨noted, absent⟩ := apart
  have recorded := delivered _ _ noted
  rw [absent] at recorded
  cases recorded

end Notebook.Session
