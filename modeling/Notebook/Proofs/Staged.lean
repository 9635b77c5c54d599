import Notebook.Proofs.Delivery
import Notebook.Proofs.Incremental
import Notebook.Proofs.Parts
import Notebook.Proofs.Report

/-! The run of a cell that does not wait: its body is compiled, goes through its parts in the realm, and the
session shows the value that it set aside or the error that it ended with. -/

set_option autoImplicit false

namespace Notebook.Realm

open Notebook.Machine Notebook.Code Notebook.Tree

theorem Wrapped.parts {file : String} {body : List Stmt} {isAsync : Bool} {program : Program}
    (x : Wrapped file body isAsync program) {names : List String} {ps : List Part}
    (shaped : (inside body).map shapeOf = names.map .fetch ++ ps.map .part) :
    fetched body = names ∧ ∃ front, front ++ (x.stmts.drop names.length).map partOf = ps ∧
      (front = [] ∨ front = [.cell] ∧ (docOf (inside body)).isSome) := by
  obtain ⟨names_, parts⟩ := fetched_shapes shaped
  have same : fetched (inside body) = fetched body := by
    cases body <;> rfl
  refine ⟨same.symm.trans names_, ?_⟩
  unfold Wrapped.stmts
  cases documented : docOf (inside body) with
  | none =>
    rw [if_neg (by simp)]
    exact ⟨[], parts, .inl rfl⟩
  | some text =>
    rw [if_pos (show (some text).isSome = true from rfl)]
    generalize inside body = stmts at parts names_ documented
    unfold Code.docOf at documented
    split at documented
    next p q s kind rest =>
      obtain rfl : [] = names := names_
      exact ⟨[.cell], parts, .inr ⟨rfl, rfl⟩⟩
    next => cases documented

end Notebook.Realm

namespace Notebook.Session

open Notebook.Machine Notebook.Loop Notebook.Cell Notebook.Realm Notebook.Tree
open Notebook.Code (Program)

/-! Sessions that can run a body. -/

/-- What cells have published. -/
def State.exportsOf (s : State) : Exports Value :=
  match (s.world.heap.getD s.exports default).payload with
  | .exports e => e
  | _ => {}

theorem exportsNow_apply (s : State) : exportsNow s = (s.exportsOf, s) := by
  unfold State.exportsOf exportsNow
  rw [bind_apply, get_apply]
  dsimp only
  generalize (s.world.heap.getD s.exports default).payload = p
  cases p <;> rfl

theorem remove_absent {e : Exports Value} {name : String} (h : e.get? name = none) :
    e.remove name = e := by
  unfold Exports.remove
  refine congrArg Exports.mk (List.filter_eq_self.mpr fun p member => bne_iff_ne.mpr fun same => ?_)
  have apart := List.lookup_eq_none_iff.mp h p member
  simp [same] at apart

/-- A session with what bodies rely on in place: the native classes, the namespace and the globals. -/
structure State.Ready (s : State) : Prop where
  native : s.world.Native
  isNamespace : IsNamespace s.world s.exports s.exportsOf
  own : s.realm.Apart s.exports s.world

theorem exportsOf_of_isNamespace {s : State} {e : Exports Value} (h : IsNamespace s.world s.exports e) :
    s.exportsOf = e := by
  unfold State.exportsOf
  rw [h.payload]

namespace State.Ready

variable {s s' : State} {e : Exports Value}

theorem room (h : s.Ready) : natives.length ≤ s.world.heap.size := h.isNamespace.room h.native

theorem quiet (h : s.Ready) (change : Quiet s s') (kept : IsNamespace s'.world s.exports e) :
    s'.Ready ∧ s'.exportsOf = e := by
  have named : IsNamespace s'.world s'.exports e := change.exports ▸ kept
  have same := exportsOf_of_isNamespace named
  refine ⟨⟨h.native.leads h.room change.world, same.symm ▸ named, ?_⟩, same⟩
  obtain ⟨foreign, inside, apart, linked⟩ := h.own
  refine ⟨change.globals.symm ▸ foreign, ?_, ?_, change.world.linked linked⟩
  · rw [change.globals]
    exact Nat.lt_of_lt_of_le inside change.world.size
  · rw [change.globals, change.exports]
    exact apart

theorem taken (h : s.Ready) (src : String) : (s.taken src).Ready := by
  unfold State.taken
  split
  · exact ⟨h.1, h.2, h.3⟩
  · exact ⟨h.1, h.2, h.3⟩
  · exact h
  · split
    · exact ⟨h.1, h.2, h.3⟩
    · exact ⟨h.1, show IsNamespace _ _ s.exportsOf from h.2.same rfl, ⟨h.own.1, h.own.2, h.own.3, h.own.4⟩⟩

end State.Ready

theorem State.Ready.declared {s : State} (h : s.Ready) (declarations : String) :
    ({ s with declarations } : State).Ready := ⟨h.1, h.2, h.3⟩

theorem exportsOf_declared (s : State) (declarations : String) :
    ({ s with declarations } : State).exportsOf = s.exportsOf := rfl

theorem taken_same (s : State) (src : String) : (s.taken src).exports = s.exports ∧
    (s.taken src).realm = s.realm ∧ (s.taken src).loader = s.loader ∧
    (s.taken src).exportsOf = s.exportsOf ∧ (s.taken src).declarations = s.declarations ∧
    (s.taken src).sink = s.sink := by
  unfold State.taken
  split
  · exact ⟨rfl, rfl, rfl, rfl, rfl, rfl⟩
  · exact ⟨rfl, rfl, rfl, rfl, rfl, rfl⟩
  · exact ⟨rfl, rfl, rfl, rfl, rfl, rfl⟩
  · split <;> exact ⟨rfl, rfl, rfl, rfl, rfl, rfl⟩

/-! Beginning a cell. -/

section

variable {s : State} {src : String} {c : Compiled}

theorem accepted_iff : s.accepted? src = some c ↔
    isRunHere src = true ∧ (s.compiled src).1 = .ok c ∧ c.diagnostics = [] := by
  unfold State.accepted?
  split
  next here => simp [Option.filter_eq_some_iff, toOption_eq_some, here]
  next there => simp [there]

theorem prepare_accepted (accepted : s.accepted? src = some c) :
    prepare src s = if c.body == "" then (.ended success, { s.taken src with declarations := c.declarations })
      else (.body c, s.taken src) := by
  obtain ⟨here, compiled, clean⟩ := accepted_iff.mp accepted
  obtain ⟨unnamed, mode⟩ := (isRunHere_iff src).mp here
  have onward : prepare src s = proceed c (s.taken src) := by
    rw [taken_of_ok here compiled]
    unfold prepare
    rw [unnamed, mode]
    change takeOver (s.compiled src).1 { s with inner := (s.compiled src).2 } = _
    rw [compiled]
    rfl
  rw [onward]
  unfold proceed
  rw [clean, if_neg (by simp)]
  split <;> rfl

theorem run_of_begin {s₁ : State} {cl : Closing} (main : FutureId) (began : begin src s = (.ended cl, s₁)) :
    closing main src s = (.ok cl, s₁) ∧ run main src s = (.ok (cl.conclude s₁).1, (cl.conclude s₁).2) := by
  have closed : closing main src s = (.ok cl, s₁) := by
    unfold closing
    rw [bind_apply, began]
    rfl
  refine ⟨closed, ?_⟩
  unfold run
  rw [bind_apply, closed]
  rfl

end

/-! Ending a run. -/

/-- What a run writes at its end that shows a value, or shows none. -/
def showing : Option Value → Closing
  | none => success
  | some v => if v.is .none then success else .writing .result v (.outcome .success .none)

theorem setExports_apply (e : Exports Value) (s : State) :
    setExports e s = ((), { s with world := s.world.setEntries s.exports e }) := by
  unfold setExports inWorldOr
  rw [bind_apply, get_apply]
  dsimp only
  rw [bind_apply]
  unfold inWorld
  rw [setPayload_run (fun _ same => by cases same)]
  rfl

theorem finish_apply {s : State} (ready : s.Ready) (last : Option String) :
    ∃ s', finish last s = (showing (last.bind s.exportsOf.get?), s') ∧ Aside s s' ∧
      IsNamespace s'.world s.exports (last.elim s.exportsOf s.exportsOf.remove) := by
  cases last with
  | none => exact ⟨s, rfl, .refl s, ready.isNamespace⟩
  | some name =>
    unfold finish
    dsimp only
    rw [bind_apply, exportsNow_apply]
    dsimp only
    cases found : s.exportsOf.get? name with
    | none =>
      refine ⟨s, by rw [Option.bind_some, found]; rfl, .refl s, ?_⟩
      rw [Option.elim_some, remove_absent found]
      exact ready.isNamespace
    | some v =>
      have set_ := setExports_apply (s.exportsOf.remove name) s
      have aside := Aside.setExports (s.exportsOf.remove name) s
      rw [set_] at aside
      refine ⟨{ s with world := s.world.setEntries s.exports (s.exportsOf.remove name) }, ?_, aside,
        ready.isNamespace.setEntries ready.native _⟩
      dsimp only
      rw [bind_apply, set_, Option.bind_some, found]
      unfold showing
      dsimp only
      split <;> rfl

theorem inWorld_ok {α : Type} {x : M α} {s : State} {a : α} {w : World} (ran : x.run s.world = .ok a w) :
    inWorld x s = (.ok a, { s with world := w }) := by
  unfold inWorld
  rw [ran]

theorem inWorld_raised {α : Type} {x : M α} {s : State} {v : Value} {w : World}
    (ran : x.run s.world = .error (.raised v) w) : inWorld x s = (.error v, { s with world := w }) := by
  unfold inWorld
  rw [ran]

/-- A session when the body of a cell has run, by the world that the body leaves. -/
def State.ran (s : State) (declarations : String) (w : World) : State :=
  { s with realm := s.realm.next, declarations, world := w }

section

variable {s : State} {w : World}

theorem ran_quiet (declarations : String) (leads : s.world.Leads w) : Quiet s (s.ran declarations w) :=
  ⟨rfl, rfl, rfl, rfl, rfl, rfl, rfl, leads⟩

@[simp]
theorem ran_exports (s : State) (d : String) (w : World) : (s.ran d w).exports = s.exports := rfl

theorem State.Ready.ran {s' : State} {d : String} {e : Exports Value} (ready : s.Ready) (leads : s.world.Leads w)
    (aside : Aside (s.ran d w) s') (kept : IsNamespace s'.world s.exports e) :
    s'.Ready ∧ s'.exportsOf = e ∧ s'.declarations = d ∧ s'.sink = s.sink ∧ Quiet s s' := by
  have quiet : Quiet s s' := (ran_quiet d leads).trans aside.toQuiet
  obtain ⟨ready', same⟩ := ready.quiet quiet kept
  exact ⟨ready', same, aside.declarations, aside.sink, quiet⟩

variable {c : Compiled} (atOnce : c.hasTopLevelAwait = false) {v : Value}

include atOnce

theorem start_returned (ran : (s.realm.run c.body (.ref s.exports) s.loader false).run s.world = .ok v w) :
    start (.body c) s = (.ended (finish c.lastBinding (s.ran c.declarations w)).1,
      (finish c.lastBinding (s.ran c.declarations w)).2) := by
  rw [← atOnce] at ran
  have runs : runRealm c s = (.ok v, s.ran c.declarations w) :=
    inWorld_ok (s := s.ran c.declarations s.world) ran
  unfold start
  dsimp only
  rw [bind_apply, runs, atOnce]
  rfl

theorem start_raised
    (ran : (s.realm.run c.body (.ref s.exports) s.loader false).run s.world = .error (.raised v) w) :
    start (.body c) s = (.ended (if w.isKind v "KeyboardInterrupt" then .atOnce (.escaped v) else fail .fault v),
      s.ran c.declarations w) := by
  rw [← atOnce] at ran
  have runs : runRealm c s = (.error v, s.ran c.declarations w) :=
    inWorld_raised (s := s.ran c.declarations s.world) ran
  have asked : inWorldOr false (isError v "KeyboardInterrupt") (s.ran c.declarations w)
      = (w.isKind v "KeyboardInterrupt", s.ran c.declarations w) := by
    unfold inWorldOr
    rw [bind_apply, inWorld_ok (s := s.ran c.declarations w) (isError_run v "KeyboardInterrupt" w)]
    rfl
  unfold start
  dsimp only
  rw [bind_apply, runs]
  dsimp only
  rw [bind_apply, asked]
  dsimp only
  split <;> rfl

end

/-! Cells whose bodies run at once. -/

/-- A cell that a session accepts and that does not wait, with the function that its body is made into. The
statements of the body are those that the compiler put there. -/
structure Staged (s : State) (src : String) where
  cell : Compiled
  accepted : s.accepted? src = some cell
  computes : cell.body ≠ ""
  atOnce : cell.hasTopLevelAwait = false
  prior : Declarations
  known : parseDeclarations s.declarations = .ok prior
  tree : List Stmt
  checked : Compiler.checkCell src = .ok tree
  body : List Stmt
  parsed : parseText cell.body = .ok body
  shaped : (inside body).map shapeOf = shapes prior tree
  program : Program
  compiled : Code.compile { file := s.realm.fileName } [wrap body false] = .ok program
  function : Wrapped s.realm.fileName body false program
  unfree : ∀ n, function.scope.binding n ≠ .free
  plain : function.code.flavor = .plain

namespace Staged

variable {s : State} {src : String} (c : Staged s src)

/-- The frame of the function of the body, and the world in which it starts. -/
def Enters (f : Frame) (w : World) : Prop :=
  (s.realm.enter c.cell.body (.ref s.exports) s.loader).run (s.taken src).world = .ok f w

/-- The states in which the body comes to its statements. -/
def Comes (k : Nat) (f : Frame) (w : World) (e : Exports Value) : Prop :=
  ∃ f₀ w₀ cost, c.Enters f₀ w₀ ∧ Realm.Comes c.function s.exports s.exportsOf f₀ w₀ cost k f w e

/-- The statements of the cell keep to themselves, wherever the body comes to them. -/
def KeepsApart : Prop :=
  ∀ f w, c.Enters f w → ∃ cost, Realm.KeepsApart c.function s.exports s.exportsOf f w cost

abbrev running : M Value :=
  (s.taken src).realm.run c.cell.body (.ref (s.taken src).exports) (s.taken src).loader false

/-- How many names the body takes over. -/
abbrev preloaded : Nat := (preloadNames c.prior c.tree).length

/-- The statements of the body that are the cell's. -/
def own : List Stmt := ((inside c.body).drop c.preloaded).filter (partOf · == .cell)

/-- The session when the body has run, in the world that it leaves. -/
abbrev left (w : World) : State := (s.taken src).ran c.cell.declarations w

/-- How the run of a cell ends. The body goes through all its statements, and the value that it set aside is
shown and removed; or the body ends in one of them with an error. -/
inductive Ends : Closing → Exports Value → Prop
  | through {f : Frame} {w : World} {e : Exports Value} (comes : c.Comes c.function.stmts.length f w e) :
      Ends (showing (c.cell.lastBinding.bind e.get?)) (c.cell.lastBinding.elim e e.remove)
  | broken {k : Nat} {f : Frame} {w : World} {e : Exports Value} {st : Stmt} {v : Value} {cl : Closing}
      (comes : c.Comes k f w e) (at_ : c.function.stmts[k]? = some st)
      (insert : ∀ i, partOf st = .insert i → i.after (f.known? c.function.scope w) e = none)
      (failed : cl = fail .fault v ∨ cl = .atOnce (.escaped v)) : Ends cl e

variable {c}

theorem enters (ready : s.Ready) : ∃ f w, c.Enters f w ∧
    Entered c.function s.exports s.loader s.exportsOf f w ∧
    c.running.run (s.taken src).world = (execute (hostAt 1958) f.patience f >>= valueOf).run w := by
  obtain ⟨exports, realm, loader, same, -⟩ := taken_same s src
  obtain ⟨native, isNamespace, own⟩ := ready.taken src
  unfold running
  rw [exports, realm, loader]
  rw [exports, same] at isNamespace
  rw [exports, realm] at own
  obtain ⟨f, w, ran, execution, entered⟩ :=
    run_enters c.parsed c.function c.plain c.compiled native isNamespace own s.loader
  exact ⟨f, w, ran, entered, execution⟩

theorem declares : ∃ ds, declareStmts c.prior c.tree = .ok ds ∧ c.cell.declarations = ds.text ∧
    buildBody c.prior c.tree = .ok (c.cell.body, c.cell.lastBinding) := by
  obtain ⟨-, compiled, clean⟩ := accepted_iff.mp c.accepted
  have whole : s.inner.compile s.files s.declarations src = (.ok c.cell, (s.compiled src).2) :=
    Prod.ext compiled rfl
  obtain ⟨prior, tree, ds, known, checked, declared, carried, built, -⟩ := Compiler.compile_declares whole clean
  cases c.known.symm.trans known
  cases c.checked.symm.trans checked
  exact ⟨ds, declared, carried, built⟩

theorem fetched_body : fetched c.body = preloadNames c.prior c.tree := (c.function.parts c.shaped).1

theorem Comes.preloaded_le {k : Nat} {f : Frame} {w : World} {e : Exports Value} (h : c.Comes k f w e) :
    c.preloaded ≤ k := by
  obtain ⟨f₀, w₀, cost, -, comes⟩ := h
  rw [preloaded, ← fetched_body]
  exact comes.follows.1

/-- The statements after the names that are taken over are the parts of the body, counted from the end. -/
theorem part_at {k : Nat} {st : Stmt} (h : c.preloaded ≤ k) (at_ : c.function.stmts[k]? = some st) :
    ∃ i, (bodyParts c.tree)[i]? = some (partOf st) ∧
      i + c.function.stmts.length = k + (bodyParts c.tree).length := by
  obtain ⟨-, front, parts, -⟩ := c.function.parts c.shaped
  have within := (List.getElem?_eq_some_iff.mp at_).1
  refine ⟨front.length + (k - c.preloaded), ?_, ?_⟩
  · rw [← parts, List.getElem?_append_right (Nat.le_add_right _ _), Nat.add_sub_cancel_left, List.getElem?_map,
      List.getElem?_drop, Nat.add_sub_cancel' h, at_]
    rfl
  · have counted : (bodyParts c.tree).length = front.length + (c.function.stmts.length - c.preloaded) := by
      rw [← parts, List.length_append, List.length_map, List.length_drop]
    omega

theorem part_from {i : Nat} {p : Part} (at_ : (bodyParts c.tree)[i]? = some p) (other : p ≠ .cell) :
    ∃ k st, c.preloaded ≤ k ∧ c.function.stmts[k]? = some st ∧ partOf st = p ∧
      i + c.function.stmts.length = k + (bodyParts c.tree).length := by
  obtain ⟨-, front, parts, cells⟩ := c.function.parts c.shaped
  rw [← parts] at at_
  have past : front.length ≤ i := by
    refine Nat.le_of_not_lt fun within => other ?_
    rw [List.getElem?_append_left within] at at_
    have member := List.mem_of_getElem? at_
    rcases cells with rfl | ⟨rfl, -⟩
    · cases member
    · exact List.mem_singleton.mp member
  rw [List.getElem?_append_right past, List.getElem?_map, List.getElem?_drop] at at_
  obtain ⟨st, there, part⟩ := Option.map_eq_some_iff.mp at_
  have after : c.preloaded ≤ c.preloaded + (i - front.length) := Nat.le_add_right _ _
  obtain ⟨i', -, counted⟩ := part_at after there
  refine ⟨_, st, after, there, part, ?_⟩
  have whole : (bodyParts c.tree).length = front.length + (c.function.stmts.length - c.preloaded) := by
    rw [← parts, List.length_append, List.length_map, List.length_drop]
  have within := (List.getElem?_eq_some_iff.mp there).1
  change c.preloaded + (i - front.length) < _ at within
  change i + _ = c.preloaded + (i - front.length) + _
  omega

theorem part_mem {k : Nat} {st : Stmt} (h : c.preloaded ≤ k) (at_ : c.function.stmts[k]? = some st) :
    partOf st ∈ bodyParts c.tree := by
  obtain ⟨i, there, -⟩ := part_at h at_
  exact List.mem_of_getElem? there

theorem stmts_suffix {k : Nat} (h : c.preloaded ≤ k) :
    c.function.stmts.drop k <:+ (inside c.body).drop c.preloaded := by
  unfold Wrapped.stmts
  split
  · rw [← List.drop_one, List.drop_drop]
    exact List.drop_suffix_drop_left _ (by omega)
  · exact List.drop_suffix_drop_left _ h

theorem lastBinding_eq : c.cell.lastBinding = if (bodyStmts c.tree).2 then some lastName else none := by
  obtain ⟨-, -, -, built⟩ := c.declares
  unfold buildBody at built
  obtain ⟨_, -, built⟩ := Code.of_bind_ok built
  generalize bodyStmts c.tree = out at built ⊢
  obtain ⟨stmts, shown⟩ := out
  dsimp only at built ⊢
  split at built
  next =>
    exact absurd (congrArg Prod.fst (Except.ok.inj built)).symm c.computes
  next =>
    obtain ⟨_, -, built⟩ := Code.of_bind_ok built
    obtain ⟨_, -, built⟩ := Code.of_bind_ok built
    obtain ⟨text, -, built⟩ := Code.of_bind_ok built
    exact (congrArg Prod.snd (Except.ok.inj built)).symm

theorem own_of_unshown (none : c.cell.lastBinding = none) {p : Part} (member : p ∈ bodyParts c.tree) :
    p.isOwn = true := by
  obtain ⟨ps, split, own, shown⟩ := bodyParts_shown c.tree
  rw [lastBinding_eq, shown] at none
  cases last : c.tree.getLast?.bind shownPart with
  | none =>
    rw [split, last, Option.toList_none, List.append_nil] at member
    exact (own p member).1
  | some q =>
    rw [last] at none
    cases none

theorem publishes_own {n m : String} (own : n ≠ lastName ∨ c.cell.lastBinding = none)
    (member : .insert (.deed (.publish n m)) ∈ bodyParts c.tree) : n = m := by
  rcases own with own | unshown
  · obtain ⟨ps, split, each, -⟩ := bodyParts_shown c.tree
    rw [split] at member
    rcases List.mem_append.mp member with here | there
    · exact beq_iff_eq.mp (each _ here).1
    · obtain ⟨t, -, shown⟩ := Option.bind_eq_some_iff.mp (Option.mem_toList.mp there)
      rcases shownPart_shows shown with same | ⟨k, same⟩
      · cases same
      · cases same
        exact absurd rfl own
  · exact beq_iff_eq.mp (own_of_unshown unshown member)

theorem captures_nothing {n : String} (own : n ≠ lastName ∨ c.cell.lastBinding = none) (last : n = lastName)
    (member : .capture ∈ bodyParts c.tree) : False := by
  rcases own with own | unshown
  · exact own last
  · cases own_of_unshown unshown member

theorem begin_apply : begin src s = start (.body c.cell) (s.taken src) := by
  unfold begin
  rw [bind_apply, prepare_accepted c.accepted, if_neg (by simpa using c.computes)]

/-- The session after the run of a cell, by what the namespace holds then. -/
structure Leaves (e : Exports Value) (s' : State) : Prop where
  ready : s'.Ready
  exportsOf : s'.exportsOf = e
  declarations : s'.declarations = c.cell.declarations
  sink : s'.sink = s.sink
  quiet : Quiet (s.taken src) s'

theorem Leaves.of_left (ready : s.Ready) {w : World} {s' : State} {e : Exports Value}
    (leads : (s.taken src).world.Leads w) (aside : Aside (c.left w) s')
    (kept : IsNamespace s'.world s.exports e) : Leaves (c := c) e s' := by
  obtain ⟨exports, -, -, -, -, sink⟩ := taken_same s src
  rw [← exports] at kept
  obtain ⟨ready', same, declarations, sink', quiet⟩ := (ready.taken src).ran leads aside kept
  exact ⟨ready', same, declarations, sink'.trans sink, quiet⟩

theorem begin_returned (ready : s.Ready) {w : World} {e : Exports Value}
    (value : c.running.run (s.taken src).world = .ok .none w) (kept : IsNamespace w s.exports e) :
    ∃ s', begin src s = (.ended (showing (c.cell.lastBinding.bind e.get?)), s') ∧
      Leaves (c := c) (c.cell.lastBinding.elim e e.remove) s' := by
  have leads := c.running.leads (s.taken src).world
  have leads : (s.taken src).world.Leads w := by
    rwa [value] at leads
  have there : (s.taken src).exports = s.exports := (taken_same s src).1
  rw [← there] at kept
  obtain ⟨ready', same, -⟩ := (ready.taken src).ran (d := c.cell.declarations) leads (.refl _) kept
  obtain ⟨s', finished, aside, kept⟩ := finish_apply ready' c.cell.lastBinding
  rw [same] at finished kept
  rw [ran_exports, there] at kept
  refine ⟨s', ?_, .of_left ready leads aside kept⟩
  rw [begin_apply (c := c), start_returned c.atOnce value, finished]

theorem begin_raised (ready : s.Ready) {v : Value} {w : World} {e : Exports Value}
    (value : c.running.run (s.taken src).world = .error (.raised v) w) (kept : IsNamespace w s.exports e) :
    ∃ s', begin src s
        = (.ended (if w.isKind v "KeyboardInterrupt" then .atOnce (.escaped v) else fail .fault v), s') ∧
      s'.world = w ∧ Leaves (c := c) e s' := by
  have leads := c.running.leads (s.taken src).world
  have leads : (s.taken src).world.Leads w := by
    rwa [value] at leads
  exact ⟨_, begin_apply.trans (start_raised c.atOnce value), rfl, .of_left ready leads (.refl _) kept⟩

theorem ends (ready : s.Ready) (apart : c.KeepsApart) :
    ∃ cl e s', c.Ends cl e ∧ begin src s = (.ended cl, s') ∧ Leaves (c := c) e s' := by
  obtain ⟨f, w, entering, entered, execution⟩ := enters (c := c) ready
  obtain ⟨cost, apart⟩ := apart f w entering
  obtain ⟨r, e, how, ran⟩ := apart.ends c.unfree entered
  cases how with
  | @returned g w' _ comes =>
    have value : c.running.run (s.taken src).world = .ok .none w' := by
      rw [execution, M.run_bind_ok ran]
      rfl
    obtain ⟨s', began, leaves⟩ := begin_returned ready value (comes.standing entered).inBody.isNamespace
    exact ⟨_, _, s', .through ⟨f, w, cost, entering, comes⟩, began, leaves⟩
  | @raised k g w' w'' _ v st comes at_ isNamespace insert =>
    have value : c.running.run (s.taken src).world = .error (.raised v) w'' := by
      rw [execution, M.run_bind_error ran]
    have failed (b : Bool) : (if b then .atOnce (.escaped v) else fail .fault v) = fail .fault v ∨
        (if b then .atOnce (.escaped v) else fail .fault v) = Closing.atOnce (.escaped v) := by
      cases b
      · exact .inl rfl
      · exact .inr rfl
    obtain ⟨s', began, -, leaves⟩ := begin_raised ready value isNamespace
    exact ⟨_, e, s', .broken ⟨f, w, cost, entering, comes⟩ at_ insert (failed _), began, leaves⟩

end Staged

end Notebook.Session
