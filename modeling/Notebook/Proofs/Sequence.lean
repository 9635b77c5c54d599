import Notebook.Proofs.Staged

/-! Cells that run one after another, none of which waits or reaches for what bodies go by: what each run
comes to, and that the next cell finds a session in which it can run. -/

set_option autoImplicit false

namespace Notebook.Session

open Notebook.Machine Notebook.Loop Notebook.Cell Notebook.Realm Notebook.Tree

/-! Cells of which nothing runs. -/

/-- The values that have been shown, if there is a record of them. -/
def State.results (s : State) : Option (List Value) :=
  match s.sink with
  | .record r => some (r.on .result)
  | .console => none

/-- What the end of a run writes to be shown. -/
def Closing.result? : Closing → Option Value
  | .writing .result v _ => some v
  | _ => none

/-- A session in which nothing has changed but for new objects, and what is written of errors. -/
structure Adds (s s' : State) : Prop where
  exports : s'.exports = s.exports
  declarations : s'.declarations = s.declarations
  results : s'.results = s.results
  size : s.world.heap.size ≤ s'.world.heap.size
  objects : ∀ r, r < s.world.heap.size → s'.world.heap.getD r default = s.world.heap.getD r default

namespace Adds

variable {s s' s'' : State}

theorem refl (s : State) : Adds s s := ⟨rfl, rfl, rfl, Nat.le_refl _, fun _ _ => rfl⟩

theorem trans (h : Adds s s') (h' : Adds s' s'') : Adds s s'' :=
  ⟨h'.exports.trans h.exports, h'.declarations.trans h.declarations, h'.results.trans h.results,
    Nat.le_trans h.size h'.size, fun r hr => (h'.objects r (Nat.lt_of_lt_of_le hr h.size)).trans (h.objects r hr)⟩

theorem isNamespace {e : Exports Value} (h : Adds s s') (he : IsNamespace s.world s.exports e) :
    IsNamespace s'.world s.exports e :=
  he.same (h.objects _ he.inside)

theorem bind {α β : Type} {x : S α} {f : α → S β} (hx : Follows Adds x) (hf : ∀ a, Follows Adds (f a)) :
    Follows Adds (x >>= f) := fun s => (hx s).trans (hf _ _)

theorem pure {α : Type} (a : α) : Follows Adds (pure a : S α) := refl

theorem newException (cls : String) (args : List Value) :
    Follows Adds (inWorldOr .none (newException cls args)) := by
  intro s
  let o : Obj := { cls := nativeRef cls, payload := .exception { args } }
  have made : inWorldOr .none (Machine.newException cls args) s
      = (.ref s.world.heap.size, { s with world := s.world.push o }) := rfl
  rw [made]
  refine ⟨rfl, rfl, rfl, by simp [World.push], fun r hr => ?_⟩
  rw [World.push, getD_push, if_neg (Nat.ne_of_lt hr)]

theorem troubleError (t : Trouble) : Follows Adds (troubleError t) := by
  unfold Session.troubleError
  split <;> exact newException _ _

theorem reportOf (d : Diagnostic) : Follows Adds (reportOf d) := by
  refine bind refl fun s => ?_
  split
  · split
    · exact pure _
    · exact bind (newException _ _) fun _ => pure _
  · exact bind (newException _ _) fun _ => pure _

theorem write (text : String) : Follows Adds (write .error (.str text)) := by
  intro s
  unfold Session.write
  rw [bind_apply, get_apply]
  cases sink : s.sink with
  | record r =>
    refine ⟨rfl, rfl, ?_, Nat.le_refl _, fun _ _ => rfl⟩
    unfold State.results
    rw [sink]
    change some ((r.write .error (.str text)).on .result) = some (r.on .result)
    simp [Record.on, Record.write]
  | console => exact ⟨rfl, rfl, rfl, Nat.le_refl _, fun _ _ => rfl⟩

theorem report (ds : List Diagnostic) : Follows Adds (report ds) := by
  induction ds with
  | nil => exact pure _
  | cons d ds ih =>
    refine bind (reportOf d) fun told => ?_
    cases told with
    | error e => exact pure _
    | ok text =>
      refine bind (write text) fun wrote => ?_
      cases wrote with
      | error e => exact pure _
      | ok _ => exact ih

end Adds

/-- A cell whose run is over before anything of it runs. -/
def Over (s : State) (out : Prepared × State) : Prop :=
  ∃ cl s', out = (.ended cl, s') ∧ cl.result? = none ∧ Adds s s'

theorem registered_over (result : Except Trouble (List Diagnostic)) (s : State) : Over s (registered result s) := by
  cases result with
  | error t => exact ⟨_, _, rfl, rfl, .troubleError t s⟩
  | ok ds =>
    have told := Adds.report ds s
    unfold registered
    dsimp only
    rw [bind_apply]
    generalize report ds s = out at told ⊢
    obtain ⟨told_, s₁⟩ := out
    cases told_ <;> exact ⟨_, _, rfl, rfl, told⟩

theorem Over.of_same {s s' : State} {out : Prepared × State} (h : Over s' out) (same : Adds s s') : Over s out := by
  obtain ⟨cl, s₁, rfl, silent, adds⟩ := h
  exact ⟨cl, s₁, rfl, silent, same.trans adds⟩

theorem prepare_refused {s : State} {src : String} (refused : s.accepted? src = none) : Over s (prepare src s) := by
  unfold prepare
  cases named : (metadata src).module with
  | some name =>
    have done (mode : Mode) : Over s (registerModule mode name src s) := by
      unfold registerModule
      rw [bind_apply, get_apply]
      refine (registered_over _ _).of_same ?_
      cases mode <;> exact ⟨rfl, rfl, rfl, Nat.le_refl _, fun _ _ => rfl⟩
    cases (metadata src).mode <;> exact done _
  | none =>
    cases mode : (metadata src).mode with
    | browser => exact ⟨_, _, rfl, rfl, .refl s⟩
    | «local» =>
      have here : isRunHere src = true := by simp [isRunHere, named, mode]
      change Over s (takeOver (s.compiled src).1 { s with inner := (s.compiled src).2 })
      cases result : (s.compiled src).1 with
      | error t => exact (registered_over (.error t) _).of_same ⟨rfl, rfl, rfl, Nat.le_refl _, fun _ _ => rfl⟩
      | ok c =>
        have wrong : c.diagnostics ≠ [] := fun clean => by
          have accepted : s.accepted? src = some c := accepted_iff.mpr ⟨here, result, clean⟩
          rw [refused] at accepted
          cases accepted
        let s₁ : State := { s with
          inner := (s.compiled src).2, world := { s.world with cache := s.world.cache.update c.updates } }
        have told := Adds.report c.diagnostics s₁
        change Over s (proceed c s₁)
        unfold proceed
        rw [if_pos (by simpa using wrong), bind_apply]
        have same : Adds s s₁ := ⟨rfl, rfl, rfl, Nat.le_refl _, fun _ _ => rfl⟩
        generalize report c.diagnostics s₁ = out at told ⊢
        obtain ⟨told_, s₂⟩ := out
        cases told_ <;> exact ⟨_, _, rfl, rfl, same.trans told⟩

/-! Cells one after another. -/

section

variable (main : FutureId) (s : State) (src : String)

/-- What the end of a run writes leaves the namespace as it is. -/
def State.WritesApart : Prop := ∀ cl s₁, closing main src s = (.ok cl, s₁) →
  ∀ e, IsNamespace s₁.world s₁.exports e → IsNamespace (cl.conclude s₁).2.world s₁.exports e

/-- A cell that does not wait: nothing of it runs, or the statements that run keep to themselves. -/
inductive State.Runnable : Prop
  | bodiless (none : ∀ c, s.accepted? src = some c → c.body = "") (writes : s.WritesApart main src)
  | staged (c : Staged s src) (apart : c.KeepsApart) (writes : s.WritesApart main src)

/-- The whole run of a cell with a body: what the body does is over when the end of the run is written. -/
structure Staged.Ran {s : State} {src : String} (c : Staged s src) (main : FutureId) (cl : Closing)
    (e : Exports Value) (s₁ : State) (end_ : RunEnd) (s' : State) : Prop where
  ends : c.Ends cl e
  closed : closing main src s = (.ok cl, s₁)
  sink : s₁.sink = s.sink
  concluded : cl.conclude s₁ = (end_, s')
  ran : run main src s = (.ok end_, s')
  ready : s'.Ready
  exportsOf : s'.exportsOf = e
  declarations : s'.declarations = c.cell.declarations

inductive State.Runs : Closing → State → RunEnd → State → Prop
  | bodiless {cl : Closing} {s₁ s' : State} {e : RunEnd} (none : ∀ c, s.accepted? src = some c → c.body = "")
      (closed : closing main src s = (.ok cl, s₁)) (silent : cl.result? = .none) (results : s₁.results = s.results)
      (concluded : cl.conclude s₁ = (e, s')) (ran : run main src s = (.ok e, s')) (ready : s'.Ready)
      (exportsOf : s'.exportsOf = s.exportsOf)
      (declarations : s'.declarations = ((s.accepted? src).map (·.declarations)).getD s.declarations) :
      Runs cl s₁ e s'
  | staged (c : Staged s src) {cl : Closing} {s₁ s' : State} {end_ : RunEnd} {e : Exports Value}
      (ran : c.Ran main cl e s₁ end_ s') : Runs cl s₁ end_ s'

end

section

variable {main : FutureId} {s : State} {src : String}

theorem conclude_declarations (cl : Closing) (s : State) : (cl.conclude s).2.declarations = s.declarations := by
  cases cl with
  | atOnce e => rfl
  | writing c v e =>
    have wrote : (write c v s).2.declarations = s.declarations := by
      unfold write
      rw [bind_apply, get_apply]
      cases s.sink with
      | record r => rfl
      | console => exact (Aside.inWorld _ s).declarations
    unfold Closing.conclude
    dsimp only
    rw [bind_apply]
    generalize write c v s = out at wrote ⊢
    obtain ⟨r, s₁⟩ := out
    cases r <;> exact wrote

theorem begin_bodiless (ready : s.Ready) (none : ∀ c, s.accepted? src = some c → c.body = "") :
    ∃ cl s₁, begin src s = (.ended cl, s₁) ∧ cl.result? = .none ∧ s₁.results = s.results ∧
      Quiet (s.taken src) s₁ ∧ IsNamespace s₁.world s₁.exports s.exportsOf ∧
      s₁.declarations = ((s.accepted? src).map (·.declarations)).getD s.declarations := by
  have quiet := prepare_quiet src s
  have began {cl : Closing} {s₁ : State} (prepared : prepare src s = (.ended cl, s₁)) :
      begin src s = (.ended cl, s₁) := by
    unfold begin
    rw [bind_apply, prepared]
    rfl
  cases accepted : s.accepted? src with
  | none =>
    obtain ⟨cl, s₁, prepared, silent, adds⟩ := prepare_refused accepted
    rw [prepared] at quiet
    exact ⟨cl, s₁, began prepared, silent, adds.results, quiet, adds.exports ▸ adds.isNamespace ready.isNamespace,
      adds.declarations⟩
  | some c =>
    have prepared := prepare_accepted accepted
    rw [if_pos (by simpa using none c accepted)] at prepared
    rw [prepared] at quiet
    obtain ⟨-, -, -, same, -, sink⟩ := taken_same s src
    have kept := (ready.taken src).isNamespace
    rw [same] at kept
    have results : (s.taken src).results = s.results := by
      unfold State.results
      rw [sink]
    -- What the session is when the cell is taken does not matter below.
    generalize s.taken src = t at prepared quiet kept results ⊢
    exact ⟨_, _, began prepared, rfl, results, quiet, kept, rfl⟩

theorem run_of_writesApart {cl : Closing} {s₁ : State} {e : Exports Value} (ready : s.Ready)
    (began : begin src s = (.ended cl, s₁)) (writes : s.WritesApart main src) (quiet : Quiet (s.taken src) s₁)
    (he : IsNamespace s₁.world s₁.exports e) :
    closing main src s = (.ok cl, s₁) ∧ run main src s = (.ok (cl.conclude s₁).1, (cl.conclude s₁).2) ∧
      (cl.conclude s₁).2.Ready ∧ (cl.conclude s₁).2.exportsOf = e ∧
      (cl.conclude s₁).2.declarations = s₁.declarations := by
  obtain ⟨closed, ran⟩ := run_of_begin main began
  have quiet' : Quiet (s.taken src) (cl.conclude s₁).2 := quiet.trans (Quiet.permits.conclude cl s₁)
  have kept := writes cl s₁ closed e he
  rw [quiet.exports] at kept
  obtain ⟨ready', same⟩ := (ready.taken src).quiet quiet' kept
  exact ⟨closed, ran, ready', same, conclude_declarations cl s₁⟩

theorem Staged.runs (ready : s.Ready) (c : Staged s src) (apart : c.KeepsApart) (writes : s.WritesApart main src) :
    ∃ cl e s₁ end_ s', c.Ran main cl e s₁ end_ s' := by
  obtain ⟨cl, e, s₁, ends, began, left⟩ := c.ends ready apart
  have he := left.ready.isNamespace
  rw [left.exportsOf] at he
  obtain ⟨closed, ran, ready', same, later⟩ := run_of_writesApart ready began writes left.quiet he
  exact ⟨cl, e, s₁, _, _, ends, closed, left.sink, rfl, ran, ready', same, later.trans left.declarations⟩

theorem State.Runnable.runs (ready : s.Ready) (h : s.Runnable main src) :
    ∃ cl s₁ e s', s.Runs main src cl s₁ e s' := by
  cases h with
  | bodiless none writes =>
    obtain ⟨cl, s₁, began, silent, results, quiet, he, declarations⟩ := begin_bodiless ready none
    obtain ⟨closed, ran, ready', same, later⟩ := run_of_writesApart ready began writes quiet he
    exact ⟨_, _, _, _, .bodiless none closed silent results rfl ran ready' same (later.trans declarations)⟩
  | staged c apart writes =>
    obtain ⟨cl, e, s₁, end_, s', ran⟩ := c.runs ready apart writes
    exact ⟨_, _, _, _, .staged c ran⟩

end

/-- A session in which no cell has run. -/
structure State.Fresh (s : State) : Prop where
  ready : s.Ready
  exportsOf : s.exportsOf = {}
  declarations : s.declarations = ""

theorem open_apply {s : State} (none : s.world.loops = {}) :
    ∃ l, (open_ s).2 = { s with world := { s.world with loops := l, inLoop := true } } := by
  obtain ⟨_, _, _, _, _, _, _, _, _, _, _, w⟩ := s
  dsimp only at none
  unfold open_
  rw [bind_apply, get_apply]
  dsimp only
  rw [none]
  exact ⟨_, rfl⟩

theorem State.Fresh.opened {s : State} (fresh : s.Fresh) (none : s.world.loops = {}) : (open_ s).2.Fresh := by
  obtain ⟨⟨native, isNamespace, ⟨foreign, inside, apart, linked⟩⟩, unbound, undeclared⟩ := fresh
  obtain ⟨l, opened⟩ := open_apply none
  rw [opened]
  exact ⟨⟨native, show IsNamespace _ _ s.exportsOf from isNamespace.same rfl, ⟨foreign, inside, apart, linked⟩⟩,
    unbound, undeclared⟩

/-- The session after some cells. -/
def State.afterCells (main : FutureId) (s : State) (cells : List String) : State :=
  s.after main (cells.map .run)

theorem afterCells_cons (main : FutureId) (s : State) (src : String) (cells : List String) :
    s.afterCells main (src :: cells) = (run main src s).2.afterCells main cells := rfl

section

variable {main : FutureId}

theorem State.Runs.next {s s₁ s' : State} {src : String} {cl : Closing} {e : RunEnd}
    (runs : s.Runs main src cl s₁ e s') : (run main src s).2 = s' ∧ s'.Ready := by
  cases runs with
  | bodiless _ _ _ _ _ ran ready => exact ⟨by rw [ran], ready⟩
  | staged c ran => exact ⟨by rw [ran.ran], ran.ready⟩

theorem State.Runs.concluded {s s₁ s' : State} {src : String} {cl : Closing} {e : RunEnd}
    (runs : s.Runs main src cl s₁ e s') :
    closing main src s = (.ok cl, s₁) ∧ cl.conclude s₁ = (e, s') ∧ run main src s = (.ok e, s') := by
  cases runs with
  | bodiless _ closed _ _ concluded ran => exact ⟨closed, concluded, ran⟩
  | staged c ran => exact ⟨ran.closed, ran.concluded, ran.ran⟩

end

end Notebook.Session
