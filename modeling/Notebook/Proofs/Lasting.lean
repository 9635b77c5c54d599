import Notebook.Proofs.Absence
import Notebook.Proofs.Announced
import Notebook.Proofs.Constants
import Notebook.Proofs.NameCheck

/-! What is left of cells when their runs are over: the last value of a cell is shown as its own and kept
nowhere, and what the namespace holds is declared to the cells that follow. -/

set_option autoImplicit false

namespace Notebook.Cell

open Notebook.Tree

theorem removes_deleted {tree : List Stmt} {t : Stmt} (member : t ∈ tree) {n : String} (gone : n ∈ deletedNames t) :
    removeStmt n ∈ (bodyStmts tree).1 := by
  have computes : isBareAnnotation t = false := by
    cases t <;> first | rfl | cases gone
  have here : removeStmt n ∈ withPublication t :=
    List.mem_append_right _ (List.mem_map_of_mem gone)
  induction tree with
  | nil => cases member
  | cons s tree ih =>
    cases tree with
    | nil =>
      cases List.mem_singleton.mp member
      cases t with
      | delete p ts => exact here
      | _ => cases gone
    | cons u tree =>
      change removeStmt n ∈ innerStmts s ++ (bodyStmts (u :: tree)).1
      rcases List.mem_cons.mp member with rfl | later
      · unfold innerStmts
        rw [if_neg (by simp [computes])]
        exact List.mem_append_left _ here
      · exact List.mem_append_right _ (ih later)

theorem deletes_nothing {prior : Declarations} {tree : List Stmt} {last : Option String}
    (built : buildBody prior tree = .ok ("", last)) {t : Stmt} (member : t ∈ tree) (n : String) :
    n ∉ deletedNames t := by
  intro gone
  have removed := removes_deleted member gone
  unfold buildBody at built
  obtain ⟨_, -, built⟩ := Code.of_bind_ok built
  generalize bodyStmts tree = out at built removed
  obtain ⟨stmts, shown⟩ := out
  dsimp only at built removed
  split at built
  next empty =>
    rw [List.isEmpty_iff.mp empty] at removed
    cases removed
  next =>
    obtain ⟨_, -, built⟩ := Code.of_bind_ok built
    obtain ⟨_, -, built⟩ := Code.of_bind_ok built
    obtain ⟨text, -, built⟩ := Code.of_bind_ok built
    have ends := congrArg (·.1.length) (Except.ok.inj built)
    simp at ends

end Notebook.Cell

namespace Notebook.Session

open Notebook.Machine Notebook.Loop Notebook.Cell Notebook.Realm Notebook.Tree

/-! Last values. -/

namespace Staged

variable {s : State} {src : String} (c : Staged s src)

/-- A value that a cell has to show: that of its last expression, or what the name stands for that its last
statement reads or assigns, when the body comes to the end. -/
inductive Produces : Value → Prop
  | expression {k n : Nat} {f g : Frame} {w w' : World} {e : Exports Value} {v : Value}
      (comes : c.Comes k f w e) (last : k + 1 = c.function.stmts.length)
      (shown : c.tree.getLast?.bind shownPart = some .capture)
      (through : Evaluates c.function s.exports e k n v f w g w') : Produces v
  | name {k : Nat} {f : Frame} {w : World} {e : Exports Value} {m : String} {v : Value}
      (comes : c.Comes k f w e) (last : k + 1 = c.function.stmts.length)
      (shown : c.tree.getLast?.bind shownPart = some (.insert (.deed (.publish lastName m))))
      (known : f.known? c.function.scope w m = some v) : Produces v

variable {c}

theorem shown_last {p : Part} (shown : c.tree.getLast?.bind shownPart = some p) :
    ∃ k st, c.preloaded ≤ k ∧ k + 1 = c.function.stmts.length ∧ c.function.stmts[k]? = some st ∧
      partOf st = p := by
  obtain ⟨t, -, shows⟩ := Option.bind_eq_some_iff.mp shown
  obtain ⟨ps, split, -⟩ := bodyParts_shown c.tree
  rw [shown, Option.toList_some] at split
  have at_ : (bodyParts c.tree)[ps.length]? = some p := by
    rw [split, List.getElem?_append_right (Nat.le_refl _), Nat.sub_self]
    rfl
  have other : p ≠ .cell := by
    rintro rfl
    rcases shownPart_shows shows with same | ⟨m, same⟩ <;> cases same
  obtain ⟨k, st, past, there, part, counted⟩ := part_from at_ other
  refine ⟨k, st, past, ?_, there, part⟩
  rw [split, List.length_append, List.length_singleton] at counted
  omega

theorem Comes.produces {p : Part} (shown : c.tree.getLast?.bind shownPart = some p) {f : Frame} {w : World}
    {e : Exports Value} (comes : c.Comes c.function.stmts.length f w e) :
    ∃ v, e.get? lastName = some v ∧ c.Produces v := by
  obtain ⟨t, -, shows⟩ := Option.bind_eq_some_iff.mp shown
  obtain ⟨k, st, past, last, at_, part⟩ := shown_last shown
  have named := shownPart_shows shows
  have held (e : Exports Value) (v : Value) : (e.assign lastName v).get? lastName = some v := by
    rw [Exports.get?_assign, if_pos ⟨rfl, by decide⟩]
  obtain ⟨f₀, w₀, cost, entering, comes⟩ := comes
  rw [← last] at comes
  generalize next : k + 1 = k' at comes
  cases comes with
  | start goes has =>
    rw [fetched_body] at next
    exact absurd past (Nat.not_le.mpr (Nat.lt_of_succ_le (Nat.le_of_eq next)))
  | cell before at_' part' few through =>
    cases next
    cases at_.symm.trans at_'
    rcases named with rfl | ⟨m', rfl⟩ <;> cases part.symm.trans part'
  | insert before at_' part' after =>
    cases next
    cases at_.symm.trans at_'
    rcases named with rfl | ⟨m', rfl⟩
    · cases part.symm.trans part'
    · cases part.symm.trans part'
      obtain ⟨v, known, rfl⟩ := Option.map_eq_some_iff.mp after
      exact ⟨v, held _ _, .name ⟨f₀, w₀, _, entering, before⟩ last shown known⟩
  | capture before at_' part' few through =>
    cases next
    cases at_.symm.trans at_'
    rcases named with rfl | ⟨m', rfl⟩
    · exact ⟨_, held _ _, .expression ⟨f₀, w₀, _, entering, before⟩ last shown through⟩
    · cases part.symm.trans part'

/-- Until a body comes to its end it keeps nothing under the name for the last value, and at its end only if
there is a value to show. -/
theorem Comes.last_absent {k : Nat} {f : Frame} {w : World} {e : Exports Value} (comes : c.Comes k f w e)
    (unnamed : ∀ t ∈ c.tree, lastName ∉ publishedNames t) (absent : lastName ∉ s.exportsOf.names)
    (before : k < c.function.stmts.length ∨ c.cell.lastBinding = none) : lastName ∉ e.names := by
  intro there
  obtain ⟨f₀, w₀, cost, entering, comes⟩ := comes
  obtain ⟨-, follows⟩ := comes.follows
  rcases follows.of_mem there with old | ⟨p, member, key⟩
  · exact absent old
  obtain ⟨j, at_⟩ := List.mem_iff_getElem?.mp member
  rw [List.getElem?_map, List.getElem?_drop, fetched_body] at at_
  obtain ⟨st, taken, rfl⟩ := Option.map_eq_some_iff.mp at_
  have within : c.preloaded + j < k := by
    have short := (List.getElem?_eq_some_iff.mp taken).1
    rw [List.length_take] at short
    exact (Nat.lt_min.mp short).1
  rw [List.getElem?_take_of_lt within] at taken
  obtain ⟨i, part, counted⟩ := part_at (c := c) (Nat.le_add_right _ _) taken
  obtain ⟨ps, split, own, shown⟩ := bodyParts_shown c.tree
  rw [split] at part counted
  have inner : i < ps.length := by
    rw [List.length_append] at counted
    cases last : c.tree.getLast?.bind shownPart with
    | none =>
      rw [last] at part
      simpa using (List.getElem?_eq_some_iff.mp part).1
    | some p =>
      rw [last] at counted
      rw [lastBinding_eq, shown, last] at before
      have early : k < c.function.stmts.length := before.resolve_right (by simp)
      rw [Option.toList_some, List.length_singleton] at counted
      omega
  rw [List.getElem?_append_left inner] at part
  obtain ⟨t, member, published⟩ := (own _ (List.mem_of_getElem? part)).2 _ key
  exact unnamed t member published

theorem Ends.last_absent {cl : Closing} {e : Exports Value} (ends : c.Ends cl e)
    (unnamed : ∀ t ∈ c.tree, lastName ∉ publishedNames t) (absent : lastName ∉ s.exportsOf.names) :
    lastName ∉ e.names := by
  cases ends with
  | through comes =>
    cases bound : c.cell.lastBinding with
    | none => exact comes.last_absent unnamed absent (.inr bound)
    | some n =>
      rw [lastBinding_eq] at bound
      split at bound
      next =>
        cases bound
        exact fun there => (mem_taken there).2 rfl
      next => cases bound
  | broken comes at_ insert failed =>
    exact comes.last_absent unnamed absent (.inl (List.getElem?_eq_some_iff.mp at_).1)

theorem Ends.result {cl : Closing} {e : Exports Value} (ends : c.Ends cl e) {v : Value} (shows : cl.result? = some v) :
    c.Produces v := by
  cases ends with
  | @through f w e comes =>
    cases shown : c.tree.getLast?.bind shownPart with
    | none =>
      obtain ⟨-, -, -, which⟩ := bodyParts_shown c.tree
      rw [lastBinding_eq, which, shown] at shows
      cases shows
    | some p =>
      obtain ⟨-, -, -, which⟩ := bodyParts_shown c.tree
      obtain ⟨v', held, produces⟩ := comes.produces shown
      rw [lastBinding_eq, which, shown, Option.isSome_some, if_pos rfl, Option.bind_some, held] at shows
      unfold showing at shows
      dsimp only at shows
      split at shows
      · cases shows
      · cases shows
        exact produces
  | broken comes at_ insert failed =>
    rcases failed with rfl | rfl <;> cases shows

end Staged

/-- A cell that binds no name under which bodies keep their last value. -/
def LeavesLast (src : String) : Prop :=
  ∀ tree, Compiler.checkCell src = .ok tree → ∀ t ∈ tree, lastName ∉ publishedNames t

section

variable {main : FutureId} {s s₁ s' : State} {src : String} {cl : Closing} {e : RunEnd}

theorem State.Runs.last_absent (runs : s.Runs main src cl s₁ e s') (leaves : LeavesLast src)
    (absent : lastName ∉ s.exportsOf.names) : lastName ∉ s'.exportsOf.names := by
  cases runs with
  | bodiless _ _ _ _ _ _ _ exportsOf => rwa [exportsOf]
  | staged c ran =>
    rw [ran.exportsOf]
    exact ran.ends.last_absent (leaves c.tree c.checked) absent

end

/-- A cell that binds a name nowhere beside an annotated one, and that runs to success if it deletes it. -/
def Announces (main : FutureId) (n : String) (s : State) (src : String) : Prop :=
  ∀ tree, Compiler.checkCell src = .ok tree → (∀ t ∈ tree, n ∉ asideNames t) ∧
    ((∃ t ∈ tree, n ∈ deletedNames t) → statusOf (run main src s).1 = some .success)

/-- The declarations of a session can be read back, and declare a name if it is in the namespace. -/
def State.Declares (s : State) (n : String) : Prop :=
  ∃ ds, parseDeclarations s.declarations = .ok ds ∧ ReadBack ds ∧ (n ∈ s.exportsOf.names → n ∈ ds.names)

theorem State.Declares.of_none {s : State} {n : String} (unbound : s.exportsOf = {}) (undeclared : s.declarations = "") :
    s.Declares n :=
  ⟨[], by rw [undeclared]; rfl, ⟨by simp [Declarations.names], by simp⟩, by simp [unbound, Exports.names]⟩

theorem State.Declares.beside {s s' : State} {n : String} (h : s.Declares n) (between : s.Beside s') :
    s'.Declares n := by
  rcases between.names with ⟨names, declarations⟩ | ⟨unbound, undeclared⟩
  · unfold State.Declares
    rw [names, declarations]
    exact h
  · exact .of_none unbound undeclared

namespace Staged

variable {s : State} {src : String} {c : Staged s src} {n : String}

/-- When the body comes to a statement it has gone through the first of its parts, and at its end through all. -/
theorem Comes.follows {k : Nat} {f : Frame} {w : World} {e : Exports Value} (comes : c.Comes k f w e) :
    ∃ ps, ps <+: bodyParts c.tree ∧ Realm.Follows ps s.exportsOf e ∧
      (k = c.function.stmts.length → ps = bodyParts c.tree) := by
  obtain ⟨-, front, parts, cells⟩ := c.function.parts c.shaped
  obtain ⟨f₀, w₀, m, -, comes⟩ := comes
  obtain ⟨-, follows⟩ := comes.follows
  rw [fetched_body] at follows
  have whole : Realm.Follows (front ++ ((c.function.stmts.take k).drop c.preloaded).map partOf) s.exportsOf e := by
    refine Realm.Follows.append ?_ follows
    rcases cells with rfl | ⟨rfl, -⟩
    · exact .nil _
    · exact .cell (.nil _)
  refine ⟨_, ?_, whole, fun last => ?_⟩
  · rw [← parts, List.prefix_append_right_inj, List.drop_take]
    exact (List.take_prefix _ _).map partOf
  · rw [last, List.take_length, parts]

theorem Ends.declared {cl : Closing} {e : Exports Value} (ends : c.Ends cl e) (other : n ≠ lastName)
    {ds : Declarations} (declared : declareStmts c.prior c.tree = .ok ds)
    (before : n ∈ s.exportsOf.names → n ∈ c.prior.names) (beside : ∀ t ∈ c.tree, n ∉ asideNames t)
    (kept : (∃ t ∈ c.tree, n ∈ deletedNames t) → ∃ f w e₁, c.Comes c.function.stmts.length f w e₁ ∧
      e = c.cell.lastBinding.elim e₁ e₁.remove) (there : n ∈ e.names) : n ∈ ds.names := by
  have ended {f : Frame} {w : World} {e₁ : Exports Value} (comes : c.Comes c.function.stmts.length f w e₁)
      (there : n ∈ e₁.names) : n ∈ ds.names := by
    obtain ⟨ps, -, follows, whole⟩ := comes.follows
    rw [whole rfl] at follows
    obtain ⟨e₂, leaves, shown⟩ := follows_leaves follows
    have left : n ∈ e₂.names := by
      rcases shown with rfl | ⟨v, rfl⟩
      · exact there
      · exact (Exports.of_mem_names_assign there).resolve_right other
    rw [← List.append_nil c.tree] at declared beside
    exact published_declared declared before leaves (.inl left) beside (by simp)
  by_cases gone : ∃ t ∈ c.tree, n ∈ deletedNames t
  · obtain ⟨f, w, e₁, comes, rfl⟩ := kept gone
    exact ended comes (mem_taken there).1
  · cases ends with
    | through comes => exact ended comes (mem_taken there).1
    | broken comes at_ insert failed =>
      obtain ⟨ps, within, follows, -⟩ := comes.follows
      obtain ⟨done, rest, e₁, split, leaves, names⟩ := follows_stopped within follows
      rw [split] at declared beside gone
      refine published_declared declared before leaves ?_ beside fun t member deleted => ?_
      · rcases names n there with old | midst | last
        · exact .inl old
        · exact .inr midst
        · exact absurd last other
      · exact gone ⟨t, List.mem_append_right _ member, deleted⟩

end Staged

theorem State.Runs.declares {main : FutureId} {s s₁ s' : State} {src : String} {cl : Closing} {e : RunEnd} {n : String}
    (runs : s.Runs main src cl s₁ e s') (leaves : LeavesLast src) (readable : CellReadable src)
    (announces : Announces main n s src) (absent : lastName ∉ s.exportsOf.names) (before : s.Declares n) :
    s'.Declares n := by
  obtain ⟨prior, known, back, declared⟩ := before
  cases runs with
  | bodiless none _ _ _ _ _ _ exportsOf declarations =>
    rw [State.Declares, exportsOf, declarations]
    cases accepted : s.accepted? src with
    | none => exact ⟨prior, known, back, declared⟩
    | some c =>
      obtain ⟨-, compiled, clean⟩ := accepted_iff.mp accepted
      have whole : s.inner.compile s.files s.declarations src = (.ok c, (s.compiled src).2) := Prod.ext compiled rfl
      obtain ⟨prior', tree, ds, known', checked, stmts, carried, built, -⟩ := Compiler.compile_declares whole clean
      cases known.symm.trans known'
      have back' := back.declareStmts (readable tree checked) stmts
      rw [none c accepted] at built
      refine ⟨ds, ?_, back', fun there => ?_⟩
      · rw [Option.map_some, Option.getD_some, carried]
        exact parseDeclarations_text back'.nodup back'.readable
      · exact kept_declareStmts stmts (declared there) fun t member => deletes_nothing built member n
  | staged c ran =>
    cases known.symm.trans c.known
    obtain ⟨ds, stmts, carried, -⟩ := c.declares
    have back' := back.declareStmts (readable c.tree c.checked) stmts
    obtain ⟨beside, kept⟩ := announces c.tree c.checked
    rw [State.Declares, ran.exportsOf, ran.declarations, carried]
    refine ⟨ds, parseDeclarations_text back'.nodup back'.readable, back', fun there => ?_⟩
    have other : n ≠ lastName := by
      rintro rfl
      exact ran.ends.last_absent (leaves c.tree c.checked) absent there
    exact ran.ends.declared other stmts declared beside (fun gone => ran.through (kept gone)) there

end Notebook.Session
