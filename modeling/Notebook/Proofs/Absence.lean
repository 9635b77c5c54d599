import Notebook.Proofs.Between
import Notebook.Proofs.Unfailing

/-! Names that are not in the namespace: a name that a cell deletes, or that is missing when a cell starts, is
missing after the cell unless it stands for something where the body would publish it. -/

set_option autoImplicit false

namespace Notebook.Cell

open Notebook.Realm Notebook.Tree

end Notebook.Cell

namespace Notebook.Session

open Notebook.Machine Notebook.Loop Notebook.Cell Notebook.Realm Notebook.Tree

namespace Staged

variable {s : State} {src : String} (c : Staged s src)

/-- From some statement of the body on, a name stands for nothing wherever the body would publish it. -/
def Unpublished (j : Nat) (n : String) : Prop :=
  ∀ {k : Nat} {f : Frame} {w : World} {e : Exports Value} {st : Stmt}, j ≤ k → c.Comes k f w e →
    c.function.stmts[k]? = some st → n ∈ (partOf st).keys → f.known? c.function.scope w n = none

/-- The statement of the body with which the parts of the last statements of the cell begin. -/
def turn (rest : List Stmt) : Nat := c.function.stmts.length - (bodyParts rest).length

variable {c}

theorem Unpublished.step {n : String} {j k : Nat} {f : Frame} {w : World} {e e' : Exports Value}
    (h : c.Unpublished j n) (own : n ≠ lastName ∨ c.cell.lastBinding = none) (le : j ≤ k) {st : Stmt} {i : Realm.Insert}
    (comes : c.Comes k f w e) (at_ : c.function.stmts[k]? = some st) (part : partOf st = .insert i)
    (after : i.after (f.known? c.function.scope w) e = some e') (absent : n ∉ e.names) : n ∉ e'.names := by
  have stands := fun key => h le comes at_ (part ▸ key)
  have member : .insert i ∈ bodyParts c.tree := part ▸ part_mem comes.preloaded_le at_
  cases i with
  | deed d =>
    cases d with
    | publish key m =>
      obtain ⟨v, known, rfl⟩ := Option.map_eq_some_iff.mp after
      intro there
      rcases Exports.of_mem_names_assign there with old | rfl
      · exact absent old
      · have same := publishes_own own member
        rw [← same, stands List.mem_cons_self] at known
        cases known
    | remove key =>
      cases after
      exact fun there => absent (Exports.mem_names_remove.mp there).1
  | guarded m =>
    cases after
    cases known : f.known? c.function.scope w m with
    | none => exact absent
    | some v =>
      intro there
      rcases Exports.of_mem_names_assign there with old | rfl
      · exact absent old
      · rw [stands List.mem_cons_self] at known
        cases known

theorem Unpublished.absent {n : String} {j : Nat} (h : c.Unpublished j n)
    (own : n ≠ lastName ∨ c.cell.lastBinding = none)
    (from_ : c.preloaded ≤ j) (first : ∀ {f w e}, c.Comes j f w e → n ∉ e.names) {k : Nat} {f : Frame} {w : World}
    {e : Exports Value} (comes : c.Comes k f w e) (le : j ≤ k) : n ∉ e.names := by
  obtain ⟨f₀, w₀, cost, entering, comes⟩ := comes
  -- By the way in which the body came there.
  induction comes with
  | start goes has =>
    have here : j = (fetched c.body).length := Nat.le_antisymm le (by rw [fetched_body]; exact from_)
    subst here
    exact first ⟨f₀, w₀, cost, entering, .start goes has⟩
  | @cell k n' st f g w w' e before at_ part few through ih =>
    rcases Nat.lt_or_eq_of_le le with earlier | rfl
    · exact ih (Nat.le_of_lt_succ earlier)
    · exact first ⟨f₀, w₀, _, entering, .cell before at_ part few through⟩
  | @insert k n' st i f w w' e e' before at_ part after few goes inBody same ih =>
    rcases Nat.lt_or_eq_of_le le with earlier | rfl
    · have le' := Nat.le_of_lt_succ earlier
      exact h.step own le' ⟨f₀, w₀, cost, entering, before⟩ at_ part after (ih le')
    · exact first ⟨f₀, w₀, _, entering, .insert before at_ part after few goes inBody same⟩
  | @capture k n' st v f g w w' e before at_ part few through ih =>
    rcases Nat.lt_or_eq_of_le le with earlier | rfl
    · have member := part_mem (c := c) (Comes.preloaded_le ⟨f₀, w₀, cost, entering, before⟩) at_
      rw [part] at member
      intro there
      rcases Exports.of_mem_names_assign there with old | last
      · exact ih (Nat.le_of_lt_succ earlier) old
      · exact captures_nothing own last member
    · exact first ⟨f₀, w₀, _, entering, .capture before at_ part few through⟩

theorem not_before_start {cost : Nat → Nat} {k : Nat} {f₀ f : Frame} {w₀ w : World} {e : Exports Value}
    (comes : Realm.Comes c.function s.exports s.exportsOf f₀ w₀ cost k f w e) : k + 1 ≠ c.preloaded := by
  have past := comes.follows.1
  rw [fetched_body] at past
  exact fun same => absurd past (Nat.not_le.mpr (Nat.lt_of_succ_le (Nat.le_of_eq same)))

theorem Comes.at_start {f : Frame} {w : World} {e : Exports Value} (comes : c.Comes c.preloaded f w e) :
    ∃ f₀ w₀, c.Enters f₀ w₀ ∧ e = s.exportsOf ∧
      HasFetched (preloadNames c.prior c.tree) s.exports s.exportsOf f₀ w₀ f w := by
  obtain ⟨f₀, w₀, cost, entering, comes⟩ := comes
  generalize same : c.preloaded = k at comes
  cases comes with
  | start goes has => exact ⟨f₀, w₀, entering, rfl, fetched_body (c := c) ▸ has⟩
  | cell before => exact absurd same.symm (not_before_start before)
  | insert before => exact absurd same.symm (not_before_start before)
  | capture before => exact absurd same.symm (not_before_start before)

end Staged

theorem conclude_cases (channel : Channel) (v : Value) (e : RunEnd) (s : State) :
    ((Closing.writing channel v e).conclude s).1 = e ∨
      ∃ exc, ((Closing.writing channel v e).conclude s).1 = .escaped exc := by
  unfold Closing.conclude
  dsimp only
  rw [bind_apply]
  generalize write channel v s = out
  obtain ⟨r, s₁⟩ := out
  cases r with
  | ok _ => exact .inl rfl
  | error exc => exact .inr ⟨exc, rfl⟩

theorem mem_taken {last : Option String} {e : Exports Value} {n : String}
    (there : n ∈ (last.elim e e.remove).names) : n ∈ e.names ∧ last ≠ some n := by
  cases last with
  | none => exact ⟨there, by simp⟩
  | some m =>
    obtain ⟨old, other⟩ := Exports.mem_names_remove.mp there
    exact ⟨old, fun same => other (Option.some.inj same).symm⟩

theorem Staged.Ran.through {s : State} {src : String} {c : Staged s src} {main : FutureId} {cl : Closing}
    {e : Exports Value} {s₁ s' : State} {end_ : RunEnd} (h : c.Ran main cl e s₁ end_ s')
    (success : statusOf (run main src s).1 = some .success) :
    ∃ f w e₁, c.Comes c.function.stmts.length f w e₁ ∧ e = c.cell.lastBinding.elim e₁ e₁.remove := by
  rw [h.ran] at success
  have concluded := congrArg Prod.fst h.concluded
  cases h.ends with
  | through comes => exact ⟨_, _, _, comes, rfl⟩
  | @broken _ _ _ _ _ v _ comes at_ insert failed =>
    rcases failed with rfl | rfl
    · rcases conclude_cases .error v (.outcome .fault (.error v)) s₁ with same | ⟨exc, same⟩
      · cases concluded.symm.trans same
        cases success
      · cases concluded.symm.trans same
        cases success
    · cases concluded
      cases success

namespace Staged

variable {s : State} {src : String} {c : Staged s src} {n : String}

end Staged

namespace Staged

variable {s : State} {src : String} (c : Staged s src)

variable {c}

theorem unbound_at_start {n : String} (ready : s.Ready) (other : n ∉ preloadNames c.prior c.tree)
    (own : n ≠ "__exports__" ∧ n ≠ "__require__") {f : Frame} {w : World} {e : Exports Value}
    (comes : c.Comes c.preloaded f w e) : f.local? w n = none := by
  obtain ⟨f₀, w₀, entering, -, has⟩ := comes.at_start
  obtain ⟨f', w', entering', entered, -⟩ := enters (c := c) ready
  cases entering.symm.trans entering'
  rw [has.values, if_neg other, entered.values, Wrapped.firstValues, if_neg own.1, if_neg own.2]

theorem Comes.stage (ready : s.Ready) {k : Nat} {f : Frame} {w : World} {e : Exports Value} (h : c.Comes k f w e) :
    Stage c.function.scope Wrapped.params (c.function.draftAt k).slots s.exports f w e := by
  obtain ⟨f₀, w₀, cost, entering, comes⟩ := h
  obtain ⟨f', w', entering', entered, -⟩ := enters (c := c) ready
  cases entering.symm.trans entering'
  exact c.function.stage_at k (comes.standing entered).inBody

/-- What reading a name comes to where the body has come to: the value of a variable or of a global or built-in
name, or an error of the kind for names that are not defined. -/
def Reads (c : Staged s src) (k : Nat) (f : Frame) (w : World) (n : String) : Prop :=
  let reading := (step (hostAt 1958) f (Code.nameInstr c.function.scope (c.function.draftAt k).slots n .load)).run w
  match f.known? c.function.scope w n with
  | some v => reading = .ok (.go (f.push v)) w
  | none => ∃ r w' cls message, reading = .error (.raised (.ref r)) w' ∧ Complains w' r cls message ∧
      cls ∈ ["NameError", "UnboundLocalError"]

theorem Comes.reads (ready : s.Ready) {k : Nat} {f : Frame} {w : World} {e : Exports Value} (h : c.Comes k f w e)
    (n : String) : c.Reads k f w n := by
  have stage := h.stage ready
  unfold Reads
  dsimp only
  split
  next v known => exact stage.load_known _ (c.unfree n) known
  next unknown =>
    obtain ⟨r, w', cls, message, failed, kind, complains, -⟩ := stage.load_unknown (hostAt 1958) (c.unfree n) unknown
    exact ⟨r, w', cls, message, failed, complains, kind⟩

end Staged

end Notebook.Session
