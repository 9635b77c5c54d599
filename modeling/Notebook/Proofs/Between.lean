import Notebook.Proofs.Containment
import Notebook.Proofs.Sequence

/-! Histories of cells of which none waits. Between the cells files change, interrupts are fired and names are
reset: that leaves the namespace and the declarations as they are, or forgets both. -/

set_option autoImplicit false

namespace Notebook.Session

open Notebook.Machine Notebook.Loop Notebook.Cell

/-- A session after something that is done between cells. -/
structure State.Beside (s s' : State) : Prop where
  ready : s'.Ready
  names : (s'.exportsOf = s.exportsOf ∧ s'.declarations = s.declarations) ∨
    (s'.exportsOf = {} ∧ s'.declarations = "")

theorem interrupt_beside {s : State} (ready : s.Ready) : s.Beside (interrupt s).2 := by
  obtain ⟨a, w, -, grows, made⟩ := interruption_apply s
  let o : Obj := { cls := nativeRef "Interrupted", payload := .exception { args := [a] } }
  have all : s.world.Grows (w.push o) := grows.trans (.push w rfl)
  have kept : IsNamespace (interrupt s).2.world s.exports s.exportsOf := by
    unfold interrupt
    rw [bind_apply, made]
    exact ready.isNamespace.same (all.objects _ ready.isNamespace.inside)
  obtain ⟨ready', same⟩ := ready.quiet (Quiet.interrupt s) kept
  refine ⟨ready', .inl ⟨same, ?_⟩⟩
  unfold interrupt
  rw [bind_apply, made]
  rfl

theorem reset_beside {s : State} (ready : s.Ready) : s.Beside (reset s).2 := by
  have all : reset s = setExports {} { s with declarations := "" } := rfl
  have quiet := Quiet.permits.setExports {} { s with declarations := "" }
  rw [all]
  rw [setExports_apply] at quiet ⊢
  obtain ⟨ready', none⟩ := (ready.declared "").quiet quiet (ready.isNamespace.setEntries ready.native {})
  exact ⟨ready', .inr ⟨none, rfl⟩⟩

/-- What is allowed in a history: cells that meet a requirement where they come to run, and what may be done
between them. -/
def Op.Meets (R : State → String → Prop) (s : State) : Op → Prop
  | .run src => R s src
  | .write .. | .delete .. | .interrupt | .reset => True
  | .runInterrupted .. | .settle _ | .close | .execute _ => False

def Along (R : State → String → Prop) (main : FutureId) : State → List Op → Prop
  | _, [] => True
  | s, op :: ops => op.Meets R s ∧ Along R main (op.perform main s) ops

section

variable {main : FutureId} {R : State → String → Prop} {s : State} {ops : List Op}

theorem Along.of_append {src : String} (along : Along R main s (ops ++ [.run src])) :
    Along R main s ops ∧ R (s.after main ops) src := by
  induction ops generalizing s with
  | nil => exact ⟨trivial, along.1⟩
  | cons op ops ih =>
    obtain ⟨here, later⟩ := along
    obtain ⟨before, last⟩ := ih later
    exact ⟨⟨here, before⟩, last⟩

/-- What is done with a session that can run cells runs a cell, which meets the requirement, or is done
between cells. -/
theorem Op.Meets.cases {op : Op} (meets : op.Meets R s) (runnable : ∀ s src, R s src → s.Runnable main src)
    (ready : s.Ready) :
    (∃ src cl s₁ e, R s src ∧ s.Runs main src cl s₁ e (op.perform main s)) ∨ s.Beside (op.perform main s) := by
  cases op with
  | run src =>
    obtain ⟨cl, s₁, e, s', runs⟩ := (runnable s src meets).runs ready
    obtain ⟨same, -⟩ := runs.next
    rw [← same] at runs
    exact .inl ⟨src, cl, s₁, e, meets, runs⟩
  | write path bytes => exact .inr ⟨⟨ready.1, ready.2, ready.3⟩, .inl ⟨rfl, rfl⟩⟩
  | delete path => exact .inr ⟨⟨ready.1, ready.2, ready.3⟩, .inl ⟨rfl, rfl⟩⟩
  | interrupt => exact .inr (interrupt_beside ready)
  | reset => exact .inr (reset_beside ready)
  | runInterrupted src turns => exact meets.elim
  | settle turns => exact meets.elim
  | close => exact meets.elim
  | execute x => exact meets.elim

end

end Notebook.Session
