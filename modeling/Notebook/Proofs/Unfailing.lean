import Notebook.Proofs.Constants

/-! Cells whose statements all go through. What their bodies do of their own accord goes through with them, but
for one thing: the publication of a name that a simple statement may bind and has not bound. -/

set_option autoImplicit false

namespace Notebook.Machine

theorem Complains.isKind {w : World} {r : Ref} {cls message : String} (h : Complains w r cls message)
    (native : w.Native) (known : nativeRef cls < natives.length) (kind : String) :
    w.isKind (.ref r) kind = (firstHeap.getD (nativeRef cls) default).order.contains (nativeRef kind) := by
  unfold World.isKind World.classOf
  dsimp only
  rw [h.cls]
  have payload := (native _ known).payload
  unfold Obj.order
  rw [payload]

end Notebook.Machine

namespace Notebook.Cell

open Notebook.Realm Notebook.Tree

end Notebook.Cell

namespace Notebook.Session

open Notebook.Machine Notebook.Loop Notebook.Cell Notebook.Realm Notebook.Tree

namespace Staged

variable {s : State} {src : String} (c : Staged s src)

/-- Every statement of the cell goes through when the body comes to it; the last one, if it is a name, stands
for something. -/
structure Completes : Prop where
  statements : ∀ f w, c.Enters f w → ∃ cost, Realm.Completes c.function s.exports s.exportsOf f w cost
  last : ∀ {k f w e st p q n ctx}, c.Comes k f w e → c.function.stmts[k]? = some st →
    partOf st = .insert (.deed (.publish lastName n)) → c.tree.getLast? = some (.expr p (.name q n ctx)) →
    ∃ v, f.known? c.function.scope w n = some v

end Staged

theorem showing_cases (o : Option Value) :
    showing o = success ∨ ∃ v, showing o = .writing .result v (.outcome .success .none) := by
  cases o with
  | none => exact .inl rfl
  | some v =>
    unfold showing
    dsimp only
    split
    · exact .inl rfl
    · exact .inr ⟨v, rfl⟩

theorem showing_recorded {s : State} (o : Option Value) (recorded : s.sink.isConsole = false) :
    ((showing o).conclude s).1 = .outcome .success .none := by
  cases sink : s.sink with
  | console =>
    rw [sink] at recorded
    cases recorded
  | record r =>
    rcases showing_cases o with same | ⟨v, same⟩
    · rw [same]
      rfl
    · rw [same, conclude_recorded sink]

end Notebook.Session
