import Notebook.Proofs.Body
import Notebook.Proofs.Incremental

/-! Cells of plain assignments, deletions and expressions, one after another, against one dictionary in
which all their statements are carried out.

The names that they declare are the keys of the dictionary, in its order, and what is done to the
namespace after each statement is what the statement does to the dictionary. -/

set_option autoImplicit false

namespace Notebook.Cell

open Notebook.Tree Notebook.Machine
open Notebook.Code (of_toOption_any)

def bindsNothing (e : Expr) : Bool := (bindingOccurrences e.outline).isEmpty

def isDeleted : Expr → Bool
  | .name _ _ .del => true
  | _ => false

/-- A statement that assigns one name, deletes names or is an expression, and binds nothing else. -/
def isStraight : Stmt → Bool
  | .assign _ [.name _ id .store] v => id != reservedMarker && bindsNothing v
  | .annAssign _ (.name _ id .store) a (some v) _ =>
    id != reservedMarker && bindsNothing a && bindsNothing v
  | .augAssign _ (.name _ id .store) _ v => id != reservedMarker && bindsNothing v
  | .delete _ ts => ts.all isDeleted
  | .expr _ e => bindsNothing e
  | _ => false

/-- What such a statement does to a dictionary, with the value that it computes. -/
def refer {α : Type} (d : Exports α) (s : Stmt) (value : α) : Exports α :=
  match s with
  | .assign _ [.name _ id _] _ => d.assign id value
  | .annAssign _ (.name _ id _) _ _ _ => d.assign id value
  | .augAssign _ (.name _ id _) _ _ => d.assign id value
  | .delete p ts => (deletedNames (.delete p ts)).foldl Exports.remove d
  | _ => d

theorem deleted_bind_nothing {ts : List Expr} (h : ts.all isDeleted = true) :
    bindingOccurrencesAll (outlines ts) = [] := by
  induction ts with
  | nil => rfl
  | cons t ts ih =>
    obtain ⟨here, later⟩ := Bool.and_eq_true_iff.mp h
    unfold isDeleted at here
    split at here
    next p n =>
      rw [outlines, bindingOccurrencesAll, ih later]
      rfl
    next => cases here

theorem bindings_leaf {s : Stmt} {n : String} (h : bindingOccurrences s.outline = [n]) : bindings s = [n] := by
  rw [bindings, h, List.eraseDups_cons]
  rfl

theorem bindings_expr {p : Source.Pos} {e : Expr} (h : bindsNothing e = true) : bindings (.expr p e) = [] := by
  have silent : bindingOccurrences e.outline = [] := List.isEmpty_iff.mp h
  simp [bindings, Stmt.outline, bindingOccurrences, bindingOccurrencesAll, Mark.bound, Mark.opens, silent]

theorem straight_cases {s : Stmt} (h : isStraight s = true) :
    (∃ n, n ≠ reservedMarker ∧ bindings s = [n] ∧ deletedNames s = [] ∧
        (∀ es, entries s = .ok es → es.map (·.1) = [n]) ∧ (∀ m ∈ displayedTarget s, m = n) ∧ n ∈ mentioned [s] ∧
        ∀ {α : Type} (d : Exports α) (value : α), refer d s value = d.assign n value) ∨
      (bindings s = [] ∧ (∀ es, entries s = .ok es → es = []) ∧ displayedTarget s = none ∧
        ∀ {α : Type} (d : Exports α) (value : α),
          refer d s value = (deletedNames s).foldl Exports.remove d) := by
  unfold isStraight at h
  split at h
  next p q n v =>
    obtain ⟨free, plain⟩ := Bool.and_eq_true_iff.mp h
    have silent : bindingOccurrences v.outline = [] := List.isEmpty_iff.mp plain
    have bound : bindings (.assign p [.name q n .store] v) = [n] := bindings_leaf (by
      simp [Stmt.outline, outlines, Expr.outline, Outline.leaf, bindingOccurrences, bindingOccurrencesAll,
        Mark.bound, Mark.opens, silent])
    refine .inl ⟨n, by simpa using free, bound, rfl, fun es made => ?_, by simp [displayedTarget], ?_,
      fun d value => rfl⟩
    · cases made
      rw [bound]
      rfl
    · simp [mentioned, bodyMarks, stmtOutlines, marksAll, marks, Stmt.outline, outlines, Expr.outline, Outline.leaf,
        Mark.mentioned]
  next p q n a v simple =>
    obtain ⟨rest, plain⟩ := Bool.and_eq_true_iff.mp h
    obtain ⟨free, plainHint⟩ := Bool.and_eq_true_iff.mp rest
    have silent : bindingOccurrences v.outline = [] := List.isEmpty_iff.mp plain
    have silentHint : bindingOccurrences a.outline = [] := List.isEmpty_iff.mp plainHint
    have bound : bindings (.annAssign p (.name q n .store) a (some v) simple) = [n] := bindings_leaf (by
      simp [Stmt.outline, optionOutline, Expr.outline, Outline.leaf, bindingOccurrences,
        bindingOccurrencesAll, Mark.bound, Mark.opens, silent, silentHint])
    refine .inl ⟨n, by simpa using free, bound, rfl, fun es made => ?_, by simp [displayedTarget], ?_,
      fun d value => rfl⟩
    · obtain ⟨line, -, made⟩ := Code.of_bind_ok made
      cases made
      rfl
    · simp [mentioned, bodyMarks, stmtOutlines, marksAll, marks, Stmt.outline, Expr.outline, Outline.leaf,
        Mark.mentioned]
  next p q n op v =>
    obtain ⟨free, plain⟩ := Bool.and_eq_true_iff.mp h
    have silent : bindingOccurrences v.outline = [] := List.isEmpty_iff.mp plain
    have bound : bindings (.augAssign p (.name q n .store) op v) = [n] := bindings_leaf (by
      simp [Stmt.outline, Outline.leaf, bindingOccurrences, bindingOccurrencesAll, Mark.bound, Mark.opens,
        silent])
    refine .inl ⟨n, by simpa using free, bound, rfl, fun es made => ?_, by simp [displayedTarget], ?_,
      fun d value => rfl⟩
    · cases made
      rw [bound]
      rfl
    · simp [mentioned, bodyMarks, stmtOutlines, marksAll, marks, Stmt.outline, Outline.leaf, Mark.mentioned]
  next p ts =>
    have silent := deleted_bind_nothing h
    have bound : bindings (.delete p ts) = [] := by
      simp [bindings, Stmt.outline, bindingOccurrences, Mark.bound, Mark.opens, silent]
    refine .inr ⟨bound, fun es made => ?_, rfl, fun d value => rfl⟩
    cases made
    rw [bound]
    rfl
  next p e =>
    have bound : bindings (.expr p e) = [] := bindings_expr h
    refine .inr ⟨bound, fun es made => ?_, rfl, fun d value => rfl⟩
    cases made
    rw [bound]
    rfl
  next => cases h

theorem names_removeAll {α : Type} {gone : List String} {ds : Declarations} {d : Exports α}
    (same : ds.names = d.names) :
    (gone.foldl Declarations.remove ds).names = (gone.foldl Exports.remove d).names := by
  induction gone generalizing ds d with
  | nil => exact same
  | cons g gone ih => exact ih (by rw [Declarations.names_remove, Exports.names_remove, same])

/-- The keys of a dictionary after a statement are the names that are declared after it, in order. -/
theorem names_refer {s : Stmt} (h : isStraight s = true) {ds ds' : Declarations}
    (declared : declareStmt ds s = .ok ds') {α : Type} {d : Exports α} (same : ds.names = d.names) (value : α) :
    ds'.names = (refer d s value).names := by
  obtain ⟨es, made, rfl⟩ := declareStmt_ok declared
  rcases straight_cases h with ⟨n, free, -, none, one, -, -, sets⟩ | ⟨-, none, -, removes⟩
  · obtain ⟨e, rfl, rfl⟩ : ∃ e, es = [e] ∧ e.1 = n := by
      have single := one es made
      cases es with
      | nil => cases single
      | cons e es =>
        obtain ⟨first, rest⟩ := List.cons.inj single
        exact ⟨e, by rw [List.map_eq_nil_iff.mp rest], first⟩
    rw [none, sets]
    change (ds.declare e.1 e.2).names = _
    rw [Declarations.names_declare, Exports.names_assign free, same]
  · obtain rfl := none es made
    rw [removes]
    exact names_removeAll same

/-- Carries out statements, each with the value that it computes. -/
def referAll {α : Type} (d : Exports α) (steps : List (Stmt × α)) : Exports α :=
  steps.foldl (fun d step => refer d step.1 step.2) d

theorem names_referAll {α : Type} {steps : List (Stmt × α)} (h : ∀ step ∈ steps, isStraight step.1 = true)
    {ds ds' : Declarations} (declared : declareStmts ds (steps.map (·.1)) = .ok ds') {d : Exports α}
    (same : ds.names = d.names) : ds'.names = (referAll d steps).names := by
  induction steps generalizing ds d with
  | nil =>
    cases declared
    exact same
  | cons step steps ih =>
    obtain ⟨ds₁, first, rest⟩ := Code.of_bind_ok declared
    have here := names_refer (h step List.mem_cons_self) first same step.2
    exact ih (fun s member => h s (List.mem_cons_of_mem _ member)) rest here

/-- What is done to the namespace after a statement is what the statement does to the dictionary, if the
name that it assigns then has the value that it computes. -/
theorem afterAll_deeds {s : Stmt} (h : isStraight s = true) {values : String → Option Value} {value : Value}
    (computed : ∀ n ∈ bindings s, values n = some value) (e : Exports Value) :
    Deed.afterAll values e (deeds s) = some (refer e s value) := by
  rcases straight_cases h with ⟨n, -, bound, none, -, -, -, sets⟩ | ⟨bound, -, -, removes⟩
  · have known := computed n (bound ▸ List.mem_singleton_self n)
    rw [deeds, bound, none, sets]
    simp [Deed.afterAll, Deed.after, known]
  · rw [deeds, bound, removes]
    exact Deed.afterAll_remove values e _

namespace Compiler

end Compiler

end Notebook.Cell

namespace Notebook.Session

open Notebook.Machine Notebook.Loop Notebook.Cell

end Notebook.Session
