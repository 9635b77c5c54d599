import Notebook.Proofs.History
import Notebook.Proofs.Rewriting
import Notebook.Proofs.Written

/-! Declarations beside publications: what a body of statements declares, for every name that its
statements may have published up to the point where it stops.

The two are folded over the same statements by different functions. They part in two places: a name
bound beside the target of an annotation is published and not declared, and a name that a statement
deletes is no longer declared even if the body stops before that statement. -/

set_option autoImplicit false

namespace Notebook.Exports

variable {α : Type}

theorem contains_iff {e : Exports α} {n : String} : e.contains n = true ↔ n ∈ e.names := by
  simp [contains, get?, names]

theorem names_assign {n : String} (free : n ≠ reservedMarker) (e : Exports α) (v : α) :
    (e.assign n v).names = if n ∈ e.names then e.names else e.names ++ [n] := by
  unfold assign
  rw [if_neg (by simpa using free)]
  by_cases there : n ∈ e.names
  · rw [if_pos (contains_iff.mpr there), if_pos there]
    unfold names
    rw [List.map_map]
    refine List.map_congr_left fun p _ => ?_
    by_cases same : p.1 = n <;> simp [same]
  · rw [if_neg (fun found => there (contains_iff.mp found)), if_neg there]
    simp [names]

theorem of_mem_names_assign {e : Exports α} {m n : String} {v : α} (h : m ∈ (e.assign n v).names) :
    m ∈ e.names ∨ m = n := by
  by_cases free : n = reservedMarker
  · rw [assign, if_pos (beq_iff_eq.mpr free)] at h
    exact .inl h
  · rw [names_assign free] at h
    split at h
    next => exact .inl h
    next => exact (List.mem_append.mp h).imp id List.mem_singleton.mp

theorem names_remove (e : Exports α) (n : String) : (e.remove n).names = e.names.filter (· != n) := by
  simp [remove, names, List.filter_map, Function.comp_def]

theorem mem_names_remove {e : Exports α} {m n : String} : n ∈ (e.remove m).names ↔ n ∈ e.names ∧ n ≠ m := by
  simp [names_remove]

theorem mem_names_removeAll {e : Exports α} {gone : List String} {n : String} :
    n ∈ (gone.foldl remove e).names ↔ n ∈ e.names ∧ n ∉ gone := by
  induction gone generalizing e with
  | nil => simp
  | cons g gone ih => rw [List.foldl_cons, ih, mem_names_remove, List.mem_cons, not_or, and_assoc]

end Notebook.Exports

namespace Notebook.Cell

open Notebook.Source Notebook.Tree Notebook.Text Declarations
open Notebook.Code (of_bind_ok)

namespace Declarations

theorem names_declare (ds : Declarations) (name line : String) :
    (ds.declare name line).names = if name ∈ ds.names then ds.names else ds.names ++ [name] := by
  have there : ds.any (·.1 == name) = true ↔ name ∈ ds.names := by simp [names]
  unfold declare
  by_cases h : name ∈ ds.names
  · rw [if_pos (there.mpr h), if_pos h]
    unfold names
    rw [List.map_map]
    refine List.map_congr_left fun e _ => ?_
    by_cases same : e.1 = name <;> simp [same]
  · rw [if_neg (fun found => h (there.mp found)), if_neg h]
    simp [names]

theorem names_remove (ds : Declarations) (name : String) :
    (ds.remove name).names = ds.names.filter (· != name) := by
  simp [remove, names, List.filter_map, Function.comp_def]

theorem mem_names_declare {ds : Declarations} {name line n : String} :
    n ∈ (ds.declare name line).names ↔ n ∈ ds.names ∨ n = name := by
  rw [names_declare]
  split
  next there => exact ⟨.inl, fun h => h.elim id fun same => same ▸ there⟩
  next => simp

theorem mem_names_remove {ds : Declarations} {name n : String} :
    n ∈ (ds.remove name).names ↔ n ∈ ds.names ∧ n ≠ name := by
  simp [names_remove]

theorem mem_names_removeAll {ds : Declarations} {gone : List String} {n : String} :
    n ∈ (gone.foldl remove ds).names ↔ n ∈ ds.names ∧ n ∉ gone := by
  induction gone generalizing ds with
  | nil => simp
  | cons g gone ih => rw [List.foldl_cons, ih, mem_names_remove, List.mem_cons, not_or, and_assoc]

def declareAll (ds : Declarations) (entries : List (String × String)) : Declarations :=
  entries.foldl (fun ds e => ds.declare e.1 e.2) ds

theorem declareAll_map {α : Type} (name line : α → String) (xs : List α) (ds : Declarations) :
    xs.foldl (fun ds x => ds.declare (name x) (line x)) ds
      = ds.declareAll (xs.map fun x => (name x, line x)) := by
  induction xs generalizing ds with
  | nil => rfl
  | cons x xs ih => exact ih _

theorem mem_names_declareAll {entries : List (String × String)} {ds : Declarations} {n : String} :
    n ∈ (ds.declareAll entries).names ↔ n ∈ ds.names ∨ n ∈ entries.map (·.1) := by
  induction entries generalizing ds with
  | nil => simp [declareAll]
  | cons e entries ih =>
    change n ∈ ((ds.declare e.1 e.2).declareAll entries).names ↔ _
    rw [ih, mem_names_declare, List.map_cons, List.mem_cons, or_assoc]

end Declarations

def functionLine (h : FunctionHead) : Except Trouble String := do
  let returns ← match h.returns with
    | some r => do pure (" -> " ++ (← printed r.print))
    | none => pure ""
  let params ← printed h.params.print
  let opener := if h.isAsync then "async def" else "def"
  return s!"{opener} {h.name}({params}){returns}: ..."

def classLine (h : ClassHead) : Except Trouble String := do
  let bases := joinWith ", " (← printAll h.bases)
  return if bases == "" then s!"class {h.name}: ..." else s!"class {h.name}({bases}): ..."

/-- What a statement declares, with the lines. -/
def entries : Stmt → Except Trouble (List (String × String))
  | .function _ h _ => do return [(h.name, ← functionLine h)]
  | .class _ h _ => do return [(h.name, ← classLine h)]
  | .import _ names => return names.map fun a => (a.binding false, a.binding false ++ ": module")
  | .annAssign _ (.name _ id _) a _ _ => do return [(id, id ++ ": " ++ (← printed a.print))]
  | s => return (bindings s).map fun n => (n, objectLine n)

theorem declareStmt_eq (ds : Declarations) (s : Stmt) :
    declareStmt ds s
      = (entries s).map (((deletedNames s).foldl Declarations.remove ds).declareAll ·) := by
  cases s with
  | function p h body =>
    obtain ⟨isAsync, name, params, decorators, returns⟩ := h
    unfold declareStmt entries functionLine
    cases returns with
    | none =>
      dsimp only
      cases printed params.print <;> rfl
    | some r =>
      dsimp only
      cases printed r.print with
      | error t => rfl
      | ok text => cases printed params.print <;> rfl
  | «class» p h body =>
    unfold declareStmt entries classLine
    dsimp only
    cases printAll h.bases <;> rfl
  | «import» p names =>
    exact congrArg Except.ok
      (declareAll_map (·.binding false) (fun a => a.binding false ++ ": module") names _)
  | annAssign p t a v simple =>
    cases t with
    | name q id c =>
      unfold declareStmt entries
      dsimp only
      cases printed a.print <;> rfl
    | _ => exact congrArg Except.ok (declareAll_map (·) objectLine _ _)
  | _ => exact congrArg Except.ok (declareAll_map (·) objectLine _ _)

/-- The statement that stands for another, whose imports are replaced in place, declares the same. -/
theorem declareStmt_requireInside {s : Stmt} (plain : ∀ i ∈ imports s, "*" ∉ boundNames i) (ds : Declarations) :
    declareStmt ds (requireInside s) = declareStmt ds s := by
  have same := bindings_requireInside plain
  have both : entries (requireInside s) = entries s ∧ deletedNames (requireInside s) = deletedNames s := by
    cases s with
    | «for» | «while» | «if» | «with» | «match» | «try» =>
      refine ⟨?_, rfl⟩
      change Except.ok ((bindings (requireInside _)).map fun n => (n, objectLine n)) = _
      rw [same]
      rfl
    | _ => exact ⟨rfl, rfl⟩
  rw [declareStmt_eq, declareStmt_eq, both.1, both.2]

theorem bindings_function (p : Pos) (h : FunctionHead) (body : List Stmt) :
    bindings (.function p h body) = [h.name] := by
  simp [bindings, Stmt.outline, bindingOccurrences, Mark.bound, Mark.opens, List.eraseDups_cons]

theorem bindings_class (p : Pos) (h : ClassHead) (body : List Stmt) :
    bindings (.class p h body) = [h.name] := by
  simp [bindings, Stmt.outline, bindingOccurrences, Mark.bound, Mark.opens, List.eraseDups_cons]

theorem mem_bindings_import {p : Pos} {names : List Alias} {n : String}
    (h : n ∈ bindings (.import p names)) : n ∈ names.map (·.binding false) := by
  rw [bindings, List.mem_eraseDups] at h
  simp only [Stmt.outline, Outline.leaf, bindingOccurrences, Mark.bound, Mark.opens,
    bindingOccurrencesAll, Bool.false_eq_true, if_false, List.append_nil, List.mem_filter] at h
  exact h.1

def asideNames : Stmt → List String
  | .annAssign p (.name q id c) a v simple =>
    (bindings (.annAssign p (.name q id c) a v simple)).filter (· != id)
  | _ => []

theorem mem_entries {s : Stmt} {es : List (String × String)} (h : entries s = .ok es) {n : String}
    (bound : n ∈ bindings s) : n ∈ es.map (·.1) ∨ n ∈ asideNames s := by
  unfold entries at h
  split at h
  next p f body =>
    obtain ⟨line, _, h⟩ := of_bind_ok h
    cases h
    rw [bindings_function] at bound
    exact .inl bound
  next p c body =>
    obtain ⟨line, _, h⟩ := of_bind_ok h
    cases h
    rw [bindings_class] at bound
    exact .inl bound
  next p names =>
    cases h
    rw [List.map_map]
    exact .inl (mem_bindings_import bound)
  next p q id c a v simple =>
    obtain ⟨line, _, h⟩ := of_bind_ok h
    cases h
    by_cases same : n = id
    · exact .inl (by simp [same])
    · exact .inr (List.mem_filter.mpr ⟨bound, by simpa using same⟩)
  next =>
    cases h
    exact .inl (by simpa using bound)

theorem declareStmt_ok {ds ds' : Declarations} {s : Stmt} (h : declareStmt ds s = .ok ds') :
    ∃ es, entries s = .ok es ∧ ds' = ((deletedNames s).foldl remove ds).declareAll es := by
  rw [declareStmt_eq] at h
  cases made : entries s with
  | error t =>
    rw [made] at h
    cases h
  | ok es =>
    rw [made] at h
    cases h
    exact ⟨es, rfl, rfl⟩

theorem kept_declareStmt {ds ds' : Declarations} {s : Stmt} (h : declareStmt ds s = .ok ds') {n : String}
    (there : n ∈ ds.names) (kept : n ∉ deletedNames s) : n ∈ ds'.names := by
  obtain ⟨es, -, rfl⟩ := declareStmt_ok h
  exact mem_names_declareAll.mpr (.inl (mem_names_removeAll.mpr ⟨there, kept⟩))

theorem kept_declareStmts {ds ds' : Declarations} {body : List Stmt} (h : declareStmts ds body = .ok ds')
    {n : String} (there : n ∈ ds.names) (kept : ∀ s ∈ body, n ∉ deletedNames s) : n ∈ ds'.names := by
  induction body generalizing ds with
  | nil =>
    cases h
    exact there
  | cons s body ih =>
    obtain ⟨ds₁, first, rest⟩ := of_bind_ok h
    refine ih rest (kept_declareStmt first there (kept s List.mem_cons_self)) fun s' member => ?_
    exact kept s' (List.mem_cons_of_mem _ member)

/-! Publications. -/

section

variable {α : Type}

/-- Some of the names are assigned, one after another, with whatever values. -/
inductive Publishes : List String → Exports α → Exports α → Prop where
  | nil (e : Exports α) : Publishes [] e e
  | assign {n : String} {ns : List String} {e e' : Exports α} (value : α)
    (rest : Publishes ns (e.assign n value) e') : Publishes (n :: ns) e e'
  | skip {n : String} {ns : List String} {e e' : Exports α} (rest : Publishes ns e e') :
    Publishes (n :: ns) e e'

/-- The names that are published after a statement, if they are bound. -/
def publishedNames (s : Stmt) : List String := if isBareAnnotation s then [] else bindings s

/-- A body of statements takes a namespace to another: each publishes names and then removes those that
it deletes. -/
inductive Leaves : List Stmt → Exports α → Exports α → Prop where
  | nil (e : Exports α) : Leaves [] e e
  | cons {s : Stmt} {ss : List Stmt} {e e₁ e' : Exports α} (published : Publishes (publishedNames s) e e₁)
    (rest : Leaves ss ((deletedNames s).foldl Exports.remove e₁) e') : Leaves (s :: ss) e e'

theorem Publishes.of_mem {ns : List String} {e e' : Exports α} (h : Publishes ns e e') {n : String}
    (there : n ∈ e'.names) : n ∈ e.names ∨ n ∈ ns := by
  induction h with
  | nil e => exact .inl there
  | assign value rest ih =>
    rcases ih there with new | later
    · exact (Exports.of_mem_names_assign new).imp id fun last => List.mem_cons.mpr (.inl last)
    · exact .inr (List.mem_cons_of_mem _ later)
  | skip rest ih => exact (ih there).imp id (List.mem_cons_of_mem _)

theorem mem_publishedNames {s : Stmt} {n : String} (h : n ∈ publishedNames s) : n ∈ bindings s := by
  unfold publishedNames at h
  split at h
  next => cases h
  next => exact h

/-- What a statement publishes is declared after it, unless it binds the name beside an annotated one. -/
theorem declared_of_published {ds ds' : Declarations} {s : Stmt} (h : declareStmt ds s = .ok ds') {n : String}
    (published : n ∈ publishedNames s) (beside : n ∉ asideNames s) : n ∈ ds'.names := by
  obtain ⟨es, made, rfl⟩ := declareStmt_ok h
  rcases mem_entries made (mem_publishedNames published) with known | aside
  · exact mem_names_declareAll.mpr (.inr known)
  · exact absurd aside beside

/-- A name that is in the namespace when a body of statements stops, before a statement or in the midst of its
publications, is declared by the whole body, if it is bound nowhere beside an annotated name and no statement
that the body does not get through deletes it. -/
theorem published_declared {ds ds' : Declarations} {done rest : List Stmt}
    (h : declareStmts ds (done ++ rest) = .ok ds') {e e₁ : Exports α} {n : String}
    (before : n ∈ e.names → n ∈ ds.names) (through : Leaves done e e₁)
    (there : n ∈ e₁.names ∨ n ∈ rest.head?.elim [] publishedNames)
    (beside : ∀ s ∈ done ++ rest, n ∉ asideNames s) (kept : ∀ s ∈ rest, n ∉ deletedNames s) : n ∈ ds'.names := by
  induction through generalizing ds with
  | nil e =>
    rcases there with old | midst
    · exact kept_declareStmts h (before old) kept
    · cases rest with
      | nil => cases midst
      | cons s rest =>
        obtain ⟨ds₁, first, later⟩ := of_bind_ok h
        have known := declared_of_published first midst (beside s List.mem_cons_self)
        exact kept_declareStmts later known fun t member => kept t (List.mem_cons_of_mem _ member)
  | @cons s done e e₁ _ published through ih =>
    obtain ⟨ds₁, first, later⟩ := of_bind_ok h
    refine ih later (fun left => ?_) there fun t member => beside t (List.mem_cons_of_mem _ member)
    obtain ⟨still, undeleted⟩ := Exports.mem_names_removeAll.mp left
    rcases published.of_mem still with old | new
    · exact kept_declareStmt first (before old) undeleted
    · exact declared_of_published first new (beside s List.mem_cons_self)

end

end Notebook.Cell

namespace Notebook.Session

open Notebook.Machine Notebook.Loop Notebook.Cell

/-- The names that cells have published. -/
def State.published (s : State) : List String := (names s).1.map (·.1)

/-- The names that the declarations of a session declare. -/
def State.declared (s : State) : List String :=
  match parseDeclarations s.declarations with
  | .ok ds => ds.names
  | .error _ => []

end Notebook.Session
