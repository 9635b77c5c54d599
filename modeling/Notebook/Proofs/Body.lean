import Notebook.Proofs.Declared
import Notebook.Proofs.Publication

/-! The code of bodies: where the statements that a body starts with and those between its own stand in
the function of the body, and what executing the latter comes to. -/

set_option autoImplicit false

namespace Notebook.Realm

open Notebook.Machine Notebook.Code Notebook.Scope Notebook.Source Notebook.Tree

/-! Instructions that lead nowhere else. -/

def hasTarget : Instr → Bool
  | .jump _ | .jumpIfFalse _ | .jumpIfTrue _ | .jumpIfFalseOrPop _ | .jumpIfTrueOrPop _ | .forIter _
  | .setup _ | .setupBelow _ => true
  | _ => false

theorem mapTarget_fixed {i : Instr} (h : hasTarget i = false) (g : Nat → Nat) : i.mapTarget g = i := by
  cases i <;> first | rfl | cases h

@[simp] theorem nameInstr_hasTarget (r : Resolved) (slots : Array String) (n : String) (c : Ctx) :
    hasTarget (nameInstr r slots n c) = false := by
  have cell (isClass : Bool) (i : Nat) : hasTarget (cellInstr isClass i n c) = false := by
    cases c <;> cases isClass <;> rfl
  have slot (i : Nat) : hasTarget (slotInstr i c) = false := by cases c <;> rfl
  have outside : hasTarget (globalInstr n c) = false := by cases c <;> rfl
  have named : hasTarget (namedInstr n c) = false := by cases c <;> rfl
  unfold nameInstr
  dsimp only
  cases r.binding n with
  | cell => exact cell _ _
  | free => exact cell _ _
  | globalDeclared => exact outside
  | «local» =>
    dsimp only
    split
    · exact slot _
    · exact named
  | global =>
    dsimp only
    split
    · exact outside
    · exact named

theorem fetching_fixed {r : Resolved} {slots : Array String} {ns : List String} {is : List Instr}
    (h : Fetching r slots ns is) : ∀ i ∈ is, hasTarget i = false := by
  induction h with
  | nil => simp
  | cons n kind rest ih =>
    simp only [List.forall_mem_cons, nameInstr_hasTarget, true_and]
    exact ⟨rfl, rfl, rfl, ih⟩

theorem doing_fixed {r : Resolved} {slots : Array String} {ds : List Deed} {is : List Instr}
    (h : Doing r slots ds is) : ∀ i ∈ is, hasTarget i = false := by
  induction h with
  | nil => simp
  | cons d kind rest ih =>
    cases d with
    | publish key n =>
      simp only [Deed.code, List.cons_append, List.nil_append, List.forall_mem_cons, nameInstr_hasTarget,
        true_and]
      exact ⟨rfl, rfl, rfl, rfl, ih⟩
    | remove n =>
      simp only [Deed.code, List.cons_append, List.nil_append, List.forall_mem_cons, nameInstr_hasTarget,
        true_and]
      exact ⟨rfl, rfl, rfl, rfl, ih⟩

def positionOf (d : Draft) (l : Nat) : Nat := (d.labels.getD l none).getD 0

/-- Instructions stand in a finished unit where they were written, with positions in place of labels. -/
theorem stands_placed {d d' : Draft} {is : List Instr}
    (written : d.instrs.toList ++ is <+: d'.instrs.toList) (h : Heading) (scope : Resolved)
    (name file : String) :
    Stands (d'.unit h scope name file) d.instrs.size (is.map (·.mapTarget (positionOf d'))) := by
  obtain ⟨rest, whole⟩ := written
  unfold Stands
  change _ <+: (d'.instrs.map (·.mapTarget (positionOf d'))).toList.drop d.instrs.size
  rw [Array.toList_map, ← whole, List.append_assoc, List.map_append, List.map_append,
    List.drop_left' (by simp)]
  exact List.prefix_append _ _

theorem stands_unit {d d' : Draft} {is : List Instr} (written : d.instrs.toList ++ is <+: d'.instrs.toList)
    (fixed : ∀ i ∈ is, hasTarget i = false) (h : Heading) (scope : Resolved) (name file : String) :
    Stands (d'.unit h scope name file) d.instrs.size is := by
  have same : is.map (·.mapTarget (positionOf d')) = is :=
    (List.map_congr_left fun i member => mapTarget_fixed (fixed i member) _).trans (List.map_id is)
  exact same ▸ stands_placed written h scope name file

/-! Deeds as statements. -/

def deedOf : Stmt → Option Deed
  | .expr _ (.call _ (.attribute _ (.name _ x .load) m _ .load) [.const _ (.str t _), .name _ n .load] []) =>
    if x = "__exports__" ∧ m = "assign" ∧ n ≠ "__debug__" then some (.publish t n) else none
  | .expr _ (.call _ (.attribute _ (.name _ x .load) m _ .load) [.const _ (.str n _)] []) =>
    if x = "__exports__" ∧ m = "remove" then some (.remove n) else none
  | _ => none

theorem deedOf_assign (key : String) {n : String} (plain : n ≠ "__debug__") :
    deedOf (Cell.assignStmt key (Cell.nameExpr n)) = some (.publish key n) :=
  if_pos ⟨rfl, rfl, plain⟩

theorem deed_adds {st : Stmt} {d : Deed} (h : deedOf st = some d) {s : Code.Setting} (owner : s.owner = none)
    (slots : Array String) (rs : List Region) :
    ∃ kind, Gen.Adds s slots (genStmt rs st) (d.code s.scope slots kind) := by
  have object (b : Pos) : Gen.Adds s slots (genFor .value (.name b "__exports__" .load))
      [nameInstr s.scope slots "__exports__" .load] := by
    have named : Gen.Adds s slots (genFor .value (.name b "__exports__" .load))
        [nameInstr s.scope slots (mangle s.owner "__exports__") .load] := .name b rfl
    rwa [owner] at named
  unfold deedOf at h
  split at h
  next p q a b x m c k t kind l n =>
    split at h
    next same =>
      obtain ⟨rfl, rfl, plain⟩ := same
      cases h
      have value : Gen.Adds s slots (genFor .value (.name l n .load)) [nameInstr s.scope slots n .load] := by
        have named : Gen.Adds s slots (genFor .value (.name l n .load))
            [nameInstr s.scope slots (mangle s.owner n) .load] := .name l (by simp [plain])
        rwa [owner] at named
      have args : Gen.Adds s slots (genExprs [.const k (.str t kind), .name l n .load])
          [.const (.str t kind), nameInstr s.scope slots n .load] :=
        (Gen.Adds.const k _).exprs_cons (value.exprs_cons .exprs_nil)
      refine ⟨kind, ?_⟩
      rw [genStmt]
      · refine (Gen.Adds.setPlace p).after fun _ => ?_
        exact (Gen.Adds.methodCall q a c "assign" owner rfl (object b) args).bind fun _ => .emit _
      · intro _ _ same
        cases same
    next => cases h
  next p q a b x m c k n kind =>
    split at h
    next same =>
      obtain ⟨rfl, rfl⟩ := same
      cases h
      have args : Gen.Adds s slots (genExprs [.const k (.str n kind)]) [.const (.str n kind)] :=
        (Gen.Adds.const k _).exprs_cons .exprs_nil
      refine ⟨kind, ?_⟩
      rw [genStmt]
      · refine (Gen.Adds.setPlace p).after fun _ => ?_
        exact (Gen.Adds.methodCall q a c "remove" owner rfl (object b) args).bind fun _ => .emit _
      · intro _ _ same
        cases same
    next => cases h
  next => cases h

/-! Parts of a body. -/

theorem genStmts_append {first rest : List Stmt} {s : Code.Setting} {d d' : Draft}
    (ran : (genStmts [] (first ++ rest)).run s d = .ok ((), d')) :
    ∃ d₁, (genStmts [] first).run s d = .ok ((), d₁) ∧ (genStmts [] rest).run s d₁ = .ok ((), d') := by
  induction first generalizing d with
  | nil =>
    rw [genStmts]
    exact ⟨d, rfl, ran⟩
  | cons st first ih =>
    rw [List.cons_append, genStmts] at ran
    obtain ⟨_, d₁, here, later⟩ := Gen.of_bind_ok ran
    obtain ⟨d₂, next, last⟩ := ih later
    rw [genStmts]
    exact ⟨d₂, (Gen.run_bind_ok here).trans next, last⟩

theorem writeInside_append {first rest : List Stmt} (some_ : rest ≠ []) (undocumented : docOf rest = none)
    {s : Code.Setting} {d d' : Draft} (ran : (writeInside (first ++ rest)).run s d = .ok ((), d')) :
    ∃ d₁ d₂, d.Leads d₁ ∧ (genStmts [] rest).run s d₁ = .ok ((), d₂) ∧ d₂.Leads d' := by
  unfold writeInside at ran
  obtain ⟨_, d₂, body, ending⟩ := Gen.of_bind_ok ran
  have last : d₂.Leads d' :=
    ((emit (.const .none) >>= fun _ => emit .return : Gen PUnit)).leads _ _ _ ending
  cases first with
  | nil =>
    cases rest with
    | nil => exact absurd rfl some_
    | cons st rest =>
      rw [List.nil_append, inside, List.isEmpty_cons, if_neg Bool.false_ne_true, undocumented] at body
      have whole : (genStmts [] (st :: rest)).run s d = .ok ((), d₂) := by
        rw [genStmts]
        exact body
      exact ⟨d, d₂, .refl d, whole, last⟩
  | cons st first =>
    rw [List.cons_append, inside, List.isEmpty_cons, if_neg Bool.false_ne_true, genBody] at body
    split at body
    next =>
      obtain ⟨_, d₁, here, later⟩ := Gen.of_bind_ok body
      obtain ⟨d₃, between, written⟩ := genStmts_append later
      exact ⟨d₃, d₂, ((genStmt [] st).leads _ _ _ here).trans ((genStmts [] first).leads _ _ _ between),
        written, last⟩
    next =>
      obtain ⟨d₃, between, written⟩ := genStmts_append body
      exact ⟨d₃, d₂, (genStmts [] first).leads _ _ _ between, written, last⟩

/-! The function of a body. -/

theorem firstOpen_ready (isAsync : Bool) : Ready (firstOpen isAsync) where
  opener := rfl
  inTarget := rfl
  undeclared n := by
    change Usage.isDeclared (Option.getD (List.lookup n [("__exports__", _), ("__require__", _)]) _) = false
    rw [List.lookup_cons, List.lookup_cons]
    split
    · rfl
    · split <;> rfl

namespace Wrapped

variable {file : String} {body : List Stmt} {isAsync : Bool} {program : Program}

def code (x : Wrapped file body isAsync program) : Code.Unit :=
  x.draft.unit (wrapHeading body isAsync) x.scope cellFunction file

def params : List String := ["__exports__", "__require__"]

theorem houses (x : Wrapped file body isAsync program) : Houses x.code x.scope params where
  top := x.top
  cells := rfl
  slots := ((writeInside body).leads _ _ _ x.written).slots

theorem exports_own (x : Wrapped file body isAsync program) :
    x.scope.binding "__exports__" = .local ∨ x.scope.binding "__exports__" = .cell := by
  obtain ⟨assigned, undeclared⟩ := (firstOpen_ready isAsync).kept x.collected
    (n := "__exports__") rfl
  exact x.top.assigned _ (x.info ▸ assigned) (x.info ▸ undeclared)

theorem fetched_own (x : Wrapped file body isAsync program) {n : String} (hn : n ∈ fetched body) :
    x.scope.binding n = .local ∨ x.scope.binding n = .cell := by
  have same : fetched (inside body) = fetched body := by
    cases body with
    | nil => cases hn
    | cons s body => rfl
  obtain ⟨assigned, undeclared⟩ := (firstOpen_ready isAsync).fetched x.collected (same ▸ hn)
  exact x.top.assigned _ (x.info ▸ assigned) (x.info ▸ undeclared)

end Wrapped

/-- A frame of the function of a body, which finds a namespace under the name of its parameter. -/
structure InBody {file : String} {body : List Stmt} {isAsync : Bool} {program : Program}
    (x : Wrapped file body isAsync program) (ns : Ref) (e : Exports Value) (f : Frame) (w : World) : Prop where
  code : f.code = x.code
  apart : f.Apart w ns
  native : w.Native
  isNamespace : IsNamespace w ns e
  here : f.local? w "__exports__" = some (.ref ns)

end Notebook.Realm

namespace Notebook.Cell

open Notebook.Machine Notebook.Tree

def deeds (s : Stmt) : List Deed :=
  (bindings s).map (fun n => .publish n n) ++ (deletedNames s).map .remove

end Notebook.Cell

namespace Notebook.Session

open Notebook.Machine Notebook.Loop Notebook.Cell

/-- How a run in the main task ended, if it ended by itself. -/
def statusOf : Back RunEnd → Option Status
  | .ok (.outcome s _) => some s
  | _ => none

end Notebook.Session
