import Notebook.Proofs.Effects
import Notebook.Proofs.Sequence

/-! Cells of which everything that their runs rest on can be computed: the body that they are compiled to and
the function that this is made into. If they do no more than to assign integers, their statements go through
wherever the body comes to them. -/

set_option autoImplicit false

namespace Notebook.Realm

open Notebook.Machine Notebook.Code Notebook.Scope Notebook.Tree

def integer? : Stmt → Option (String × Int)
  | .assign _ [.name _ n .store] (.const _ (.int i)) => some (n, i)
  | _ => none

theorem integer_effect {st : Stmt} {n : String} {i : Int} (h : integer? st = some (n, i)) :
    effectOf st = some (.sets n) := by
  unfold integer? at h
  split at h
  next =>
    cases h
    rfl
  next => cases h

theorem integer_code {st : Stmt} {n : String} {i : Int} (h : integer? st = some (n, i)) {s : Code.Setting}
    (owner : s.owner = none) (slots : Array String) :
    Gen.Adds s slots (genStmt [] st) [.const (.int i), nameInstr s.scope slots n .store] := by
  unfold integer? at h
  split at h
  next p q m r k =>
    obtain ⟨rfl, rfl⟩ := Prod.mk.inj (Option.some.inj h)
    rw [genStmt]
    refine (Gen.Adds.setPlace p).after fun _ => (Gen.Adds.const r (.int k)).bind fun _ => ?_
    rw [genTargetsInTurn]
    have named : Gen.Adds s slots (genExpr (.name q m .store)) [nameInstr s.scope slots (mangle s.owner m) .store] :=
      .name q (by simp)
    rwa [owner] at named
  next => cases h

variable {file : String} {body : List Stmt} {isAsync : Bool} {program : Program}

def areOwn (body : List Stmt) (isAsync : Bool) (names : List String) : Bool :=
  match (collectStmts (inside body)).run {} [firstOpen isAsync, textOpen] with
  | .ok (_, o :: _) => names.all fun n => (o.info.usage n).isAssigned && !(o.info.usage n).isDeclared
  | _ => false

theorem Wrapped.own_of_check (x : Wrapped file body isAsync program) {names : List String}
    (check : areOwn body isAsync names = true) {n : String} (member : n ∈ names) :
    x.scope.binding n = .local ∨ x.scope.binding n = .cell := by
  unfold areOwn at check
  rw [x.collected] at check
  obtain ⟨assigned, undeclared⟩ := Bool.and_eq_true_iff.mp (List.all_eq_true.mp check n member)
  exact x.top.assigned n (x.info ▸ assigned) (x.info ▸ by simpa using undeclared)

section

variable {x : Wrapped file body false program} {ns : Ref} {e : Exports Value} {f : Frame} {w : World} {k : Nat}
  {st : Stmt} {n : String} {i : Int}

theorem integer_computes (at_ : x.stmts[k]? = some st) (is : integer? st = some (n, i)) (h : InBody x ns e f w)
    (here : f.pc = x.place k) : Computes x ns e k 1 (.int i) f w f w := by
  obtain ⟨instrs, -⟩ := integer_code is x.owner (x.draftAt k).slots _ _ _ rfl (Wrapped.written_next at_)
  have fixed : ∀ j ∈ [.const (.int i), nameInstr x.setting.scope (x.draftAt k).slots n .store], hasTarget j = false := by
    simp only [List.forall_mem_cons, nameInstr_hasTarget, true_and]
    exact ⟨rfl, by simp⟩
  obtain ⟨stands, size⟩ := Wrapped.stands_at instrs.symm fixed
  rw [← h.code, ← here] at stands
  have next : x.place (k + 1) - 1 = f.pc + 1 := by
    rw [size, here]
    simp
  refine ⟨?_, h, rfl, rfl, fun _ => rfl⟩
  rw [next]
  exact .step stands.head rfl

/-- Whether a body does nothing but to assign integers to variables of its own, beside what it does of its own
accord, and publishes nothing under a guard. -/
def isSteady (body : List Stmt) : Bool :=
  2 * (inside body).length ≤ Machine.patience &&
    areOwn body false ((inside body).filterMap fun st => (integer? st).map (·.1)) &&
    (inside body).all fun st => match partOf st with
      | .cell => (integer? st).any (·.1 != "__exports__")
      | .insert (.guarded _) => false
      | .insert _ => true
      | .capture => false

theorem Wrapped.mem_inside (at_ : x.stmts[k]? = some st) : st ∈ inside body := by
  have member := List.mem_of_getElem? at_
  unfold Wrapped.stmts at member
  split at member
  · exact List.mem_of_mem_tail member
  · exact member

theorem Wrapped.stmts_length : x.stmts.length ≤ (inside body).length := by
  unfold Wrapped.stmts
  split
  · rw [List.length_tail]
    exact Nat.sub_le _ _
  · exact Nat.le_refl _

theorem steady_own (steady : isSteady body = true) {st : Stmt} (member : st ∈ inside body)
    (is : integer? st = some (n, i)) : x.scope.binding n = .local ∨ x.scope.binding n = .cell := by
  unfold isSteady at steady
  rw [Bool.and_eq_true, Bool.and_eq_true] at steady
  refine x.own_of_check steady.1.2 (List.mem_filterMap.mpr ⟨st, member, ?_⟩)
  rw [is]
  rfl

theorem steady_completes {require : Value} {e₀ : Exports Value} {f₀ : Frame} {w₀ : World}
    (steady : isSteady body = true) (entered : Entered x ns require e₀ f₀ w₀) :
    Completes x ns e₀ f₀ w₀ fun _ => 2 := by
  have steady_ := steady
  unfold isSteady at steady_
  rw [Bool.and_eq_true, Bool.and_eq_true, decide_eq_true_eq] at steady_
  obtain ⟨⟨few, -⟩, each⟩ := steady_
  have kind {k : Nat} {st : Stmt} (at_ : x.stmts[k]? = some st) := List.all_eq_true.mp each st (Wrapped.mem_inside at_)
  refine ⟨?_, fun {k f w e st} comes at_ part => ?_, fun {k f w e st} comes at_ part => ?_,
    fun {k f w e st n} comes at_ part => ?_⟩
  · have total (k : Nat) : spent (fun _ => 2) k = 2 * k := by
      induction k with
      | zero => rfl
      | succ k ih => rw [spent, ih, Nat.mul_succ]
    have short := x.stmts_length
    rw [total]
    omega
  · have here := kind at_
    rw [part] at here
    obtain ⟨⟨n, i⟩, is, other⟩ : ∃ p, integer? st = some p ∧ (p.1 != "__exports__") = true := by
      cases is : integer? st with
      | none =>
        rw [is] at here
        cases here
      | some p =>
        rw [is] at here
        exact ⟨p, rfl, here⟩
    obtain ⟨inBody, pc, -⟩ := comes.standing entered
    obtain ⟨g, w', through, -⟩ := (integer_computes at_ is inBody pc).passes at_ (integer_effect is)
      (steady_own steady (Wrapped.mem_inside at_) is) (bne_iff_ne.mp other)
    exact ⟨2, g, w', Nat.le_refl 2, through⟩
  · have here := kind at_
    rw [part] at here
    cases here
  · have here := kind at_
    rw [part] at here
    cases here

end

end Notebook.Realm

namespace Notebook.Session

open Notebook.Machine Notebook.Cell Notebook.Realm Notebook.Tree
open Notebook.Code (Program of_toOption_any)

/-- Whether a session accepts a cell that does not wait and computes something, of whose tree and body, and the
statements of the body that are the cell's, something more is so. -/
def stages (s : State) (src : String) (more : List Stmt → List Stmt → List Stmt → Bool) : Bool :=
  (s.accepted? src).any fun cell => cell.body != "" && !cell.hasTopLevelAwait &&
    (parseDeclarations s.declarations).toOption.any fun prior =>
      (Compiler.checkCell src).toOption.any fun tree => (parseText cell.body).toOption.any fun body =>
        (inside body).map shapeOf == shapes prior tree &&
          more tree body (((inside body).drop (preloadNames prior tree).length).filter (partOf · == .cell)) &&
          (Code.compile { file := s.realm.fileName } [wrap body false]).toOption.any fun program =>
            program.units.all (·.flavor == .plain)

theorem integer_names {t : Stmt} {n : String} {i : Int} (h : integer? t = some (n, i)) :
    publishedNames t = [n] ∧ deletedNames t = [] ∧ asideNames t = [] ∧ ∀ m ∈ mentioned [t], m = n := by
  unfold integer? at h
  split at h
  next p q m r j =>
    obtain ⟨rfl, rfl⟩ := Prod.mk.inj (Option.some.inj h)
    refine ⟨?_, rfl, rfl, fun m met => ?_⟩
    · rw [publishedNames, if_neg (by simp [ isBareAnnotation])]
      simp [bindings, Stmt.outline, outlines, Expr.outline, Outline.leaf, bindingOccurrences, bindingOccurrencesAll,
        Mark.bound, Mark.opens, List.eraseDups_cons]
    · simpa [mentioned, bodyMarks, stmtOutlines, marksAll, marks, Stmt.outline, outlines, Expr.outline, Outline.leaf,
        Mark.mentioned] using met
  next => cases h

structure Staged.AssignsIntegers {s : State} {src : String} (c : Staged s src) (ps : List (String × Int)) : Prop where
  steady : isSteady c.body = true
  tree : c.tree.map integer? = ps.map some
  own : c.own.map integer? = ps.map some
  undocumented : Code.docOf (inside c.body) = none

namespace Staged.AssignsIntegers

variable {s : State} {src : String} {c : Staged s src} {ps : List (String × Int)}

theorem integer_of_mem (h : c.AssignsIntegers ps) {t : Stmt} (member : t ∈ c.tree) :
    ∃ p ∈ ps, integer? t = some p := by
  have one := List.mem_map_of_mem (f := integer?) member
  rw [h.tree] at one
  obtain ⟨p, there, same⟩ := List.mem_map.mp one
  exact ⟨p, there, same.symm⟩

theorem published (h : c.AssignsIntegers ps) {t : Stmt} (member : t ∈ c.tree) {n : String}
    (there : n ∈ publishedNames t) : n ∈ ps.map (·.1) := by
  obtain ⟨p, listed, is⟩ := h.integer_of_mem member
  rw [(integer_names is).1, List.mem_singleton] at there
  exact there ▸ List.mem_map_of_mem listed

theorem keeps (h : c.AssignsIntegers ps) {t : Stmt} (member : t ∈ c.tree) :
    deletedNames t = [] ∧ asideNames t = [] := by
  obtain ⟨p, -, is⟩ := h.integer_of_mem member
  exact ⟨(integer_names is).2.1, (integer_names is).2.2.1⟩

end Staged.AssignsIntegers

def State.bare : State := .start ⟨"/w", "/home/user"⟩ { rootDir := .str "/w" } {} false

end Notebook.Session
