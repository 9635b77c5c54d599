import Notebook.Proofs.Incremental
import Notebook.Proofs.NameCheck

/-! Declarations that a cell has nothing to do with: compiling it against two texts that differ by the line
of such a name gives the same but for that line, which stays where it is. -/

set_option autoImplicit false

namespace Notebook.Text

theorem linesKept_append (l rest acc : List Char) :
    linesKept (l ++ '\n' :: rest) acc = linesKept (l ++ ['\n']) acc ++ linesKept rest [] := by
  fun_induction linesKept l acc with
  | case1 | case2 => rfl
  | case3 cs acc ih => simp [linesKept, ih]
  | case4 c cs acc apart ending ih =>
    by_cases last : c = '\r' ∧ cs = []
    · obtain ⟨rfl, rfl⟩ := last
      rfl
    · -- a carriage return is followed by something else than the line feed
      have own (k : List Char) : ∀ k', c = '\r' → cs ++ '\n' :: k = '\n' :: k' → False := by
        rintro k' rfl same
        cases cs with
        | nil => exact last ⟨rfl, rfl⟩
        | cons d ds =>
          cases same
          exact apart ds rfl rfl
      rw [List.cons_append, List.cons_append, linesKept.eq_4 _ _ _ (own rest), linesKept.eq_4 _ _ _ (own []),
        if_pos ending, if_pos ending, ih]
      rfl
  | case5 c cs acc apart going ih =>
    have own (k : List Char) : ∀ k', c = '\r' → cs ++ '\n' :: k = '\n' :: k' → False := by
      rintro k' rfl
      exact absurd rfl going
    rw [List.cons_append, List.cons_append, linesKept.eq_4 _ _ _ (own rest), linesKept.eq_4 _ _ _ (own []),
      if_neg going, if_neg going, ih]

theorem lines_append {x y : String} (whole : x = "" ∨ ∃ x', x = x' ++ "\n") :
    lines (x ++ y) = lines x ++ lines y := by
  rcases whole with rfl | ⟨x', rfl⟩
  · rw [String.empty_append]
    rfl
  · have parts : (x' ++ "\n" ++ y).toList = x'.toList ++ '\n' :: y.toList := by simp
    have part : (x' ++ "\n").toList = x'.toList ++ ['\n'] := by simp
    unfold lines
    rw [parts, part, linesKept_append, List.map_append]

theorem lines_line {l : String} (single : IsLine l) : lines (l ++ "\n") = [l] := by
  have each : ∀ k ∈ [l], IsLine k := fun k member => List.mem_singleton.mp member ▸ single
  simpa [String.join_cons] using lines_join each

end Notebook.Text

namespace Notebook.Cell

open Notebook.Source Notebook.Tree Notebook.Text Declarations
open Notebook.Code (of_bind_ok)

/-! ### Names that a body touches -/

/-- Whether a body mentions, binds or unbinds a name, in whatever scope. -/
def Touches (body : List Stmt) (n : String) : Prop := (∃ p c, Occurs body (.name p n c)) ∨ Binds body n

def touches (n : String) (m : Mark) : Bool := (Mark.mentioned m ++ Mark.boundAnywhere m).contains n

theorem touches_quiet (n : String) : Quiet (touches n) := ⟨rfl, rfl, rfl, rfl⟩

theorem own_touches_expr (n : String) (e : Expr) :
    Expr.own (touches n) e = true ↔ (∃ p c, e = .name p n c) ∨ n ∈ e.binds := by
  cases e with
  | name p id c => cases c <;> simp [Expr.own, touches, Mark.mentioned, Mark.boundAnywhere, Expr.binds, eq_comm]
  | _ => simp [Expr.own, touches, Mark.mentioned, Mark.boundAnywhere, Expr.binds]

theorem own_touches_stmt (n : String) (s : Stmt) : Stmt.own (touches n) s = true ↔ n ∈ s.binds := by
  have same : Stmt.own (touches n) s = Stmt.own (fun m => (Mark.boundAnywhere m).contains n) s := by
    cases s with
    | augAssign p t op v => cases t <;> rfl
    | importFrom p m ns level slashless =>
      simp only [Stmt.own]
      split <;> rfl
    | _ => rfl
  rw [same, own_bound_stmt]

theorem touches_iff {body : List Stmt} {n : String} : stmtShows (touches n) body = true ↔ Touches body n := by
  have all : (bodyMarks body).any (touches n) = stmtShows (touches n) body := anyShows_stmts body
  rw [← all, any_bodyMarks_iff (touches_quiet n), Shown, Touches, Binds]
  simp only [own_touches_expr, own_touches_stmt]
  constructor
  · rintro (bound | ⟨e, occurs, ⟨p, c, rfl⟩ | bound⟩)
    · exact .inr (.inl bound)
    · exact .inl ⟨p, c, occurs⟩
    · exact .inr (.inr ⟨e, occurs, bound⟩)
  · rintro (⟨p, c, occurs⟩ | bound | ⟨e, occurs, bound⟩)
    · exact .inr ⟨_, occurs, .inl ⟨p, c, rfl⟩⟩
    · exact .inl bound
    · exact .inr ⟨e, occurs, .inr bound⟩

theorem Loads.touches {body : List Stmt} {p : Pos} {n : String} (loads : Loads body p n) : Touches body n := by
  rcases loads with occurs | ⟨q, c, op, v, stands⟩
  · exact .inl ⟨p, .load, occurs⟩
  · exact .inl ⟨p, c, .own stands (by simp [Stmt.evaluated, Stmt.exprs])⟩

/-! ### What a statement declares and deletes -/

theorem Mark.bound_touches {m : Mark} {n : String} (h : n ∈ Mark.bound m) : Cell.touches n m = true := by
  unfold Mark.bound at h
  split at h
  all_goals simp_all [Cell.touches, Mark.mentioned, Mark.boundAnywhere]

mutual

theorem bindingOccurrences_touches {o : Outline} {n : String} (h : n ∈ bindingOccurrences o) :
    shows (touches n) o = true := by
  obtain ⟨m, outer, inner⟩ := o
  rw [shows_node]
  rw [bindingOccurrences] at h
  rcases List.mem_append.mp h with own | within
  · simp [Mark.bound_touches own]
  · split at within
    next => cases within
    next => simp [bindingOccurrencesAll_touches within]

theorem bindingOccurrencesAll_touches {os : List Outline} {n : String} (h : n ∈ bindingOccurrencesAll os) :
    anyShows (touches n) os = true := by
  match os with
  | [] => cases h
  | o :: os =>
    rw [anyShows_cons, Bool.or_eq_true]
    rw [bindingOccurrencesAll] at h
    exact (List.mem_append.mp h).imp bindingOccurrences_touches bindingOccurrencesAll_touches

end

theorem bindings_touches {s : Stmt} {n : String} (h : n ∈ bindings s) : shows (touches n) s.outline = true := by
  rw [bindings, List.mem_eraseDups] at h
  exact bindingOccurrences_touches h

theorem deletedNames_touches {s : Stmt} {n : String} (h : n ∈ deletedNames s) :
    shows (touches n) s.outline = true := by
  unfold deletedNames at h
  split at h
  next p ts =>
    obtain ⟨t, member, made⟩ := List.mem_filterMap.mp h
    split at made
    next id c =>
      cases made
      have shown : exprShows (touches n) ts = true :=
        List.any_eq_true.mpr ⟨_, member, by simp [shows_expr (touches_quiet n), own_touches_expr]⟩
      simp [Stmt.outline, shows_node, anyShows_outlines, shown]
    next => cases made
  next => cases h

theorem entries_touches {s : Stmt} {es : List (String × String)} (made : entries s = .ok es) {n : String}
    (h : n ∈ es.map (·.1)) : shows (touches n) s.outline = true := by
  unfold entries at made
  split at made
  next p f body =>
    obtain ⟨line, _, made⟩ := of_bind_ok made
    cases made
    rw [List.map_singleton, List.mem_singleton] at h
    exact bindings_touches (by rw [bindings_function, h]; exact List.mem_cons_self)
  next p c body =>
    obtain ⟨line, _, made⟩ := of_bind_ok made
    cases made
    rw [List.map_singleton, List.mem_singleton] at h
    exact bindings_touches (by rw [bindings_class, h]; exact List.mem_cons_self)
  next p names =>
    cases made
    rw [List.map_map] at h
    have named : n ∈ names.map (·.binding false) := h
    simp [Stmt.outline, Outline.leaf, shows_node, touches, Mark.mentioned, Mark.boundAnywhere, named, anyShows_nil]
  next p q id c a v simple =>
    obtain ⟨line, _, made⟩ := of_bind_ok made
    cases made
    rw [List.map_singleton, List.mem_singleton] at h
    have shown : shows (touches n) (Expr.name q id c).outline = true := by
      rw [shows_expr (touches_quiet n), Bool.or_eq_true, own_touches_expr]
      exact .inl (.inl ⟨q, c, by rw [h]⟩)
    simp [Stmt.outline, shows_node, anyShows_cons, shown]
  next =>
    cases made
    exact bindings_touches (by simpa using h)

/-! ### Imports as calls of the loader -/

section

variable {n : String} (free : n ≠ requireName) (keep : Bool)

include free

theorem shows_requireExpr (args : List String) : shows (touches n) (requireExpr args).outline = false := by
  have texts : exprShows (touches n) (args.map textExpr) = false := by
    refine List.any_eq_false.mpr fun e member => ?_
    obtain ⟨t, -, rfl⟩ := List.mem_map.mp member
    exact Bool.false_ne_true
  simp [requireExpr, callExpr, nameExpr, Expr.outline, Outline.leaf, shows_node, anyShows_cons, anyShows_nil,
    anyShows_outlines, texts, keywordsOutline, touches, Mark.mentioned, Mark.boundAnywhere, free]

theorem shows_bindStmt {t : String} (other : n ≠ t) (args : List String) :
    shows (touches n) (bindStmt t (requireExpr args)).outline = false := by
  simp [bindStmt, Stmt.outline, Expr.outline, Outline.leaf, outlines, shows_node, anyShows_cons, anyShows_nil,
    shows_requireExpr free, touches, Mark.mentioned, Mark.boundAnywhere, other]

theorem stmtShows_requireAlias {a : Alias} (other : n ≠ a.binding false) :
    stmtShows (touches n) (requireAlias a) = false := by
  have call : shows (touches n) (Stmt.expr default (requireExpr [a.name])).outline = false := by
    simp [Stmt.outline, shows_node, anyShows_cons, anyShows_nil, shows_requireExpr free, touches, Mark.mentioned,
      Mark.boundAnywhere]
  unfold requireAlias
  split
  next m given =>
    have other : n ≠ m := by simpa [Alias.binding, given] using other
    simp [stmtShows, shows_bindStmt free other]
  next =>
    dsimp only
    split <;> simp [stmtShows, shows_bindStmt free other, call]

omit free in
theorem shows_handlers (hs : List (Handler (List Stmt))) :
    ((requireHandlers keep hs).any fun h => touches n (.capture h.name)) = hs.any (fun h => touches n (.capture h.name)) ∧
      (requireHandlers keep hs).filterMap (·.type) = hs.filterMap (·.type) := by
  induction hs with
  | nil => exact ⟨rfl, rfl⟩
  | cons h hs ih =>
    rw [requireHandlers, List.any_cons, List.any_cons, ih.1, List.filterMap_cons, List.filterMap_cons, ih.2]
    exact ⟨rfl, rfl⟩

omit free in
theorem shows_cases (cs : List (MatchCase (List Stmt))) :
    ((requireCases keep cs).any fun c => c.pattern.captures.any fun n' => touches n (.capture (some n')))
        = (cs.any fun c => c.pattern.captures.any fun n' => touches n (.capture (some n'))) ∧
      ((requireCases keep cs).flatMap fun c => c.pattern.exprs ++ c.guard.toList)
        = cs.flatMap fun c => c.pattern.exprs ++ c.guard.toList := by
  induction cs with
  | nil => exact ⟨rfl, rfl⟩
  | cons c cs ih =>
    rw [requireCases, List.any_cons, List.any_cons, ih.1, List.flatMap_cons, List.flatMap_cons, ih.2]
    exact ⟨rfl, rfl⟩

omit free in
/-- A statement shows nothing if nothing does by itself, in its expressions and in the statements within. -/
theorem stmtShows_single {s : Stmt} (own : Stmt.own (touches n) s = false)
    (exprs : exprShows (touches n) s.evaluated = false) (within : stmtShows (touches n) s.children = false) :
    stmtShows (touches n) [s] = false := by
  have quiet := shows_stmt (touches_quiet n) s
  rw [own, exprs, within] at quiet
  simp [stmtShows, quiet]

omit free

mutual

/-- What stands for a statement touches no name but those that the statement touches, and the loader. -/
theorem stmtShows_requireStmt (free : n ≠ requireName) (s : Stmt) (quiet : shows (touches n) s.outline = false) :
    stmtShows (touches n) (requireStmt keep s) = false := by
  have parts := quiet
  rw [shows_stmt (touches_quiet n)] at parts
  simp only [Bool.or_eq_false_iff] at parts
  obtain ⟨⟨own, exprs⟩, within⟩ := parts
  match s with
  | .import p names =>
    rw [requireStmt]
    refine List.any_eq_false.mpr fun t member => ?_
    obtain ⟨a, named, member⟩ := List.mem_flatMap.mp member
    have other : n ≠ a.binding false := by
      rintro rfl
      simp [Stmt.own, touches, Mark.mentioned, Mark.boundAnywhere] at own
      exact own a named rfl
    exact List.any_eq_false.mp (stmtShows_requireAlias free other) t member
  | .importFrom p module names level h =>
    rw [requireStmt]
    split
    · split
      · exact stmtShows_single own exprs within
      · rfl
    · split
      · exact stmtShows_single own exprs within
      · refine List.any_eq_false.mpr fun t member => ?_
        obtain ⟨a, named, rfl⟩ := List.mem_map.mp member
        have other : n ≠ a.binding true := by
          rintro rfl
          simp only [Stmt.own] at own
          split at own <;>
            exact absurd own (by simp [touches, Mark.mentioned, Mark.boundAnywhere]; exact ⟨a, named, rfl⟩)
        simp [requireFromAlias, shows_bindStmt free other]
  | .function p h body | .class p h body =>
    rw [requireStmt]
    exact stmtShows_single own exprs (stmtShows_requireStmts free body within)
  | .for p _ t _ body orelse | .while p t body orelse | .if p t body orelse =>
    simp only [Stmt.children, Stmt.stmts, Stmt.inside, List.append_nil, stmtShows_append, Bool.or_eq_false_iff] at within
    rw [requireStmt]
    refine stmtShows_single own exprs ?_
    simp only [Stmt.children, Stmt.stmts, Stmt.inside, List.append_nil, stmtShows_append, Bool.or_eq_false_iff]
    exact ⟨stmtShows_requireStmts free body within.1, stmtShows_requireStmts free orelse within.2⟩
  | .with p a items body =>
    simp only [Stmt.children, Stmt.stmts, Stmt.inside, List.append_nil] at within
    rw [requireStmt]
    refine stmtShows_single own exprs ?_
    simpa only [Stmt.children, Stmt.stmts, Stmt.inside, List.append_nil] using stmtShows_requireStmts free body within
  | .match p e cs =>
    simp only [Stmt.children, Stmt.stmts, Stmt.inside, List.append_nil] at within
    obtain ⟨captures, heads⟩ := shows_cases (n := n) keep cs
    rw [requireStmt]
    refine stmtShows_single (captures.trans own) ?_ ?_
    · simpa only [Stmt.evaluated, Stmt.exprs, Stmt.annotations, heads] using exprs
    · simpa only [Stmt.children, Stmt.stmts, Stmt.inside, List.append_nil] using stmtShows_requireCases free cs within
  | .try p star body hs orelse final =>
    simp only [Stmt.children, Stmt.stmts, Stmt.inside, List.append_nil, stmtShows_append, Bool.or_eq_false_iff] at within
    obtain ⟨names, types⟩ := shows_handlers (n := n) keep hs
    rw [requireStmt]
    refine stmtShows_single (names.trans own) ?_ ?_
    · simpa only [Stmt.evaluated, Stmt.exprs, Stmt.annotations, types] using exprs
    · simp only [Stmt.children, Stmt.stmts, Stmt.inside, List.append_nil, stmtShows_append, Bool.or_eq_false_iff]
      exact ⟨⟨⟨stmtShows_requireStmts free body within.1.1.1, stmtShows_requireHandlers free hs within.1.1.2⟩,
        stmtShows_requireStmts free orelse within.1.2⟩, stmtShows_requireStmts free final within.2⟩
  | .return .. | .delete .. | .assign .. | .augAssign .. | .annAssign .. | .raise .. | .assert .. | .global ..
  | .nonlocal .. | .expr .. | .pass .. | .break .. | .continue .. => exact stmtShows_single own exprs within

theorem stmtShows_requireStmts (free : n ≠ requireName) (ss : List Stmt) (quiet : stmtShows (touches n) ss = false) :
    stmtShows (touches n) (requireStmts keep ss) = false := by
  match ss with
  | [] => rfl
  | s :: ss =>
    rw [requireStmts, stmtShows_append, Bool.or_eq_false_iff]
    have both : (shows (touches n) s.outline || stmtShows (touches n) ss) = false := quiet
    rw [Bool.or_eq_false_iff] at both
    exact ⟨stmtShows_requireStmt free s both.1, stmtShows_requireStmts free ss both.2⟩

theorem stmtShows_requireHandlers (free : n ≠ requireName) (hs : List (Handler (List Stmt)))
    (quiet : stmtShows (touches n) (hs.flatMap (·.body)) = false) :
    stmtShows (touches n) ((requireHandlers keep hs).flatMap (·.body)) = false := by
  match hs with
  | [] => rfl
  | ⟨p, t, name, body⟩ :: hs =>
    rw [List.flatMap_cons, stmtShows_append, Bool.or_eq_false_iff] at quiet
    rw [requireHandlers, List.flatMap_cons, stmtShows_append, Bool.or_eq_false_iff]
    exact ⟨stmtShows_requireStmts free body quiet.1, stmtShows_requireHandlers free hs quiet.2⟩

theorem stmtShows_requireCases (free : n ≠ requireName) (cs : List (MatchCase (List Stmt)))
    (quiet : stmtShows (touches n) (cs.flatMap (·.body)) = false) :
    stmtShows (touches n) ((requireCases keep cs).flatMap (·.body)) = false := by
  match cs with
  | [] => rfl
  | ⟨p, g, body⟩ :: cs =>
    rw [List.flatMap_cons, stmtShows_append, Bool.or_eq_false_iff] at quiet
    rw [requireCases, List.flatMap_cons, stmtShows_append, Bool.or_eq_false_iff]
    exact ⟨stmtShows_requireStmts free body quiet.1, stmtShows_requireCases free cs quiet.2⟩

end

end

theorem requireInside_touches {n : String} (free : n ≠ requireName) {s : Stmt}
    (quiet : shows (touches n) s.outline = false) : shows (touches n) (requireInside s).outline = false := by
  unfold requireInside
  split
  · exact quiet
  · exact quiet
  · have all := stmtShows_requireStmt false free s quiet
    cases made : requireStmt false s with
    | nil => exact quiet
    | cons t ts =>
      rw [made] at all
      exact (Bool.or_eq_false_iff.mp all).1

theorem notMem_mentioned {body : List Stmt} {n : String} (free : n ≠ requireName) (untouched : ¬ Touches body n) :
    n ∉ mentioned (body.map requireInside) := by
  intro member
  obtain ⟨m, marked, member⟩ := List.mem_flatMap.mp member
  have shown : anyShows (touches n) (stmtOutlines (body.map requireInside)) = true :=
    List.any_eq_true.mpr ⟨m, marked, by simp [touches, member]⟩
  rw [anyShows_stmts] at shown
  obtain ⟨t, made, shown⟩ := List.any_eq_true.mp shown
  obtain ⟨s, there, rfl⟩ := List.mem_map.mp made
  by_cases quiet : shows (touches n) s.outline = true
  · exact untouched (touches_iff.mp (List.any_eq_true.mpr ⟨s, there, quiet⟩))
  · rw [requireInside_touches free (Bool.eq_false_iff.mpr quiet)] at shown
    cases shown

/-! ### Declarations around another -/

section

variable {e : String × String} {A B : Declarations}

/-- What goes on before and behind a declaration: names before it stay but for those that are removed, and
behind it others may follow. -/
structure Beside (gone : List String) (A B A' B' : Declarations) : Prop where
  before : A'.names = A.names.filter fun m => !gone.contains m
  behind : (B.names.filter fun m => !gone.contains m) <+: B'.names

theorem none_gone (ns : List String) : (ns.filter fun m => !([] : List String).contains m) = ns :=
  List.filter_eq_self.mpr fun _ _ => rfl

theorem Beside.kept {A' B' : Declarations} (before : A'.names = A.names) (behind : B.names <+: B'.names) :
    Beside [] A B A' B' :=
  ⟨before.trans (none_gone _).symm, (none_gone _).symm ▸ behind⟩

theorem Beside.refl (A B : Declarations) : Beside [] A B A B := .kept rfl (List.prefix_refl _)

theorem Beside.trans {gone gone' : List String} {A' B' A'' B'' : Declarations} (h : Beside gone A B A' B')
    (h' : Beside gone' A' B' A'' B'') : Beside (gone ++ gone') A B A'' B'' := by
  have both : (fun m => !(gone ++ gone').contains m) = fun m => !gone'.contains m && !gone.contains m := by
    funext m
    simp [Bool.and_comm]
  constructor
  · rw [h'.before, h.before, List.filter_filter, both]
  · rw [both, ← List.filter_filter]
    exact (h.behind.filter _).trans h'.behind

theorem declare_around {m l : String} (other : m ≠ e.1) :
    ∃ A' B', (A ++ B).declare m l = A' ++ B' ∧ (A ++ e :: B).declare m l = A' ++ e :: B' ∧ Beside [] A B A' B' := by
  have apart : (e.1 == m) = false := by simpa using other.symm
  have same (ds : Declarations) : names (ds.map fun d => if d.1 == m then (m, l) else d) = ds.names := by
    rw [names, List.map_map]
    refine List.map_congr_left fun d _ => ?_
    by_cases here : d.1 = m <;> simp [here]
  have found : (A ++ e :: B).any (·.1 == m) = (A ++ B).any (·.1 == m) := by simp [apart]
  unfold declare
  rw [found]
  split
  next =>
    refine ⟨_, _, List.map_append, by rw [List.map_append, List.map_cons, apart, if_neg Bool.false_ne_true], ?_⟩
    exact .kept (same A) ((same B).symm ▸ List.prefix_refl _)
  next => exact ⟨A, B ++ [(m, l)], List.append_assoc .., by simp, .kept rfl (by simp [names])⟩

theorem declareAll_around {es : List (String × String)} (other : e.1 ∉ es.map (·.1)) :
    ∃ A' B', (A ++ B).declareAll es = A' ++ B' ∧ (A ++ e :: B).declareAll es = A' ++ e :: B' ∧ Beside [] A B A' B' := by
  induction es generalizing A B with
  | nil => exact ⟨A, B, rfl, rfl, .refl A B⟩
  | cons d es ih =>
    rw [List.map_cons, List.mem_cons, not_or] at other
    obtain ⟨A₁, B₁, first, first', around⟩ := declare_around (A := A) (B := B) (l := d.2) (Ne.symm other.1)
    obtain ⟨A₂, B₂, rest, rest', around'⟩ := ih (A := A₁) (B := B₁) other.2
    refine ⟨A₂, B₂, ?_, ?_, around.trans around'⟩
    · exact (congrArg (declareAll · es) first).trans rest
    · exact (congrArg (declareAll · es) first').trans rest'

theorem removeAll_around {gone : List String} (other : e.1 ∉ gone) :
    ∃ A' B', gone.foldl remove (A ++ B) = A' ++ B' ∧ gone.foldl remove (A ++ e :: B) = A' ++ e :: B' ∧
      Beside gone A B A' B' := by
  induction gone generalizing A B with
  | nil => exact ⟨A, B, rfl, rfl, .refl A B⟩
  | cons g gone ih =>
    rw [List.mem_cons, not_or] at other
    obtain ⟨A₂, B₂, rest, rest', around⟩ := ih (A := A.remove g) (B := B.remove g) other.2
    have single (ds : Declarations) : (ds.remove g).names = ds.names.filter fun m => !([g].contains m) := by
      rw [names_remove]
      refine List.filter_congr fun m _ => ?_
      by_cases same : m = g <;> simp [same]
    have first : Beside [g] A B (A.remove g) (B.remove g) :=
      ⟨single A, (single B).symm ▸ List.prefix_refl _⟩
    have kept : (e.1 != g) = true := by simpa using other.1
    refine ⟨A₂, B₂, ?_, ?_, first.trans around⟩
    · rw [List.foldl_cons, ← rest]
      simp [remove]
    · rw [List.foldl_cons, ← rest']
      simp [remove, kept]

theorem declareStmt_around {s : Stmt} (untouched : shows (touches e.1) s.outline = false) :
    (∃ t, declareStmt (A ++ B) s = .error t ∧ declareStmt (A ++ e :: B) s = .error t) ∨
      ∃ A' B', declareStmt (A ++ B) s = .ok (A' ++ B') ∧ declareStmt (A ++ e :: B) s = .ok (A' ++ e :: B') ∧
        Beside (deletedNames s) A B A' B' := by
  rw [declareStmt_eq, declareStmt_eq]
  have quiet {P : Prop} (shown : P → shows (touches e.1) s.outline = true) : ¬ P := fun h => by
    rw [shown h] at untouched
    cases untouched
  cases made : entries s with
  | error t => exact .inl ⟨t, rfl, rfl⟩
  | ok es =>
    obtain ⟨A₁, B₁, first, first', around⟩ := removeAll_around (A := A) (B := B) (quiet deletedNames_touches)
    obtain ⟨A₂, B₂, rest, rest', around'⟩ := declareAll_around (A := A₁) (B := B₁) (quiet (entries_touches made))
    refine .inr ⟨A₂, B₂, ?_, ?_, by simpa using around.trans around'⟩
    · rw [first, ← rest]
      rfl
    · rw [first', ← rest']
      rfl

theorem declareStmts_around {body : List Stmt} (untouched : ∀ s ∈ body, shows (touches e.1) s.outline = false) :
    (∃ t, declareStmts (A ++ B) body = .error t ∧ declareStmts (A ++ e :: B) body = .error t) ∨
      ∃ A' B', declareStmts (A ++ B) body = .ok (A' ++ B') ∧ declareStmts (A ++ e :: B) body = .ok (A' ++ e :: B') ∧
        Beside (body.flatMap deletedNames) A B A' B' := by
  induction body generalizing A B with
  | nil => exact .inr ⟨A, B, rfl, rfl, .refl A B⟩
  | cons s body ih =>
    rcases declareStmt_around (A := A) (B := B) (untouched s List.mem_cons_self) with
      ⟨t, failed, failed'⟩ | ⟨A₁, B₁, first, first', around⟩
    · refine .inl ⟨t, ?_, ?_⟩
      · rw [declareStmts, failed]
        rfl
      · rw [declareStmts, failed']
        rfl
    · have first_ : declareStmts (A ++ B) (s :: body) = declareStmts (A₁ ++ B₁) body := by
        rw [declareStmts, first]
        rfl
      have first_' : declareStmts (A ++ e :: B) (s :: body) = declareStmts (A₁ ++ e :: B₁) body := by
        rw [declareStmts, first']
        rfl
      rw [first_, first_', List.flatMap_cons]
      rcases ih (A := A₁) (B := B₁) fun t member => untouched t (List.mem_cons_of_mem _ member) with
        ⟨t, failed, failed'⟩ | ⟨A₂, B₂, rest, rest', around'⟩
      · exact .inl ⟨t, failed, failed'⟩
      · exact .inr ⟨A₂, B₂, rest, rest', around.trans around'⟩

theorem readLines_around {ls : List String}
    (other : ∀ l ∈ ls, isBlankText l = false → declarationOfLine l ≠ .ok (some e.1)) :
    (∃ t, readLines (A ++ B) ls = .error t ∧ readLines (A ++ e :: B) ls = .error t) ∨
      ∃ A' B', readLines (A ++ B) ls = .ok (A' ++ B') ∧ readLines (A ++ e :: B) ls = .ok (A' ++ e :: B') ∧
        Beside [] A B A' B' := by
  induction ls generalizing A B with
  | nil => exact .inr ⟨A, B, rfl, rfl, .refl A B⟩
  | cons l ls ih =>
    have later := fun l member => other l (List.mem_cons_of_mem _ member)
    rw [readLines, readLines]
    split
    next => exact ih later
    next filled =>
      split
      next t failed => exact .inl ⟨t, rfl, rfl⟩
      next => exact ih later
      next m declares =>
        have apart : m ≠ e.1 := by
          rintro rfl
          exact other l List.mem_cons_self (Bool.eq_false_iff.mpr filled) declares
        obtain ⟨A₁, B₁, first, first', around⟩ := declare_around (A := A) (B := B) (l := l) apart
        rw [first, first']
        rcases ih (A := A₁) (B := B₁) later with failed | ⟨A₂, B₂, rest, rest', around'⟩
        · exact .inl failed
        · exact .inr ⟨A₂, B₂, rest, rest', around.trans around'⟩

theorem declareBody_around {body : List Stmt} (untouched : ¬ Touches body e.1) :
    (∃ t, declareBody (A ++ B) body = .error t ∧ declareBody (A ++ e :: B) body = .error t) ∨
      ∃ A' B', declareBody (A ++ B) body = .ok (A' ++ B') ∧ declareBody (A ++ e :: B) body = .ok (A' ++ e :: B') ∧
        Beside (body.flatMap deletedNames) A B A' B' := by
  have quiet : ∀ s ∈ body, shows (touches e.1) s.outline = false := by
    intro s member
    refine Bool.eq_false_iff.mpr fun shown => ?_
    exact untouched (touches_iff.mp (List.any_eq_true.mpr ⟨s, member, shown⟩))
  unfold declareBody unlessDeep
  split
  · exact .inl ⟨.tooDeep, rfl, rfl⟩
  · exact declareStmts_around quiet

/-! ### What of a cell depends on the names declared before -/

theorem undefinedReadings_congr {known known' : String → Bool} {rs : List Reading}
    (same : ∀ r ∈ rs, known r.name = known' r.name) (reported : List String) :
    undefinedReadings known rs reported = undefinedReadings known' rs reported := by
  induction rs generalizing reported with
  | nil => rfl
  | cons r rs ih =>
    have later := ih fun q member => same q (List.mem_cons_of_mem _ member)
    rw [undefinedReadings, undefinedReadings, same r List.mem_cons_self, later, later]

theorem checkNames_around (extra : List String) {body : List Stmt} (untouched : ¬ Touches body e.1) :
    checkNames extra (A ++ e :: B) body = checkNames extra (A ++ B) body := by
  unfold checkNames
  dsimp only
  rw [undefinedReadings_congr fun r read => ?_]
  have apart : r.name ≠ e.1 := by
    rintro same
    exact untouched (same ▸ Loads.touches (mem_readings_iff.mp read))
  have kept : (A ++ e :: B).names.contains r.name = (A ++ B).names.contains r.name := by
    rw [Bool.eq_iff_iff]
    simp [names, apart]
  rw [kept]

theorem preloads_around {body : List Stmt} (free : e.1 ≠ requireName) (untouched : ¬ Touches body e.1) :
    preloads (A ++ e :: B) body = preloads (A ++ B) body := by
  have unread := notMem_mentioned free untouched
  simp [preloads, names, unread]

theorem buildBody_around {body : List Stmt} (free : e.1 ≠ requireName) (untouched : ¬ Touches body e.1) :
    buildBody (A ++ e :: B) body = buildBody (A ++ B) body := by
  unfold buildBody
  rw [preloads_around free untouched]

end

/-! ### A line among others -/

theorem readLines_append {ds : Declarations} {ls ls' : List String} :
    readLines ds (ls ++ ls') = (readLines ds ls).bind fun ds' => readLines ds' ls' := by
  induction ls generalizing ds with
  | nil => rfl
  | cons l ls ih =>
    rw [List.cons_append, readLines, readLines]
    split
    next => exact ih
    next =>
      split
      next => rfl
      next => exact ih
      next => exact ih

theorem declaredIn_append {x y : String} (whole : x = "" ∨ ∃ x', x = x' ++ "\n") {n : String} :
    DeclaredIn (x ++ y) n ↔ DeclaredIn x n ∨ DeclaredIn y n := by
  simp only [DeclaredIn, lines_append whole, List.mem_append, or_and_right, exists_or]

section

variable {x y : String} {e : String × String}

theorem parseDeclarations_around (whole : x = "" ∨ ∃ x', x = x' ++ "\n") (readable : Readable e)
    (single : ¬ DeclaredIn (x ++ y) e.1) :
    (∃ t, parseDeclarations (x ++ y) = .error t ∧ parseDeclarations (x ++ (e.2 ++ "\n") ++ y) = .error t) ∨
      ∃ A B, parseDeclarations (x ++ y) = .ok (A ++ B) ∧
        parseDeclarations (x ++ (e.2 ++ "\n") ++ y) = .ok (A ++ e :: B) := by
  rw [declaredIn_append whole, not_or] at single
  have split_ : lines (x ++ y) = lines x ++ lines y := lines_append whole
  have split_' : lines (x ++ (e.2 ++ "\n") ++ y) = lines x ++ e.2 :: lines y := by
    rw [String.append_assoc, lines_append whole, lines_append (.inr ⟨e.2, rfl⟩), lines_line readable.single]
    rfl
  unfold parseDeclarations
  rw [split_, split_', readLines_append, readLines_append]
  cases read : readLines [] (lines x) with
  | error t => exact .inl ⟨t, rfl, rfl⟩
  | ok A =>
    have new : e.1 ∉ A.names := mt (mem_parseDeclarations_iff read).mp single.1
    have declared : A.declare e.1 e.2 = A ++ [e] := by
      unfold declare
      rw [if_neg (by simpa [names] using new)]
    have other : ∀ l ∈ lines y, isBlankText l = false → declarationOfLine l ≠ .ok (some e.1) :=
      fun l member filled declares => single.2 ⟨l, member, filled, declares⟩
    have first : readLines A (e.2 :: lines y) = readLines (A ++ e :: []) (lines y) := by
      rw [readLines, readable.filled, if_neg Bool.false_ne_true, readable.back]
      exact congrArg (readLines · (lines y)) declared
    change (∃ t, readLines A (lines y) = _ ∧ readLines A (e.2 :: lines y) = _) ∨
      ∃ A' B', readLines A (lines y) = _ ∧ readLines A (e.2 :: lines y) = _
    rw [first]
    rcases readLines_around (A := A) (B := []) other with failed | ⟨A', B', read, read', -⟩
    · rw [List.append_nil] at failed
      exact .inl failed
    · rw [List.append_nil] at read
      exact .inr ⟨A', B', read, read'⟩

end

theorem text_append (ds ds' : Declarations) : text (ds ++ ds') = ds.text ++ ds'.text := by
  rw [text, List.map_append, String.join_append]
  rfl

theorem text_cons (e : String × String) (ds : Declarations) : text (e :: ds) = (e.2 ++ "\n") ++ ds.text := by
  rw [text, List.map_cons, String.join_cons]
  rfl

/-- A cell that does not touch a name. -/
def Unrelated (src n : String) : Prop := ∀ body, Compiler.checkCell src = .ok body → ¬ Touches body n

instance (body : List Stmt) (n : String) : Decidable (Touches body n) := decidable_of_iff _ touches_iff

instance (src n : String) : Decidable (Unrelated src n) :=
  decidable_of_iff (∀ body ∈ (Compiler.checkCell src).toOption, ¬ Touches body n)
    (forall_congr' fun _ => imp_congr_left (Option.mem_def.trans toOption_eq_some))

/-- The texts before and behind a line after a cell: as they were, if the cell is refused; else each
name stays on its side unless the cell deletes it, and new names follow behind. -/
inductive Sides (x y src : String) (e : String × String) : String → String → Prop
  | refused (fault : ∀ body, Compiler.checkCell src ≠ .ok body) : Sides x y src e x y
  | declared {body : List Stmt} {A B A' B' : Declarations} (parsed : Compiler.checkCell src = .ok body)
      (before : parseDeclarations (x ++ (e.2 ++ "\n") ++ y) = .ok (A ++ e :: B))
      (around : Beside (body.flatMap deletedNames) A B A' B') : Sides x y src e A'.text B'.text

namespace Compiler

/-- An earlier declaration of a name that the cell does not touch does not interfere, if its line reads
back: the cell is compiled to the same, and the line stays between the lines that it was between. -/
theorem compile_unrelated {c : Compiler} {fs : Files} {x y src : String} {e : String × String}
    (whole : x = "" ∨ ∃ x', x = x' ++ "\n") (readable : Readable e) (single : ¬ DeclaredIn (x ++ y) e.1)
    (free : e.1 ≠ requireName) (unrelated : Unrelated src e.1) :
    (c.compile fs (x ++ (e.2 ++ "\n") ++ y) src).2 = (c.compile fs (x ++ y) src).2 ∧
      ((∃ t, (c.compile fs (x ++ y) src).1 = .error t ∧ (c.compile fs (x ++ (e.2 ++ "\n") ++ y) src).1 = .error t) ∨
        ∃ (r : Compiled) (X Y : String), Sides x y src e X Y ∧
          (c.compile fs (x ++ y) src).1 = .ok { r with declarations := X ++ Y } ∧
          (c.compile fs (x ++ (e.2 ++ "\n") ++ y) src).1
            = .ok { r with declarations := X ++ (e.2 ++ "\n") ++ Y }) := by
  unfold compile
  dsimp only
  rcases parseDeclarations_around whole readable single with ⟨t, failed, failed'⟩ | ⟨A, B, read, read'⟩
  · rw [failed, failed']
    exact ⟨rfl, .inl ⟨t, rfl, rfl⟩⟩
  · rw [read, read']
    dsimp only
    cases parsed : checkCell src with
    | error f =>
      have sides : Sides x y src e x y := .refused fun body same => by
        rw [parsed] at same
        cases same
      cases f with
      | trouble t =>
        dsimp only
        split
        · exact ⟨rfl, .inr ⟨{ diagnostics := [{ message := t.message }] }, x, y, sides, rfl, rfl⟩⟩
        · exact ⟨rfl, .inl ⟨t, rfl, rfl⟩⟩
      | fault f => exact ⟨rfl, .inr ⟨{ diagnostics := [faultDiagnostic f ""] }, x, y, sides, rfl, rfl⟩⟩
    | ok body =>
      have untouched := unrelated body parsed
      dsimp only
      rw [buildBody_around free untouched, checkNames_around c.extraGlobals untouched]
      cases buildBody (A ++ B) body with
      | error t => exact ⟨rfl, .inl ⟨t, rfl, rfl⟩⟩
      | ok built =>
        rcases declareBody_around (A := A) (B := B) untouched with
          ⟨t, failed, failed'⟩ | ⟨A', B', made, made', around⟩
        · rw [failed, failed']
          exact ⟨rfl, .inl ⟨t, rfl, rfl⟩⟩
        · rw [made, made']
          dsimp only
          have joined : (A' ++ B').text = A'.text ++ B'.text := text_append A' B'
          have joined' : (A' ++ e :: B').text = A'.text ++ (e.2 ++ "\n") ++ B'.text := by
            rw [text_append, text_cons, ← String.append_assoc]
          rw [joined, joined']
          split
          next t c' stopped => exact ⟨rfl, .inl ⟨t, rfl, rfl⟩⟩
          next k c' collected =>
            refine ⟨rfl, .inr ⟨{ body := built.1, diagnostics := k.diagnostics, sideModules := k.out
                                 hasTopLevelAwait := hasTopLevelAwait body, lastBinding := built.2 },
              A'.text, B'.text, .declared parsed read' around, rfl, rfl⟩⟩

set_option maxRecDepth 100000 in
/-- A cell that deletes one earlier name and binds a new one, with a line for a third between them. -/
theorem compile_unrelated_deleted :
    let c : Compiler := { places := ⟨"/w", "/home/user"⟩, rootDir := "/w" }
    let x := "a: object\n"
    let y := ""
    let src := "del a\nc = 1"
    let e : String × String := ("b", "b: object")
    ((x = "" ∨ ∃ x', x = x' ++ "\n") ∧ Readable e ∧ ¬ DeclaredIn (x ++ y) e.1 ∧ e.1 ≠ requireName ∧
        Unrelated src e.1) ∧
      (c.compile {} (x ++ (e.2 ++ "\n") ++ y) src).2 = (c.compile {} (x ++ y) src).2 ∧
      ((∃ t, (c.compile {} (x ++ y) src).1 = .error t ∧ (c.compile {} (x ++ (e.2 ++ "\n") ++ y) src).1 = .error t) ∨
        ∃ (r : Compiled) (X Y : String), Sides x y src e X Y ∧
          (c.compile {} (x ++ y) src).1 = .ok { r with declarations := X ++ Y } ∧
          (c.compile {} (x ++ (e.2 ++ "\n") ++ y) src).1
            = .ok { r with declarations := X ++ (e.2 ++ "\n") ++ Y }) := by
  intro c x y src e
  have whole : x = "" ∨ ∃ x', x = x' ++ "\n" := .inr ⟨"a: object", rfl⟩
  have readable : Readable e := by decide +kernel
  have read : (parseDeclarations (x ++ y)).toOption = some [("a", "a: object")] := by decide +kernel
  have single : ¬ DeclaredIn (x ++ y) e.1 :=
    mt (mem_parseDeclarations_iff (toOption_eq_some.mp read)).mpr (by decide)
  have free : e.1 ≠ requireName := by decide
  have unrelated : Unrelated src e.1 := by decide +kernel
  exact ⟨⟨whole, readable, single, free, unrelated⟩, compile_unrelated whole readable single free unrelated⟩

set_option maxRecDepth 100000 in
/-- A line that does not read back does interfere: a cell that has nothing to do with its name loses it.
The line is written for the tree of `𝐢𝐟: int`, whose name is a keyword in its normal form. -/
theorem lost_keyword :
    let c : Compiler := { places := ⟨"/w", "/home/user"⟩, rootDir := "/w" }
    let s : Stmt := .annAssign ⟨1, 0⟩ (.name ⟨1, 0⟩ "if" .store) (.name ⟨1, 4⟩ "int" .load) none true
    (declareStmts [] [s]).toOption.map Declarations.text = some "if: int\n" ∧ Unrelated "y = 1" "if" ∧
      (c.compile {} "" "y = 1").1.toOption.map (·.declarations) = some "y: object\n" ∧
      (c.compile {} "if: int\n" "y = 1").1.toOption.map (·.declarations) = some "y: object\n" := by
  decide +kernel

end Compiler

end Notebook.Cell
