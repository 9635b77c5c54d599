import Notebook.Proofs.Occurrence
import Notebook.Proofs.Rewriting

/-! Which names a statement binds in the scope that it runs in, told from the trees alone, and which of them
looking for bindings finds: all but those that an assignment expression binds from within a node that opens a
scope, though it is evaluated outside of that scope or assigns past it. -/

set_option autoImplicit false

namespace Notebook.Cell

open Notebook.Tree

theorem runs_single {s t : Stmt} : Runs [s] t ↔ t = s ∨ ∃ u ∈ s.stmts, Runs [u] t := by
  constructor
  · intro h
    induction h with
    | own member => exact .inl (List.mem_singleton.mp member)
    | @inner s' t _ inside ih =>
      rcases ih with rfl | ⟨u, within, runs⟩
      · exact .inr ⟨t, inside, .own (List.mem_singleton_self _)⟩
      · exact .inr ⟨u, within, .inner runs inside⟩
  · rintro (rfl | ⟨u, within, runs⟩)
    · exact .own (List.mem_singleton_self _)
    · induction runs with
      | own member =>
        rw [List.mem_singleton.mp member]
        exact .inner (.own (List.mem_singleton_self _)) within
      | inner _ inside ih => exact .inner ih inside

end Notebook.Cell

namespace Notebook.Tree

open Notebook.Source
open Notebook.Cell (Runs runs_single)

/-! ### Scoping -/

def Expr.isComprehension : Expr → Bool
  | .comp .. | .dictComp .. => true
  | _ => false

def Expr.opensScope : Expr → Bool
  | .lambda .. | .comp .. | .dictComp .. => true
  | _ => false

def Stmt.opensScope : Stmt → Bool
  | .function .. | .class .. => true
  | _ => false

/-- An assignment expression in an expression. It passes comprehensions around it, so it counts wherever it
stands, the bodies of anonymous functions apart. -/
inductive Expr.Assigns : Expr → String → Prop
  | here (p q : Pos) (n : String) (v : Expr) : Assigns (.named p (.name q n .store) v) n
  | part {e p : Expr} {n : String} (inside : p ∈ e.parts) (assigns : Assigns p n) : Assigns e n

/-- The names that an expression binds in the scope in which it stands: those of targets, but from within a
comprehension only those of assignment expressions. -/
inductive Expr.Sets : Expr → String → Prop
  | target (p : Pos) (n : String) : Sets (.name p n .store) n
  | part {e p : Expr} {n : String} (plain : e.isComprehension = false) (inside : p ∈ e.parts)
      (sets : Sets p n) : Sets e n
  | past {e : Expr} {n : String} (comprehension : e.isComprehension = true) (assigns : e.Assigns n) : Sets e n

/-- The names that a statement by itself binds in the scope in which it stands, apart from targets. -/
def Stmt.introduces : Stmt → List String
  | .function _ h _ => [h.name]
  | .class _ h _ => [h.name]
  | .import _ ns => (ns.map (·.binding false)).filter (· != "*")
  | .importFrom _ m ns _ _ =>
    if m = some "__future__" then [] else (ns.map (·.binding true)).filter (· != "*")
  | .try _ _ _ hs _ _ => hs.filterMap (·.name)
  | .match _ _ cs => cs.flatMap (·.pattern.captures)
  | _ => []

/-- Whether running a statement may bind a name in the scope that it runs in: it, or a statement within that
runs in the same scope, introduces the name or evaluates an expression that binds it. -/
def Stmt.Sets (s : Stmt) (n : String) : Prop :=
  ∃ t, Runs [s] t ∧ (n ∈ t.introduces ∨ ∃ e ∈ t.evaluated, e.Sets n)

/-- The names that an expression binds from within an anonymous function or a comprehension. -/
inductive Expr.Hides : Expr → String → Prop
  | here {e : Expr} {n : String} (opens : e.opensScope = true) (sets : e.Sets n) : Hides e n
  | part {e p : Expr} {n : String} (plain : e.opensScope = false) (inside : p ∈ e.parts)
      (hides : Hides p n) : Hides e n

/-- The names that a statement binds from within a node that opens a scope: by a decorator, a default, an
annotation, a base or a keyword of a definition, by a default of an anonymous function or by an assignment
expression of a comprehension. -/
def Stmt.Hides (s : Stmt) (n : String) : Prop :=
  ∃ t, Runs [s] t ∧ ∃ e ∈ t.evaluated, if t.opensScope then e.Sets n else e.Hides n

/-! ### How binding goes through the tree -/

theorem Expr.Hides.sets {e : Expr} {n : String} (h : e.Hides n) : e.Sets n := by
  induction h with
  | here _ sets => exact sets
  | @part e p n plain inside _ ih =>
    refine .part ?_ inside ih
    cases e <;> first | rfl | cases plain

theorem Expr.sets_iff {e : Expr} {n : String} (plain : e.isComprehension = false) :
    e.Sets n ↔ (∃ p, e = .name p n .store) ∨ ∃ p ∈ e.parts, p.Sets n := by
  constructor
  · intro h
    cases h with
    | target p n => exact .inl ⟨p, rfl⟩
    | part _ inside sets => exact .inr ⟨_, inside, sets⟩
    | past comprehension => rw [plain] at comprehension; cases comprehension
  · rintro (⟨p, rfl⟩ | ⟨p, inside, sets⟩)
    · exact .target p n
    · exact .part plain inside sets

theorem Expr.hides_iff {e : Expr} {n : String} (plain : e.opensScope = false) :
    e.Hides n ↔ ∃ p ∈ e.parts, p.Hides n := by
  constructor
  · intro h
    cases h with
    | here opens => rw [plain] at opens; cases opens
    | part _ inside hides => exact ⟨_, inside, hides⟩
  · rintro ⟨p, inside, hides⟩
    exact .part plain inside hides

theorem Stmt.sets_iff {s : Stmt} {n : String} : s.Sets n ↔
    (n ∈ s.introduces ∨ ∃ e ∈ s.evaluated, e.Sets n) ∨ ∃ t ∈ s.stmts, t.Sets n := by
  constructor
  · rintro ⟨t, runs, binds⟩
    rcases runs_single.mp runs with rfl | ⟨u, within, runs⟩
    · exact .inl binds
    · exact .inr ⟨u, within, t, runs, binds⟩
  · rintro (binds | ⟨u, within, t, runs, binds⟩)
    · exact ⟨s, runs_single.mpr (.inl rfl), binds⟩
    · exact ⟨t, runs_single.mpr (.inr ⟨u, within, runs⟩), binds⟩

theorem Stmt.hides_iff {s : Stmt} {n : String} : s.Hides n ↔
    (∃ e ∈ s.evaluated, if s.opensScope then e.Sets n else e.Hides n) ∨ ∃ t ∈ s.stmts, t.Hides n := by
  constructor
  · rintro ⟨t, runs, hides⟩
    rcases runs_single.mp runs with rfl | ⟨u, within, runs⟩
    · exact .inl hides
    · exact .inr ⟨u, within, t, runs, hides⟩
  · rintro (hides | ⟨u, within, t, runs, hides⟩)
    · exact ⟨s, runs_single.mpr (.inl rfl), hides⟩
    · exact ⟨t, runs_single.mpr (.inr ⟨u, within, runs⟩), hides⟩

end Notebook.Tree

namespace Notebook.Cell

open Notebook.Source Notebook.Tree

/-! ### What looking for bindings finds -/

def foundIn (es : List Expr) : List String := es.flatMap fun e => bindingOccurrences e.outline

def foundAmong (ss : List Stmt) : List String := ss.flatMap fun s => bindingOccurrences s.outline

theorem found_node (m : Mark) (outer inner : List Outline) : bindingOccurrences (.node m outer inner)
    = Mark.bound m ++ if Mark.opens m then [] else bindingOccurrencesAll outer := by
  rw [bindingOccurrences]

theorem found_nil : bindingOccurrencesAll [] = [] := by rw [bindingOccurrencesAll]

theorem found_cons (o : Outline) (os : List Outline) :
    bindingOccurrencesAll (o :: os) = bindingOccurrences o ++ bindingOccurrencesAll os := by
  rw [bindingOccurrencesAll]

theorem found_append (os os' : List Outline) :
    bindingOccurrencesAll (os ++ os') = bindingOccurrencesAll os ++ bindingOccurrencesAll os' := by
  induction os with
  | nil => simp [found_nil]
  | cons o os ih => rw [List.cons_append, found_cons, found_cons, ih, List.append_assoc]

theorem foundIn_nil : foundIn [] = [] := rfl

theorem foundAmong_nil : foundAmong [] = [] := rfl

theorem foundIn_cons (e : Expr) (es : List Expr) :
    foundIn (e :: es) = bindingOccurrences e.outline ++ foundIn es := List.flatMap_cons

theorem foundIn_append (es es' : List Expr) : foundIn (es ++ es') = foundIn es ++ foundIn es' :=
  List.flatMap_append

theorem foundAmong_append (ss ss' : List Stmt) : foundAmong (ss ++ ss') = foundAmong ss ++ foundAmong ss' :=
  List.flatMap_append

theorem found_outlines (es : List Expr) : bindingOccurrencesAll (outlines es) = foundIn es := by
  induction es with
  | nil => rw [outlines, found_nil]; rfl
  | cons e es ih => rw [outlines, found_cons, ih, foundIn_cons]

theorem found_option (e : Option Expr) : bindingOccurrencesAll (optionOutline e) = foundIn e.toList := by
  cases e with
  | none => rw [optionOutline, found_nil]; rfl
  | some e => rw [optionOutline, found_cons, found_nil]; rfl

theorem found_keys (es : List (Entry Expr)) :
    bindingOccurrencesAll (keyOutlines es) = foundIn (es.filterMap (·.key)) := by
  induction es with
  | nil => rw [keyOutlines, found_nil]; rfl
  | cons e es ih =>
    obtain ⟨key, value⟩ := e
    rw [keyOutlines, found_append, found_option, ih]
    cases key <;> simp [foundIn]

theorem found_values (es : List (Entry Expr)) :
    bindingOccurrencesAll (valueOutlines es) = foundIn (es.map (·.value)) := by
  induction es with
  | nil => rw [valueOutlines, found_nil]; rfl
  | cons e es ih => rw [valueOutlines, found_cons, ih, List.map_cons, foundIn_cons]

theorem found_keywords (ks : List (Keyword Expr)) :
    bindingOccurrencesAll (keywordsOutline ks) = foundIn (ks.map (·.value)) := by
  induction ks with
  | nil => rw [keywordsOutline, found_nil]; rfl
  | cons k ks ih => rw [keywordsOutline, found_cons, ih, List.map_cons, foundIn_cons]

theorem found_stmts (ss : List Stmt) : bindingOccurrencesAll (stmtOutlines ss) = foundAmong ss := by
  induction ss with
  | nil => rw [stmtOutlines, found_nil]; rfl
  | cons s ss ih => rw [stmtOutlines, found_cons, ih]; rfl

theorem found_items (items : List WithItem) : bindingOccurrencesAll (items.map withItemOutline)
    = foundIn (items.flatMap fun w => w.context :: w.target.toList) := by
  induction items with
  | nil => rw [List.map_nil, found_nil]; rfl
  | cons w items ih =>
    rw [List.map_cons, found_cons, ih, withItemOutline, found_node, List.flatMap_cons, foundIn_append, foundIn_cons]
    simp [Mark.bound, Mark.opens, found_cons, found_option]

theorem bound_capture (name : Option String) : Mark.bound (.capture name) = name.toList := by
  cases name <;> rfl

mutual

theorem found_pattern (p : Pattern) (n : String) :
    n ∈ bindingOccurrences p.outline ↔ n ∈ p.captures ∨ n ∈ foundIn p.exprs := by
  match p with
  | .value _ e =>
    simp [Pattern.outline, found_node, found_cons, found_nil, Mark.bound, Mark.opens, Pattern.captures,
      Pattern.exprs, foundIn]
  | .singleton .. =>
    simp [Pattern.outline, Outline.leaf, found_node, found_nil, Mark.bound, Mark.opens, Pattern.captures,
      Pattern.exprs, foundIn]
  | .sequence _ ps | .or _ ps =>
    simp [Pattern.outline, found_node, Mark.bound, Mark.opens, Pattern.captures, Pattern.exprs,
      found_patterns ps]
  | .mapping _ ks ps r =>
    simp [Pattern.outline, found_node, bound_capture, Mark.opens, found_append, found_outlines, Pattern.captures,
      Pattern.exprs, foundIn_append, found_patterns ps, or_assoc, or_left_comm]
  | .class _ c ps _ named =>
    simp [Pattern.outline, found_node, Mark.bound, Mark.opens, found_cons, found_append, Pattern.captures,
      Pattern.exprs, foundIn_cons, foundIn_append, found_patterns ps, found_patterns named, or_assoc, or_left_comm]
  | .star _ r | .as _ none r =>
    simp [Pattern.outline, Outline.leaf, found_node, found_nil, bound_capture, Mark.opens, Pattern.captures,
      Pattern.exprs, foundIn]
  | .as _ (some q) r =>
    simp [Pattern.outline, found_node, found_cons, found_nil, bound_capture, Mark.opens, Pattern.captures,
      Pattern.exprs, found_pattern q, or_assoc]

theorem found_patterns (ps : List Pattern) (n : String) :
    n ∈ bindingOccurrencesAll (patternOutlines ps) ↔ n ∈ patternCaptures ps ∨ n ∈ foundIn (patternExprs ps) := by
  match ps with
  | [] => simp [patternOutlines, found_nil, patternCaptures, patternExprs, foundIn]
  | p :: ps =>
    simp [patternOutlines, found_cons, patternCaptures, patternExprs, foundIn_append, found_pattern p,
      found_patterns ps, or_assoc, or_left_comm]

end

theorem found_handlers (hs : List (Handler (List Stmt))) (n : String) :
    n ∈ bindingOccurrencesAll (handlerOutlines hs) ↔ n ∈ hs.filterMap (·.name) ∨
      n ∈ foundIn (hs.filterMap (·.type)) ∨ n ∈ foundAmong (hs.flatMap (·.body)) := by
  induction hs with
  | nil => simp [handlerOutlines, found_nil, foundIn, foundAmong]
  | cons h hs ih =>
    obtain ⟨pos, type, name, body⟩ := h
    have here : n ∈ bindingOccurrences (.node (.capture name) (optionOutline type ++ stmtOutlines body) []) ↔
        n ∈ name.toList ∨ n ∈ foundIn type.toList ∨ n ∈ foundAmong body := by
      simp [found_node, bound_capture, Mark.opens, found_append, found_option, found_stmts]
    rw [handlerOutlines, found_cons, List.mem_append, here, ih]
    cases name <;> cases type <;>
      simp [foundAmong_append, foundIn, or_assoc, or_left_comm, or_comm]

theorem found_cases (cs : List (MatchCase (List Stmt))) (n : String) :
    n ∈ bindingOccurrencesAll (caseOutlines cs) ↔ n ∈ cs.flatMap (·.pattern.captures) ∨
      n ∈ foundIn (cs.flatMap fun c => c.pattern.exprs ++ c.guard.toList) ∨
      n ∈ foundAmong (cs.flatMap (·.body)) := by
  induction cs with
  | nil => simp [caseOutlines, found_nil, foundIn, foundAmong]
  | cons c cs ih =>
    obtain ⟨p, guard, body⟩ := c
    have here : n ∈ bindingOccurrences (.node .plain (p.outline :: optionOutline guard ++ stmtOutlines body) []) ↔
        n ∈ p.captures ∨ n ∈ foundIn (p.exprs ++ guard.toList) ∨ n ∈ foundAmong body := by
      simp [found_node, Mark.bound, Mark.opens, found_cons, found_append, found_option, found_stmts,
        found_pattern, foundIn_append, or_assoc]
    rw [caseOutlines, found_cons, List.mem_append, here, ih, List.flatMap_cons, List.flatMap_cons,
      List.flatMap_cons, foundIn_append _ (cs.flatMap _), foundAmong_append]
    simp only [List.mem_append, or_assoc, or_left_comm]

/-- What is found in an expression: its own name if it is a target, and what is found in its parts unless it
opens a scope. -/
theorem found_expr (e : Expr) (n : String) : n ∈ bindingOccurrences e.outline ↔
    (∃ p, e = .name p n .store) ∨ e.opensScope = false ∧ n ∈ foundIn e.parts := by
  cases e with
  | name p id c =>
    cases c <;>
      simp [Expr.outline, Outline.leaf, found_node, found_nil, Mark.bound, Mark.opens, Expr.parts, foundIn_nil,
        eq_comm (a := n)]
  | _ =>
    simp [Expr.outline, Outline.leaf, found_node, found_cons, found_append, found_nil, found_outlines,
      found_option, found_keys, found_values, found_keywords, Mark.bound, Mark.opens, Expr.opensScope,
      Expr.parts, foundIn_cons, foundIn_append, foundIn_nil]

/-- What is found in a statement: what it introduces, and what is found in its expressions and in the
statements within unless it opens a scope. -/
theorem found_stmt (s : Stmt) (n : String) : n ∈ bindingOccurrences s.outline ↔
    n ∈ s.introduces ∨ s.opensScope = false ∧ n ∈ foundIn s.evaluated ∨ n ∈ foundAmong s.stmts := by
  cases s with
  | augAssign p t op v =>
    cases t <;>
      simp [Stmt.outline, Expr.outline, found_node, found_cons, found_nil, Mark.bound, Mark.opens,
        Stmt.opensScope, Stmt.introduces, Stmt.evaluated, Stmt.exprs, Stmt.annotations, Stmt.stmts,
        foundIn_cons, foundIn_nil, foundAmong_nil]
  | importFrom p m ns level slashless =>
    simp only [Stmt.outline, Stmt.introduces]
    split <;>
      simp [Outline.leaf, found_node, found_nil, Mark.bound, Mark.opens, Stmt.evaluated, Stmt.exprs,
        Stmt.annotations, Stmt.stmts, foundIn_nil, foundAmong_nil]
  | «for» p isAsync t i body orelse =>
    cases isAsync <;>
      simp [Stmt.outline, asyncMark, found_node, found_cons, found_append, found_stmts, Mark.bound, Mark.opens,
        Stmt.opensScope, Stmt.introduces, Stmt.evaluated, Stmt.exprs, Stmt.annotations, Stmt.stmts, foundIn_cons,
        foundIn_nil, foundAmong_append, or_assoc]
  | «with» p isAsync items body =>
    cases isAsync <;>
      simp [Stmt.outline, asyncMark, found_node, found_append, found_stmts, found_items, Mark.bound, Mark.opens,
        Stmt.opensScope, Stmt.introduces, Stmt.evaluated, Stmt.exprs, Stmt.annotations, Stmt.stmts]
  | _ =>
    simp [Stmt.outline, Outline.leaf, found_node, found_cons, found_append, found_nil, found_outlines,
      found_option, found_stmts, found_cases, found_handlers, Mark.bound, Mark.opens, Stmt.opensScope,
      Stmt.introduces, Stmt.evaluated, Stmt.exprs, Stmt.annotations, Stmt.stmts, foundIn_cons, foundIn_append,
      foundIn_nil, foundAmong_append, foundAmong_nil, or_assoc, or_left_comm]

/-! ### Against scoping -/

theorem sets_expr (e : Expr) (n : String) : e.Sets n ↔ n ∈ bindingOccurrences e.outline ∨ e.Hides n := by
  rw [found_expr]
  cases opens : e.opensScope with
  | true =>
    have unnamed (p : Pos) : e ≠ .name p n .store := by rintro rfl; cases opens
    simp only [unnamed, exists_false, Bool.true_eq_false, false_and, false_or]
    exact ⟨.here opens, Expr.Hides.sets⟩
  | false =>
    have plain : e.isComprehension = false := by cases e <;> first | rfl | cases opens
    have parts : (∃ p ∈ e.parts, p.Sets n) ↔ n ∈ foundIn e.parts ∨ ∃ p ∈ e.parts, p.Hides n := by
      simp only [foundIn, List.mem_flatMap, ← exists_or, ← and_or_left]
      exact exists_congr fun p => and_congr_right fun inside => sets_expr p n
    rw [Expr.sets_iff plain, Expr.hides_iff opens, parts, or_assoc]
    simp only [true_and]
termination_by sizeOf e
decreasing_by exact Expr.sizeOf_parts inside

theorem sets_stmt (s : Stmt) (n : String) : s.Sets n ↔ n ∈ bindingOccurrences s.outline ∨ s.Hides n := by
  have within : (∃ t ∈ s.stmts, t.Sets n) ↔ n ∈ foundAmong s.stmts ∨ ∃ t ∈ s.stmts, t.Hides n := by
    simp only [foundAmong, List.mem_flatMap, ← exists_or, ← and_or_left]
    exact exists_congr fun t => and_congr_right fun inside => sets_stmt t n
  have here : (∃ e ∈ s.evaluated, e.Sets n) ↔ (s.opensScope = false ∧ n ∈ foundIn s.evaluated) ∨
      ∃ e ∈ s.evaluated, if s.opensScope then e.Sets n else e.Hides n := by
    cases s.opensScope with
    | true => simp
    | false =>
      simp only [foundIn, List.mem_flatMap, true_and, Bool.false_eq_true, if_false, ← exists_or, ← and_or_left,
        sets_expr]
  rw [Stmt.sets_iff, Stmt.hides_iff, found_stmt, within, here]
  simp only [or_assoc, or_left_comm]
termination_by sizeOf s
decreasing_by exact Stmt.sizeOf_stmts inside

/-- Looking for bindings gives without repetition the names that a statement binds in the scope it runs in,
except those that it binds only from within a node that opens a scope. -/
theorem bindings_scoping (s : Stmt) :
    (bindings s).Nodup ∧ ∀ n, s.Sets n ↔ n ∈ bindings s ∨ s.Hides n := by
  refine ⟨nodup_eraseDups _, fun n => ?_⟩
  rw [bindings, List.mem_eraseDups]
  exact sets_stmt s n

def assignsInComprehension (n : String) : List Stmt → Bool
  | [.expr _ (.comp _ _ (.named _ (.name _ id .store) _) _)] => id == n
  | _ => false

/-- The name that the element of a comprehension assigns is bound by the statement and not found. -/
theorem not_bound_in_comprehension :
    ∃ s, Compiler.checkCell "[(y := x) for x in [1]]" = .ok [s] ∧ s.Sets "y" ∧ "y" ∉ bindings s := by
  have checked : ((Compiler.checkCell "[(y := x) for x in [1]]").toOption.any (assignsInComprehension "y")) = true := by
    decide +kernel
  obtain ⟨body, parsed, shape⟩ := Code.of_toOption_any checked
  unfold assignsInComprehension at shape
  split at shape
  next p q kind r t id v cs =>
    cases beq_iff_eq.mp shape
    refine ⟨_, parsed, ?_, ?_⟩
    · refine ⟨_, .own (List.mem_singleton_self _), .inr ⟨_, List.mem_cons_self, .past rfl ?_⟩⟩
      exact .part List.mem_cons_self (.here r t "y" v)
    · have none_ : bindings (.expr p (.comp q kind (.named r (.name t "y" .store) v) cs)) = [] := by
        simp [bindings, Stmt.outline, Expr.outline, found_node, found_cons, found_nil, Mark.bound, Mark.opens]
      simp [none_]
  next => cases shape

end Notebook.Cell
