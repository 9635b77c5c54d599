import Notebook.Cell.Compile
import Notebook.Proofs.Written
import Notebook.Realm

/-! Where a body may suspend: which of its statements and expressions belong to the scope that it runs in,
told from the trees alone, and that looking for suspensions looks at all of them but annotations of
parameters and results. -/

set_option autoImplicit false

namespace Notebook.Tree

/-- The defaults of parameters, which are evaluated where the function is made. -/
def Params.defaults {α : Type} (ps : Params α) : List α :=
  (ps.keyword ++ ps.positional ++ ps.plain).filterMap (·.default)

def Params.annotations {α : Type} (ps : Params α) : List α :=
  (ps.positional ++ ps.plain ++ ps.star.toList ++ ps.keyword ++ ps.doubleStar.toList).filterMap
    fun p => p.annotation

def Clause.parts (c : Clause Expr) : List Expr := c.target :: c.iter :: c.conditions

/-- The parts of an expression that belong to the scope in which it stands. Those of a comprehension count
among them, the body of an anonymous function does not. -/
def Expr.parts : Expr → List Expr
  | .boolOp _ _ es | .set _ es | .joined _ es | .list _ es _ | .tuple _ es _ => es
  | .named _ a b | .binOp _ a _ b | .subscript _ a b _ => [a, b]
  | .unaryOp _ _ e | .await _ e | .yieldFrom _ e | .attribute _ e .. | .starred _ e _ => [e]
  | .lambda _ ps _ => ps.defaults
  | .ifElse _ t b o => [t, b, o]
  | .dict _ es => es.filterMap (·.key) ++ es.map (·.value)
  | .comp _ _ e cs => e :: cs.flatMap Clause.parts
  | .dictComp _ k v cs => k :: v :: cs.flatMap Clause.parts
  | .yield _ e => e.toList
  | .compare _ l _ rs => l :: rs
  | .call _ f as ks => f :: as ++ ks.map (·.value)
  | .formatted _ v _ s => v :: s.toList
  | .slice _ l u s => l.toList ++ u.toList ++ s.toList
  | .const .. | .name .. => []

/-- Whether an expression suspends by itself. -/
def Expr.waits : Expr → Bool
  | .await .. => true
  | .comp _ _ _ cs | .dictComp _ _ _ cs => cs.any (·.isAsync)
  | _ => false

mutual

def Pattern.exprs : Pattern → List Expr
  | .value _ e => [e]
  | .singleton .. | .star .. | .as _ none _ => []
  | .sequence _ ps | .or _ ps => patternExprs ps
  | .mapping _ ks ps _ => ks ++ patternExprs ps
  | .class _ c ps _ named => c :: patternExprs ps ++ patternExprs named
  | .as _ (some p) _ => p.exprs

def patternExprs : List Pattern → List Expr
  | [] => []
  | p :: ps => p.exprs ++ patternExprs ps

end

/-- The expressions of a statement that belong to the scope in which it stands, without annotations of
parameters and results. -/
def Stmt.exprs : Stmt → List Expr
  | .function _ h _ => h.decorators ++ h.params.defaults
  | .class _ h _ => h.bases ++ h.keywords.map (·.value) ++ h.decorators
  | .return _ v => v.toList
  | .delete _ ts => ts
  | .assign _ ts v => ts ++ [v]
  | .augAssign _ t _ v => [t, v]
  | .annAssign _ t a v _ => t :: a :: v.toList
  | .for _ _ t i _ _ => [t, i]
  | .while _ t _ _ | .if _ t _ _ => [t]
  | .with _ _ items _ => items.flatMap fun w => w.context :: w.target.toList
  | .match _ e cs => e :: cs.flatMap fun c => c.pattern.exprs ++ c.guard.toList
  | .raise _ e c => e.toList ++ c.toList
  | .try _ _ _ hs _ _ => hs.filterMap (·.type)
  | .assert _ t m => t :: m.toList
  | .expr _ e => [e]
  | .import .. | .importFrom .. | .global .. | .nonlocal .. | .pass _ | .break _ | .continue _ => []

/-- Annotations of parameters and results, which are evaluated where the function is made. -/
def Stmt.annotations : Stmt → List Expr
  | .function _ h _ => h.params.annotations ++ h.returns.toList
  | _ => []

/-- All expressions of a statement that are evaluated in the scope in which it stands. -/
def Stmt.evaluated (s : Stmt) : List Expr := s.exprs ++ s.annotations

/-- The statements within a statement that belong to the scope in which it stands. -/
def Stmt.stmts : Stmt → List Stmt
  | .for _ _ _ _ body orelse | .while _ _ body orelse | .if _ _ body orelse => body ++ orelse
  | .with _ _ _ body => body
  | .match _ _ cs => cs.flatMap (·.body)
  | .try _ _ body hs orelse final => body ++ hs.flatMap (·.body) ++ orelse ++ final
  | _ => []

def Stmt.waits : Stmt → Bool
  | .for _ isAsync .. | .with _ isAsync .. => isAsync
  | _ => false

/-! Parts are smaller than what they are parts of. -/

theorem sizeOf_filterMap_lt {α β : Type} [SizeOf α] [SizeOf β] {f : α → Option β} {xs : List α} {b : β}
    (smaller : ∀ x, sizeOf (f x) < sizeOf x) (h : b ∈ xs.filterMap f) : sizeOf b < sizeOf xs := by
  obtain ⟨x, member, made⟩ := List.mem_filterMap.mp h
  have within := List.sizeOf_lt_of_mem member
  have inside := smaller x
  rw [made, Option.some.sizeOf_spec] at inside
  omega

theorem Params.sizeOf_defaults {ps : Params Expr} {e : Expr} (h : e ∈ ps.defaults) :
    sizeOf e < sizeOf ps := by
  have smaller (p : Param Expr) : sizeOf p.default < sizeOf p := by
    cases p
    simp only [Param.mk.sizeOf_spec]
    omega
  obtain ⟨positional, plain, star, keyword, doubleStar⟩ := ps
  rw [defaults, List.filterMap_append, List.filterMap_append, List.mem_append, List.mem_append] at h
  rcases h with (h | h) | h
  all_goals
    have within := sizeOf_filterMap_lt smaller h
    simp only [Params.mk.sizeOf_spec] at within ⊢
    omega

theorem sizeOf_clauses {cs : List (Clause Expr)} {c : Clause Expr} {e : Expr} (member : c ∈ cs)
    (h : e ∈ c.parts) : sizeOf e < sizeOf cs := by
  have within := List.sizeOf_lt_of_mem member
  obtain ⟨target, iter, conditions, isAsync⟩ := c
  simp only [Clause.parts, List.mem_cons] at h
  simp only [Clause.mk.sizeOf_spec] at within
  rcases h with rfl | rfl | h
  · omega
  · omega
  · have := List.sizeOf_lt_of_mem h
    omega

theorem sizeOf_keyword {ks : List (Keyword Expr)} {k : Keyword Expr} (member : k ∈ ks) :
    sizeOf k.value < sizeOf ks := by
  have within := List.sizeOf_lt_of_mem member
  obtain ⟨p, name, value⟩ := k
  simp only [Keyword.mk.sizeOf_spec] at within
  dsimp only
  omega

theorem sizeOf_value {es : List (Entry Expr)} {x : Entry Expr} (member : x ∈ es) :
    sizeOf x.value < sizeOf es := by
  have within := List.sizeOf_lt_of_mem member
  obtain ⟨key, value⟩ := x
  simp only [Entry.mk.sizeOf_spec] at within
  dsimp only
  omega

theorem sizeOf_key {es : List (Entry Expr)} {x : Entry Expr} {e : Expr} (member : x ∈ es)
    (h : x.key = some e) : sizeOf e < sizeOf es := by
  have within := List.sizeOf_lt_of_mem member
  obtain ⟨key, value⟩ := x
  cases h
  simp only [Entry.mk.sizeOf_spec, Option.some.sizeOf_spec] at within
  omega

theorem Expr.sizeOf_parts {e p : Expr} (h : p ∈ e.parts) : sizeOf p < sizeOf e := by
  cases e <;>
    simp only [Expr.parts, List.mem_cons, List.mem_append, Option.mem_toList, List.mem_flatMap,
      List.mem_map, List.mem_filterMap, List.not_mem_nil, or_false] at h <;>
    simp only [boolOp.sizeOf_spec, named.sizeOf_spec, binOp.sizeOf_spec, unaryOp.sizeOf_spec,
      lambda.sizeOf_spec, ifElse.sizeOf_spec, dict.sizeOf_spec, set.sizeOf_spec, comp.sizeOf_spec,
      dictComp.sizeOf_spec, await.sizeOf_spec, yield.sizeOf_spec, yieldFrom.sizeOf_spec,
      compare.sizeOf_spec, call.sizeOf_spec, formatted.sizeOf_spec, joined.sizeOf_spec,
      attribute.sizeOf_spec, subscript.sizeOf_spec, starred.sizeOf_spec, list.sizeOf_spec,
      tuple.sizeOf_spec, slice.sizeOf_spec] <;>
    grind [→ List.sizeOf_lt_of_mem, → sizeOf_clauses, → Params.sizeOf_defaults, Option.some.sizeOf_spec,
      → sizeOf_keyword, → sizeOf_key, → sizeOf_value]

theorem Stmt.sizeOf_stmts {s t : Stmt} (h : t ∈ s.stmts) : sizeOf t < sizeOf s := by
  have handlers {hs : List (Handler (List Stmt))} {x : Handler (List Stmt)} (member : x ∈ hs)
      (within : t ∈ x.body) : sizeOf t < sizeOf hs := by
    have outer := List.sizeOf_lt_of_mem member
    have inner := List.sizeOf_lt_of_mem within
    obtain ⟨p, type, name, body⟩ := x
    simp only [Handler.mk.sizeOf_spec] at outer inner
    omega
  have cases_ {cs : List (MatchCase (List Stmt))} {x : MatchCase (List Stmt)} (member : x ∈ cs)
      (within : t ∈ x.body) : sizeOf t < sizeOf cs := by
    have outer := List.sizeOf_lt_of_mem member
    have inner := List.sizeOf_lt_of_mem within
    obtain ⟨p, guard, body⟩ := x
    simp only [MatchCase.mk.sizeOf_spec] at outer inner
    omega
  cases s <;>
    simp only [Stmt.stmts, List.mem_append, List.mem_flatMap, List.not_mem_nil] at h <;>
    simp only [«for».sizeOf_spec, «while».sizeOf_spec, «if».sizeOf_spec, «with».sizeOf_spec,
      «match».sizeOf_spec, «try».sizeOf_spec] <;>
    grind [→ List.sizeOf_lt_of_mem]

end Notebook.Tree

namespace Notebook.Cell

open Notebook.Tree

def anySuspends (es : List Expr) : Bool := es.any fun e => suspends e.outline

theorem suspendsAny_eq (os : List Outline) : suspendsAny os = os.any suspends := by
  induction os with
  | nil => rfl
  | cons o os ih => rw [suspendsAny, ih, List.any_cons]

theorem suspendsAny_append (os os' : List Outline) :
    suspendsAny (os ++ os') = (suspendsAny os || suspendsAny os') := by
  simp [suspendsAny_eq]

theorem asyncMark_suspend (isAsync : Bool) : (asyncMark isAsync == .suspend) = isAsync := by
  cases isAsync <;> rfl

theorem suspendsAny_outlines (es : List Expr) : suspendsAny (outlines es) = anySuspends es := by
  induction es with
  | nil => simp [outlines, suspendsAny, anySuspends]
  | cons e es ih => simp [outlines, suspendsAny, ih, anySuspends]

theorem suspendsAny_option (e : Option Expr) :
    suspendsAny (optionOutline e) = anySuspends e.toList := by
  cases e <;> simp [optionOutline, suspendsAny, anySuspends]

theorem suspendsAny_keys (es : List (Entry Expr)) :
    suspendsAny (keyOutlines es) = anySuspends (es.filterMap (·.key)) := by
  induction es with
  | nil => simp [keyOutlines, suspendsAny, anySuspends]
  | cons e es ih =>
    obtain ⟨key, value⟩ := e
    cases key <;> simp_all [keyOutlines, suspendsAny_append, suspendsAny_option, anySuspends]

theorem suspendsAny_values (es : List (Entry Expr)) :
    suspendsAny (valueOutlines es) = anySuspends (es.map (·.value)) := by
  induction es with
  | nil => simp [valueOutlines, suspendsAny, anySuspends]
  | cons e es ih => simp_all [valueOutlines, suspendsAny, anySuspends]

theorem suspendsAny_keywords (ks : List (Keyword Expr)) :
    suspendsAny (keywordsOutline ks) = anySuspends (ks.map (·.value)) := by
  induction ks with
  | nil => simp [keywordsOutline, suspendsAny, anySuspends]
  | cons k ks ih => simp_all [keywordsOutline, suspendsAny, anySuspends]

theorem suspendsAny_clauses (cs : List (Clause Expr)) :
    suspendsAny (clausesOutline cs) = (cs.any (·.isAsync) || anySuspends (cs.flatMap Clause.parts)) := by
  induction cs with
  | nil => simp [clausesOutline, suspendsAny, anySuspends]
  | cons c cs ih =>
    simp only [clausesOutline, suspendsAny, suspends, asyncMark_suspend, suspendsAny_outlines, ih,
      anySuspends, List.any_cons, List.flatMap_cons, List.any_append, Clause.parts]
    ac_rfl

theorem suspendsAny_paramDefaults (ps : List (Param Expr)) :
    suspendsAny (paramListDefaults ps) = anySuspends (ps.filterMap (·.default)) := by
  induction ps with
  | nil => simp [paramListDefaults, suspendsAny, anySuspends]
  | cons p ps ih =>
    obtain ⟨pos, name, annotation, given⟩ := p
    cases given <;>
      simp_all [paramListDefaults, paramDefault, suspendsAny_append, suspendsAny_option, anySuspends]

theorem suspendsAny_defaults (ps : Params Expr) :
    suspendsAny (paramsDefaults ps) = anySuspends ps.defaults := by
  rw [paramsDefaults, suspendsAny_append, suspendsAny_append, suspendsAny_paramDefaults,
    suspendsAny_paramDefaults, suspendsAny_paramDefaults]
  simp [anySuspends, Params.defaults, Bool.or_assoc]

theorem plain_or (b : Bool) : (Mark.plain == .suspend || b) = b := rfl

theorem scope_or (b : Bool) : (Mark.scope == .suspend || b) = b := rfl

theorem suspends_expr (e : Expr) : suspends e.outline = (e.waits || anySuspends e.parts) := by
  cases e with
  | comp p kind e cs =>
    simp only [Expr.outline, suspends, suspendsAny, suspendsAny_clauses, Expr.waits, Expr.parts,
      anySuspends, List.any_cons, scope_or, Bool.or_left_comm]
  | dictComp p k v cs =>
    simp only [Expr.outline, suspends, suspendsAny, suspendsAny_clauses, Expr.waits, Expr.parts,
      anySuspends, List.any_cons, scope_or, Bool.or_left_comm]
  | _ =>
    simp [Expr.outline, Outline.leaf, suspends, suspendsAny, Expr.waits, Expr.parts, suspendsAny_append,
      suspendsAny_outlines, suspendsAny_option, suspendsAny_keys, suspendsAny_values,
      suspendsAny_keywords, suspendsAny_defaults, anySuspends]

mutual

theorem suspendsAny_pattern : ∀ p : Pattern, suspends p.outline = anySuspends p.exprs
  | .value _ e => by simp [Pattern.outline, Pattern.exprs, suspends, suspendsAny, anySuspends]
  | .singleton .. | .star .. | .as _ none _ => by
    simp [Pattern.outline, Pattern.exprs, Outline.leaf, suspends, suspendsAny, anySuspends]
  | .sequence _ ps | .or _ ps => by
    simp [Pattern.outline, Pattern.exprs, suspends, suspendsAny_patterns ps]
  | .mapping _ ks ps rest => by
    simp [Pattern.outline, Pattern.exprs, suspends, suspendsAny_append, suspendsAny_outlines,
      suspendsAny_patterns ps, anySuspends]
  | .class _ c ps _ named => by
    simp [Pattern.outline, Pattern.exprs, suspends, suspendsAny, suspendsAny_append,
      suspendsAny_patterns ps, suspendsAny_patterns named, anySuspends]
  | .as _ (some p) n => by
    simp [Pattern.outline, Pattern.exprs, suspends, suspendsAny, suspendsAny_pattern p]

theorem suspendsAny_patterns : ∀ ps : List Pattern,
    suspendsAny (patternOutlines ps) = anySuspends (patternExprs ps)
  | [] => by simp [patternOutlines, patternExprs, suspendsAny, anySuspends]
  | p :: ps => by
    have first := suspendsAny_pattern p
    have rest := suspendsAny_patterns ps
    simp_all [patternOutlines, patternExprs, suspendsAny, anySuspends]

end

theorem suspendsAny_items (items : List WithItem) :
    suspendsAny (items.map withItemOutline)
      = anySuspends (items.flatMap fun w => w.context :: w.target.toList) := by
  induction items with
  | nil => simp [suspendsAny, anySuspends]
  | cons w items ih =>
    simp_all [withItemOutline, suspendsAny, suspends, suspendsAny_option, anySuspends, plain_or,
      Bool.or_assoc]

theorem suspendsAny_stmts (ss : List Stmt) : suspendsAny (stmtOutlines ss) = hasTopLevelAwait ss := rfl

theorem hasTopLevelAwait_append (ss ss' : List Stmt) :
    hasTopLevelAwait (ss ++ ss') = (hasTopLevelAwait ss || hasTopLevelAwait ss') := by
  induction ss with
  | nil => simp [hasTopLevelAwait, stmtOutlines, suspendsAny]
  | cons s ss ih => simp_all [hasTopLevelAwait, stmtOutlines, suspendsAny, Bool.or_assoc]

theorem suspendsAny_handlers (hs : List (Handler (List Stmt))) :
    suspendsAny (handlerOutlines hs)
      = (anySuspends (hs.filterMap (·.type)) || hasTopLevelAwait (hs.flatMap (·.body))) := by
  induction hs with
  | nil => simp [handlerOutlines, suspendsAny, anySuspends, hasTopLevelAwait, stmtOutlines]
  | cons h hs ih =>
    obtain ⟨p, t, n, body⟩ := h
    have here : suspends (.node (.capture n) (optionOutline t ++ stmtOutlines body) [])
        = (anySuspends t.toList || hasTopLevelAwait body) := by
      simp [suspends, suspendsAny_append, suspendsAny_option, hasTopLevelAwait]
    rw [handlerOutlines, suspendsAny, here, ih, List.flatMap_cons, hasTopLevelAwait_append]
    cases t with
    | none => simp [anySuspends, Bool.or_left_comm]
    | some t => simp [anySuspends, Bool.or_left_comm, Bool.or_assoc]

theorem suspendsAny_cases (cs : List (MatchCase (List Stmt))) :
    suspendsAny (caseOutlines cs)
      = (anySuspends (cs.flatMap fun c => c.pattern.exprs ++ c.guard.toList)
        || hasTopLevelAwait (cs.flatMap (·.body))) := by
  induction cs with
  | nil => simp [caseOutlines, suspendsAny, anySuspends, hasTopLevelAwait, stmtOutlines]
  | cons c cs ih =>
    obtain ⟨p, g, body⟩ := c
    have here : suspends (.node .plain (p.outline :: optionOutline g ++ stmtOutlines body) [])
        = (anySuspends (p.exprs ++ g.toList) || hasTopLevelAwait body) := by
      simp [suspends, suspendsAny, suspendsAny_append, suspendsAny_option, suspendsAny_pattern,
        hasTopLevelAwait, anySuspends, Bool.or_assoc]
    rw [caseOutlines, suspendsAny, here, ih, List.flatMap_cons, List.flatMap_cons,
      hasTopLevelAwait_append]
    simp [anySuspends, Bool.or_left_comm, Bool.or_assoc]

/-- A statement suspends if it does by itself, or one of its expressions does, or a statement within. -/
theorem suspends_stmt (s : Stmt) :
    suspends s.outline = (s.waits || anySuspends s.exprs || hasTopLevelAwait s.stmts) := by
  have none_ : hasTopLevelAwait [] = false := rfl
  cases s with
  | augAssign p t op v =>
    cases t <;>
      simp [Stmt.outline, suspends, suspendsAny, Stmt.waits, Stmt.exprs, Stmt.stmts, anySuspends, none_,
        Expr.outline]
  | importFrom p m ns level slashless =>
    simp only [Stmt.outline]
    split <;>
      simp [Outline.leaf, suspends, suspendsAny, Stmt.waits, Stmt.exprs, Stmt.stmts, anySuspends, none_]
  | «try» p star body hs orelse final =>
    simp [Stmt.outline, suspends, suspendsAny_append, suspendsAny_handlers, suspendsAny_stmts, Stmt.waits,
      Stmt.exprs, Stmt.stmts, hasTopLevelAwait_append, plain_or, Bool.or_assoc,
      Bool.or_left_comm (hasTopLevelAwait body)]
  | _ =>
    simp [Stmt.outline, Outline.leaf, suspends, suspendsAny, Stmt.waits, Stmt.exprs, Stmt.stmts,
      suspendsAny_append, suspendsAny_outlines, suspendsAny_option, suspendsAny_keywords,
      suspendsAny_defaults, suspendsAny_items, suspendsAny_cases, suspendsAny_stmts,
      anySuspends, none_, asyncMark_suspend, hasTopLevelAwait_append, plain_or, Bool.or_assoc]

inductive Runs (body : List Stmt) : Stmt → Prop
  | own {s : Stmt} (member : s ∈ body) : Runs body s
  | inner {s t : Stmt} (runs : Runs body s) (inside : t ∈ s.stmts) : Runs body t

/-- The expressions that belong to the scope of a body as parts of some that its statements have. -/
inductive Evaluates (some_ : Stmt → List Expr) (body : List Stmt) : Expr → Prop
  | own {s : Stmt} {e : Expr} (runs : Runs body s) (member : e ∈ some_ s) : Evaluates some_ body e
  | part {e p : Expr} (evaluates : Evaluates some_ body e) (inside : p ∈ e.parts) : Evaluates some_ body p

theorem hasTopLevelAwait_eq (body : List Stmt) :
    hasTopLevelAwait body = body.any fun s => suspends s.outline := by
  induction body with
  | nil => rfl
  | cons s body ih =>
    rw [← List.singleton_append, hasTopLevelAwait_append, ih]
    simp [hasTopLevelAwait, stmtOutlines, suspendsAny]

theorem Runs.found {body : List Stmt} {s : Stmt} (runs : Runs body s) (here : suspends s.outline = true) :
    hasTopLevelAwait body = true := by
  induction runs with
  | own member =>
    rw [hasTopLevelAwait_eq]
    exact List.any_eq_true.mpr ⟨_, member, here⟩
  | @inner s t _ inside ih =>
    refine ih ?_
    have within : hasTopLevelAwait s.stmts = true := by
      rw [hasTopLevelAwait_eq]
      exact List.any_eq_true.mpr ⟨t, inside, here⟩
    simp [suspends_stmt, within]

theorem Evaluates.found {body : List Stmt} {e : Expr} (h : Evaluates Stmt.exprs body e)
    (here : suspends e.outline = true) : hasTopLevelAwait body = true := by
  induction h with
  | @own s e runs member =>
    refine runs.found ?_
    have within : anySuspends s.exprs = true := List.any_eq_true.mpr ⟨e, member, here⟩
    simp [suspends_stmt, within]
  | @part e p _ inside ih =>
    refine ih ?_
    have within : anySuspends e.parts = true := List.any_eq_true.mpr ⟨p, inside, here⟩
    simp [suspends_expr, within]

/-- Whether something in the scope of a body suspends by itself: a statement that it runs, or an expression
among those that its statements have, or a part of one. -/
def Waits (some_ : Stmt → List Expr) (body : List Stmt) : Prop :=
  (∃ s, Runs body s ∧ s.waits = true) ∨ ∃ e, Evaluates some_ body e ∧ e.waits = true

theorem Evaluates.waits {some_ : Stmt → List Expr} {body : List Stmt} {e : Expr}
    (h : Evaluates some_ body e) (here : suspends e.outline = true) : Waits some_ body := by
  rw [suspends_expr, Bool.or_eq_true] at here
  rcases here with itself | within
  · exact .inr ⟨e, h, itself⟩
  · obtain ⟨p, inside, here⟩ := List.any_eq_true.mp within
    exact (h.part inside).waits here
termination_by sizeOf e
decreasing_by exact Expr.sizeOf_parts inside

theorem Runs.waits {body : List Stmt} {s : Stmt} (h : Runs body s) (here : suspends s.outline = true) :
    Waits Stmt.exprs body := by
  rw [suspends_stmt, Bool.or_eq_true, Bool.or_eq_true] at here
  rcases here with (itself | within) | within
  · exact .inl ⟨s, h, itself⟩
  · obtain ⟨e, inside, here⟩ := List.any_eq_true.mp within
    exact (Evaluates.own h inside).waits here
  · rw [hasTopLevelAwait_eq] at within
    obtain ⟨t, inside, here⟩ := List.any_eq_true.mp within
    exact (h.inner inside).waits here
termination_by sizeOf s
decreasing_by exact Stmt.sizeOf_stmts inside

/-- Looking for suspensions finds those in the scope of a body, annotations of parameters and results
apart, and no others. -/
theorem hasTopLevelAwait_iff (body : List Stmt) :
    hasTopLevelAwait body = true ↔ Waits Stmt.exprs body := by
  refine ⟨fun h => ?_, fun h => ?_⟩
  · rw [hasTopLevelAwait_eq] at h
    obtain ⟨s, member, here⟩ := List.any_eq_true.mp h
    exact (Runs.own member).waits here
  · obtain ⟨s, runs, itself⟩ | ⟨e, evaluates, itself⟩ := h
    · exact runs.found (by simp [suspends_stmt, itself])
    · exact evaluates.found (by simp [suspends_expr, itself])

theorem evaluates_evaluated {body : List Stmt} {e : Expr} :
    Evaluates Stmt.evaluated body e ↔ Evaluates Stmt.exprs body e ∨ Evaluates Stmt.annotations body e := by
  constructor
  · intro h
    induction h with
    | own runs member =>
      exact (List.mem_append.mp member).imp (.own runs) (.own runs)
    | part _ inside ih => exact ih.imp (.part · inside) (.part · inside)
  · rintro (h | h)
    · induction h with
      | own runs member => exact .own runs (List.mem_append_left _ member)
      | part _ inside ih => exact .part ih inside
    · induction h with
      | own runs member => exact .own runs (List.mem_append_right _ member)
      | part _ inside ih => exact .part ih inside

/-- Something suspends in the scope of a body just if looking for it finds it, or it stands in an
annotation of a parameter or a result. -/
theorem waits_iff (body : List Stmt) :
    Waits Stmt.evaluated body ↔
      hasTopLevelAwait body = true ∨ ∃ e, Evaluates Stmt.annotations body e ∧ e.waits = true := by
  rw [hasTopLevelAwait_iff]
  unfold Waits
  simp only [evaluates_evaluated, or_and_right, exists_or, or_assoc]

/-- What a text is refused for, if it is. -/
def faultMessage {α : Type} : Except Source.Fault α → Option String
  | .error fault => some fault.message
  | .ok _ => none

set_option maxRecDepth 100000 in
/-- What suspends in the annotation of a parameter is not found, and the body does not compile. -/
theorem not_found_in_annotation :
    let src := "async def g():\n    return int\ndef f(x: await g()):\n    return x\nf(3)"
    ∃ body, Compiler.checkCell src = .ok body ∧ hasTopLevelAwait body = false ∧
      faultMessage (Code.compile { file := "<cell-1>" }
        [Realm.wrap (preloads [] body ++ (bodyStmts body).1) false]) = some "'await' outside async function" := by
  intro src
  have checked : ((Compiler.checkCell src).toOption.any fun body => !hasTopLevelAwait body &&
      faultMessage (Code.compile { file := "<cell-1>" }
        [Realm.wrap (preloads [] body ++ (bodyStmts body).1) false]) == some "'await' outside async function")
        = true := by
    decide +kernel
  obtain ⟨body, parsed, both⟩ := Code.of_toOption_any checked
  obtain ⟨unseen, refused⟩ := Bool.and_eq_true_iff.mp both
  exact ⟨body, parsed, by simpa using unseen, beq_iff_eq.mp refused⟩

end Notebook.Cell
