import Notebook.Cell.Names
import Notebook.Proofs.Suspension

/-! Where names occur in a body: what every statement and every expression does to names by itself, in
whatever scope it stands, and that the marks of a body show just that. -/

set_option autoImplicit false

namespace Notebook.Tree

/-! ### Scopes within -/

def Params.all {α : Type} (ps : Params α) : List (Param α) :=
  ps.positional ++ ps.plain ++ ps.star.toList ++ ps.keyword ++ ps.doubleStar.toList

def Params.names {α : Type} (ps : Params α) : List String := ps.all.map (·.name)

def Expr.inside : Expr → List Expr
  | .lambda _ ps b => ps.annotations ++ [b]
  | _ => []

def Expr.children (e : Expr) : List Expr := e.parts ++ e.inside

def Stmt.inside : Stmt → List Stmt
  | .function _ _ body | .class _ _ body => body
  | _ => []

def Stmt.children (s : Stmt) : List Stmt := s.stmts ++ s.inside

theorem Params.sizeOf_annotations {ps : Params Expr} {e : Expr} (h : e ∈ ps.annotations) :
    sizeOf e < sizeOf ps := by
  have smaller (p : Param Expr) : sizeOf p.annotation < sizeOf p := by
    cases p
    simp only [Param.mk.sizeOf_spec]
    omega
  obtain ⟨p, member, given⟩ := List.mem_filterMap.mp h
  have inner := smaller p
  rw [given, Option.some.sizeOf_spec] at inner
  obtain ⟨positional, plain, star, keyword, doubleStar⟩ := ps
  simp only [List.mem_append, Option.mem_toList] at member
  simp only [Params.mk.sizeOf_spec]
  rcases member with (((member | member) | rfl) | member) | rfl
  all_goals first
    | (have within := List.sizeOf_lt_of_mem member; omega)
    | (simp only [Option.some.sizeOf_spec]; omega)

theorem Expr.sizeOf_children {e p : Expr} (h : p ∈ e.children) : sizeOf p < sizeOf e := by
  rcases List.mem_append.mp h with part | inside
  · exact sizeOf_parts part
  · unfold Expr.inside at inside
    split at inside
    next ps b =>
      rw [lambda.sizeOf_spec]
      rcases List.mem_append.mp inside with given | body
      · have := Params.sizeOf_annotations given
        omega
      · rw [List.mem_singleton.mp body]
        omega
    next => cases inside

theorem Stmt.sizeOf_children {s t : Stmt} (h : t ∈ s.children) : sizeOf t < sizeOf s := by
  rcases List.mem_append.mp h with within | inside
  · exact sizeOf_stmts within
  · unfold Stmt.inside at inside
    split at inside
    next =>
      have := List.sizeOf_lt_of_mem inside
      rw [function.sizeOf_spec]
      omega
    next =>
      have := List.sizeOf_lt_of_mem inside
      rw [«class».sizeOf_spec]
      omega
    next => cases inside

inductive Lies (body : List Stmt) : Stmt → Prop
  | own {s : Stmt} (member : s ∈ body) : Lies body s
  | inner {s t : Stmt} (stands : Lies body s) (inside : t ∈ s.children) : Lies body t

inductive Occurs (body : List Stmt) : Expr → Prop
  | own {s : Stmt} {e : Expr} (stands : Lies body s) (member : e ∈ s.evaluated) : Occurs body e
  | part {e p : Expr} (occurs : Occurs body e) (inside : p ∈ e.children) : Occurs body p

/-! ### What is done to names -/

mutual

def Pattern.captures : Pattern → List String
  | .value .. | .singleton .. => []
  | .sequence _ ps | .or _ ps => patternCaptures ps
  | .mapping _ _ ps rest => rest.toList ++ patternCaptures ps
  | .class _ _ ps _ named => patternCaptures ps ++ patternCaptures named
  | .star _ n | .as _ none n => n.toList
  | .as _ (some p) n => n.toList ++ p.captures

def patternCaptures : List Pattern → List String
  | [] => []
  | p :: ps => p.captures ++ patternCaptures ps

end

/-- The names that an expression by itself binds or unbinds: as a target, or as parameters. -/
def Expr.binds : Expr → List String
  | .name _ _ .load => []
  | .name _ n _ => [n]
  | .lambda _ ps _ => ps.names
  | _ => []

/-- The names that a statement by itself binds, apart from its targets. -/
def Stmt.binds : Stmt → List String
  | .function _ h _ => h.name :: h.params.names
  | .class _ h _ => [h.name]
  | .import _ ns => ns.map (·.binding false)
  | .importFrom _ _ ns _ _ => ns.map (·.binding true)
  | .global _ ns | .nonlocal _ ns => ns
  | .try _ _ _ hs _ _ => hs.filterMap (·.name)
  | .match _ _ cs => cs.flatMap (·.pattern.captures)
  | _ => []

/-- Whether a name is bound somewhere in a body: as the target of an assignment or a deletion, by a
definition, as a parameter, by an import, as a caught exception, by a declaration or by a pattern. -/
def Binds (body : List Stmt) (n : String) : Prop :=
  (∃ s, Lies body s ∧ n ∈ s.binds) ∨ ∃ e, Occurs body e ∧ n ∈ e.binds

/-- Whether a name is read at a place, by itself or in an augmented assignment. -/
def Loads (body : List Stmt) (p : Source.Pos) (n : String) : Prop :=
  Occurs body (.name p n .load) ∨ ∃ q c op v, Lies body (.augAssign q (.name p n c) op v)

end Notebook.Tree

namespace Notebook.Cell

open Notebook.Source Notebook.Tree

/-! ### Marks -/

structure Quiet (show_ : Mark → Bool) : Prop where
  plain : show_ .plain = false
  suspend : show_ .suspend = false
  scope : show_ .scope = false
  capture : show_ (.capture none) = false

def shows (show_ : Mark → Bool) (o : Outline) : Bool := (marks o).any show_

def anyShows (show_ : Mark → Bool) (os : List Outline) : Bool := (marksAll os).any show_

def exprShows (show_ : Mark → Bool) (es : List Expr) : Bool := es.any fun e => shows show_ e.outline

def stmtShows (show_ : Mark → Bool) (ss : List Stmt) : Bool := ss.any fun s => shows show_ s.outline

/-- What an expression shows by itself. -/
def Expr.own (show_ : Mark → Bool) : Expr → Bool
  | .name p n c => show_ (.name p n c)
  | .lambda _ ps _ => ps.names.any fun n => show_ (.param n)
  | _ => false

/-- What a statement shows by itself. -/
def Stmt.own (show_ : Mark → Bool) : Stmt → Bool
  | .function _ h _ => show_ (.definition h.name) || h.params.names.any fun n => show_ (.param n)
  | .class _ h _ => show_ (.definition h.name)
  | .augAssign _ (.name p n _) _ _ => show_ (.update p n)
  | .import _ ns => show_ (.imports (ns.map (·.binding false)))
  | .importFrom _ m ns _ _ =>
    if m = some "__future__" then show_ (.features (ns.map (·.binding true)))
    else show_ (.imports (ns.map (·.binding true)))
  | .global _ ns => show_ (.global ns)
  | .nonlocal _ ns => show_ (.nonlocal ns)
  | .try _ _ _ hs _ _ => hs.any fun h => show_ (.capture h.name)
  | .match _ _ cs => cs.any fun c => c.pattern.captures.any fun n => show_ (.capture (some n))
  | _ => false

section

variable {show_ : Mark → Bool}

theorem shows_node (m : Mark) (outer inner : List Outline) :
    shows show_ (.node m outer inner) = (show_ m || anyShows show_ outer || anyShows show_ inner) := by
  simp [shows, anyShows, marks, Bool.or_assoc]

theorem anyShows_nil : anyShows show_ [] = false := rfl

theorem anyShows_cons (o : Outline) (os : List Outline) :
    anyShows show_ (o :: os) = (shows show_ o || anyShows show_ os) := by
  simp [shows, anyShows, marksAll]

theorem anyShows_append (os os' : List Outline) :
    anyShows show_ (os ++ os') = (anyShows show_ os || anyShows show_ os') := by
  induction os with
  | nil => simp [anyShows_nil]
  | cons o os ih => rw [List.cons_append, anyShows_cons, anyShows_cons, ih, Bool.or_assoc]

theorem exprShows_append (es es' : List Expr) :
    exprShows show_ (es ++ es') = (exprShows show_ es || exprShows show_ es') := List.any_append

theorem exprShows_cons (e : Expr) (es : List Expr) :
    exprShows show_ (e :: es) = (shows show_ e.outline || exprShows show_ es) := rfl

theorem exprShows_nil : exprShows show_ [] = false := rfl

theorem anyShows_outlines (es : List Expr) : anyShows show_ (outlines es) = exprShows show_ es := by
  induction es with
  | nil => rfl
  | cons e es ih => rw [outlines, anyShows_cons, ih, exprShows_cons]

theorem anyShows_option (e : Option Expr) : anyShows show_ (optionOutline e) = exprShows show_ e.toList := by
  cases e with
  | none => rfl
  | some e => rw [optionOutline, anyShows_cons]; rfl

theorem anyShows_keys (es : List (Entry Expr)) :
    anyShows show_ (keyOutlines es) = exprShows show_ (es.filterMap (·.key)) := by
  induction es with
  | nil => rfl
  | cons e es ih =>
    obtain ⟨key, value⟩ := e
    cases key <;> simp [keyOutlines, anyShows_append, anyShows_option, ih, exprShows]

theorem anyShows_values (es : List (Entry Expr)) :
    anyShows show_ (valueOutlines es) = exprShows show_ (es.map (·.value)) := by
  induction es with
  | nil => rfl
  | cons e es ih => rw [valueOutlines, anyShows_cons, ih]; rfl

theorem anyShows_keywords (ks : List (Keyword Expr)) :
    anyShows show_ (keywordsOutline ks) = exprShows show_ (ks.map (·.value)) := by
  induction ks with
  | nil => rfl
  | cons k ks ih => rw [keywordsOutline, anyShows_cons, ih]; rfl

theorem anyShows_paramDefaults (ps : List (Param Expr)) :
    anyShows show_ (paramListDefaults ps) = exprShows show_ (ps.filterMap (·.default)) := by
  induction ps with
  | nil => rfl
  | cons p ps ih =>
    obtain ⟨pos, name, note, given⟩ := p
    cases given <;> simp [paramListDefaults, paramDefault, anyShows_append, anyShows_option, ih, exprShows]

theorem anyShows_defaults (ps : Params Expr) :
    anyShows show_ (paramsDefaults ps) = exprShows show_ ps.defaults := by
  rw [paramsDefaults, anyShows_append, anyShows_append, anyShows_paramDefaults, anyShows_paramDefaults,
    anyShows_paramDefaults]
  simp [Params.defaults, exprShows_append, Bool.or_assoc]

theorem shows_param (p : Param Expr) :
    shows show_ (paramOutline p) = (show_ (.param p.name) || exprShows show_ p.annotation.toList) := by
  obtain ⟨pos, name, note, given⟩ := p
  simp [paramOutline, shows_node, anyShows_option, anyShows_nil]

theorem anyShows_paramList (ps : List (Param Expr)) :
    anyShows show_ (paramListOutline ps)
      = (ps.any (fun p => show_ (.param p.name)) || exprShows show_ (ps.filterMap fun p => p.annotation)) := by
  induction ps with
  | nil => rfl
  | cons p ps ih =>
    rw [paramListOutline, anyShows_cons, ih, shows_param]
    cases given : p.annotation <;> simp [exprShows, given, Bool.or_left_comm, Bool.or_assoc]

theorem paramsOutline_eq (ps : Params Expr) : paramsOutline ps
    = paramListOutline ps.positional ++ paramListOutline ps.plain ++ paramListOutline ps.star.toList
      ++ paramListOutline ps.keyword ++ paramListOutline ps.doubleStar.toList := by
  obtain ⟨positional, plain, star, keyword, doubleStar⟩ := ps
  cases star <;> cases doubleStar <;> rfl

theorem paramListOutline_append (ps qs : List (Param Expr)) :
    paramListOutline (ps ++ qs) = paramListOutline ps ++ paramListOutline qs := by
  induction ps with
  | nil => rfl
  | cons p ps ih => rw [List.cons_append, paramListOutline, ih, paramListOutline, List.cons_append]

theorem anyShows_params (ps : Params Expr) :
    anyShows show_ (paramsOutline ps)
      = (ps.names.any (fun n => show_ (.param n)) || exprShows show_ ps.annotations) := by
  have all : paramsOutline ps = paramListOutline ps.all := by
    simp only [paramsOutline_eq, Params.all, paramListOutline_append]
  rw [all, anyShows_paramList, Params.names, List.any_map]
  rfl

theorem anyShows_clauses (quiet : Quiet show_) (cs : List (Clause Expr)) :
    anyShows show_ (clausesOutline cs) = exprShows show_ (cs.flatMap Clause.parts) := by
  induction cs with
  | nil => rfl
  | cons c cs ih =>
    have mark : show_ (asyncMark c.isAsync) = false := by
      cases c.isAsync
      · exact quiet.plain
      · exact quiet.suspend
    simp [clausesOutline, anyShows_cons, shows_node, mark, anyShows_outlines, anyShows_nil, ih, exprShows_append,
      exprShows_cons, Clause.parts, Bool.or_assoc]

theorem shows_expr (quiet : Quiet show_) (e : Expr) :
    shows show_ e.outline = (Expr.own show_ e || exprShows show_ e.children) := by
  cases e <;>
    simp [Expr.outline, Outline.leaf, shows_node, anyShows_cons, anyShows_append, anyShows_nil, anyShows_outlines,
      anyShows_option, anyShows_keys, anyShows_values, anyShows_keywords, anyShows_defaults, anyShows_params,
      anyShows_clauses quiet, Expr.own, Expr.children, Expr.parts, Expr.inside, exprShows_append, exprShows_cons,
      exprShows_nil, quiet.plain, quiet.suspend, quiet.scope, Bool.or_assoc, Bool.or_left_comm]

mutual

theorem shows_pattern (quiet : Quiet show_) (p : Pattern) :
    shows show_ p.outline = (p.captures.any (fun n => show_ (.capture (some n))) || exprShows show_ p.exprs) := by
  have rest (n : Option String) : show_ (.capture n) = n.toList.any fun n => show_ (.capture (some n)) := by
    cases n with
    | none => exact quiet.capture
    | some n => simp
  match p with
  | .value _ e => simp [Pattern.outline, shows_node, anyShows_cons, anyShows_nil, quiet.plain, Pattern.captures,
      Pattern.exprs, exprShows_cons, exprShows_nil]
  | .singleton .. => simp [Pattern.outline, Outline.leaf, shows_node, anyShows_nil, quiet.plain, Pattern.captures,
      Pattern.exprs, exprShows_nil]
  | .sequence _ ps | .or _ ps =>
    simp [Pattern.outline, shows_node, anyShows_nil, quiet.plain, Pattern.captures, Pattern.exprs,
      anyShows_patterns quiet ps]
  | .mapping _ ks ps n =>
    simp [Pattern.outline, shows_node, anyShows_nil, anyShows_append, anyShows_outlines, Pattern.captures,
      Pattern.exprs, exprShows_append, rest n, anyShows_patterns quiet ps, Bool.or_assoc, Bool.or_left_comm]
  | .class _ c ps _ named =>
    simp [Pattern.outline, shows_node, anyShows_cons, anyShows_nil, anyShows_append, quiet.plain, Pattern.captures,
      Pattern.exprs, exprShows_cons, exprShows_append, anyShows_patterns quiet ps, anyShows_patterns quiet named,
      Bool.or_assoc, Bool.or_left_comm]
  | .star _ n | .as _ none n =>
    simp [Pattern.outline, Outline.leaf, shows_node, anyShows_nil, Pattern.captures, Pattern.exprs, exprShows_nil, rest n]
  | .as _ (some q) n =>
    simp [Pattern.outline, shows_node, anyShows_cons, anyShows_nil, Pattern.captures, Pattern.exprs, rest n,
      shows_pattern quiet q, Bool.or_assoc]

theorem anyShows_patterns (quiet : Quiet show_) (ps : List Pattern) :
    anyShows show_ (patternOutlines ps)
      = ((patternCaptures ps).any (fun n => show_ (.capture (some n))) || exprShows show_ (patternExprs ps)) := by
  match ps with
  | [] => rfl
  | p :: ps =>
    simp [patternOutlines, anyShows_cons, patternCaptures, patternExprs, exprShows_append, shows_pattern quiet p,
      anyShows_patterns quiet ps, Bool.or_assoc, Bool.or_left_comm]

end

theorem stmtShows_append (ss ss' : List Stmt) :
    stmtShows show_ (ss ++ ss') = (stmtShows show_ ss || stmtShows show_ ss') := List.any_append

theorem stmtShows_nil : stmtShows show_ [] = false := rfl

theorem anyShows_stmts (ss : List Stmt) : anyShows show_ (stmtOutlines ss) = stmtShows show_ ss := by
  induction ss with
  | nil => rfl
  | cons s ss ih => rw [stmtOutlines, anyShows_cons, ih]; rfl

theorem anyShows_handlers (hs : List (Handler (List Stmt))) :
    anyShows show_ (handlerOutlines hs) = ((hs.any fun h => show_ (.capture h.name)) ||
      exprShows show_ (hs.filterMap (·.type)) || stmtShows show_ (hs.flatMap (·.body))) := by
  induction hs with
  | nil => rfl
  | cons h hs ih =>
    obtain ⟨pos, type, name, body⟩ := h
    cases type <;>
      simp [handlerOutlines, anyShows_cons, shows_node, anyShows_nil, anyShows_append, anyShows_option, anyShows_stmts,
        ih, exprShows_cons, exprShows_nil, stmtShows_append, Bool.or_assoc, Bool.or_left_comm, Bool.or_comm]

theorem anyShows_cases (quiet : Quiet show_) (cs : List (MatchCase (List Stmt))) :
    anyShows show_ (caseOutlines cs)
      = ((cs.any fun c => c.pattern.captures.any fun n => show_ (.capture (some n))) ||
        exprShows show_ (cs.flatMap fun c => c.pattern.exprs ++ c.guard.toList) ||
        stmtShows show_ (cs.flatMap (·.body))) := by
  induction cs with
  | nil => rfl
  | cons c cs ih =>
    simp [caseOutlines, anyShows_cons, shows_node, quiet.plain, anyShows_nil, anyShows_append, anyShows_option,
      anyShows_stmts, shows_pattern quiet, ih, exprShows_append, stmtShows_append, Bool.or_assoc, Bool.or_left_comm]

theorem anyShows_items (quiet : Quiet show_) (items : List WithItem) :
    anyShows show_ (items.map withItemOutline)
      = exprShows show_ (items.flatMap fun w => w.context :: w.target.toList) := by
  induction items with
  | nil => rfl
  | cons w items ih =>
    simp [anyShows_cons, withItemOutline, shows_node, quiet.plain, anyShows_nil, anyShows_option, ih, exprShows_cons,
      exprShows_append, Bool.or_assoc]

/-- A statement shows what it shows by itself and what its expressions and the statements within show. -/
theorem shows_stmt (quiet : Quiet show_) (s : Stmt) :
    shows show_ s.outline = (Stmt.own show_ s || exprShows show_ s.evaluated || stmtShows show_ s.children) := by
  have mark (isAsync : Bool) : show_ (asyncMark isAsync) = false := by
    cases isAsync
    · exact quiet.plain
    · exact quiet.suspend
  cases s with
  | augAssign p t op v =>
    cases t <;>
      simp [Stmt.outline, Outline.leaf, shows_node, anyShows_cons, anyShows_nil, quiet.plain, Stmt.own, Stmt.evaluated,
        Stmt.exprs, Stmt.annotations, Stmt.children, Stmt.stmts, Stmt.inside, exprShows_cons, exprShows_nil,
        stmtShows_nil, Expr.outline, Bool.or_assoc]
  | importFrom p m ns level slashless =>
    simp only [Stmt.outline, Stmt.own]
    split <;>
      simp [Outline.leaf, shows_node, anyShows_nil, Stmt.evaluated, Stmt.exprs, Stmt.annotations, Stmt.children,
        Stmt.stmts, Stmt.inside, exprShows_nil, stmtShows_nil]
  | _ =>
    simp [Stmt.outline, Outline.leaf, shows_node, anyShows_cons, anyShows_append, anyShows_nil, anyShows_outlines,
      anyShows_option, anyShows_keywords, anyShows_defaults, anyShows_params, anyShows_stmts, anyShows_handlers,
      anyShows_cases quiet, anyShows_items quiet, Stmt.own, Stmt.evaluated, Stmt.exprs, Stmt.annotations,
      Stmt.children, Stmt.stmts, Stmt.inside, exprShows_append, exprShows_cons, exprShows_nil, stmtShows_append,
      stmtShows_nil, quiet.plain, mark, Bool.or_assoc, Bool.or_left_comm, Bool.or_comm]

/-- Whether something that stands somewhere in a body shows a mark by itself. -/
def Shown (show_ : Mark → Bool) (body : List Stmt) : Prop :=
  (∃ s, Lies body s ∧ Stmt.own show_ s = true) ∨ ∃ e, Occurs body e ∧ Expr.own show_ e = true

variable {body : List Stmt}

theorem Occurs.shown (quiet : Quiet show_) {e : Expr} (occurs : Occurs body e) (here : shows show_ e.outline = true) :
    Shown show_ body := by
  rw [shows_expr quiet, Bool.or_eq_true] at here
  rcases here with itself | within
  · exact .inr ⟨e, occurs, itself⟩
  · obtain ⟨p, inside, here⟩ := List.any_eq_true.mp within
    exact Occurs.shown quiet (occurs.part inside) here
termination_by sizeOf e
decreasing_by exact Expr.sizeOf_children inside

theorem Lies.shown (quiet : Quiet show_) {s : Stmt} (stands : Lies body s) (here : shows show_ s.outline = true) :
    Shown show_ body := by
  rw [shows_stmt quiet, Bool.or_eq_true, Bool.or_eq_true] at here
  rcases here with (itself | within) | within
  · exact .inl ⟨s, stands, itself⟩
  · obtain ⟨e, inside, here⟩ := List.any_eq_true.mp within
    exact Occurs.shown quiet (.own stands inside) here
  · obtain ⟨t, inside, here⟩ := List.any_eq_true.mp within
    exact Lies.shown quiet (stands.inner inside) here
termination_by sizeOf s
decreasing_by exact Stmt.sizeOf_children inside

theorem Lies.found (quiet : Quiet show_) {s : Stmt} (stands : Lies body s) (here : shows show_ s.outline = true) :
    stmtShows show_ body = true := by
  induction stands with
  | @own s member => exact List.any_eq_true.mpr ⟨s, member, here⟩
  | @inner s t _ inside ih =>
    have within : stmtShows show_ s.children = true := List.any_eq_true.mpr ⟨t, inside, here⟩
    exact ih (by rw [shows_stmt quiet, within, Bool.or_true])

theorem Occurs.found (quiet : Quiet show_) {e : Expr} (occurs : Occurs body e) (here : shows show_ e.outline = true) :
    stmtShows show_ body = true := by
  induction occurs with
  | @own s e stands member =>
    have within : exprShows show_ s.evaluated = true := List.any_eq_true.mpr ⟨e, member, here⟩
    exact Lies.found quiet stands (by rw [shows_stmt quiet, within, Bool.or_true, Bool.true_or])
  | @part e p _ inside ih =>
    have within : exprShows show_ e.children = true := List.any_eq_true.mpr ⟨p, inside, here⟩
    exact ih (by rw [shows_expr quiet, within, Bool.or_true])

/-- The marks of a body are those of the statements and the expressions that stand somewhere in it. -/
theorem any_bodyMarks_iff (quiet : Quiet show_) (body : List Stmt) :
    (bodyMarks body).any show_ = true ↔ Shown show_ body := by
  have all : (bodyMarks body).any show_ = stmtShows show_ body := anyShows_stmts body
  rw [all]
  constructor
  · intro here
    obtain ⟨s, member, here⟩ := List.any_eq_true.mp here
    exact Lies.shown quiet (.own member) here
  · rintro (⟨s, stands, itself⟩ | ⟨e, occurs, itself⟩)
    · exact Lies.found quiet stands (by rw [shows_stmt quiet, itself, Bool.true_or, Bool.true_or])
    · exact Occurs.found quiet occurs (by rw [shows_expr quiet, itself, Bool.true_or])

end

/-! ### Names bound and read -/

theorem own_bound_expr (n : String) (e : Expr) :
    Expr.own (fun m => (Mark.boundAnywhere m).contains n) e = true ↔ n ∈ e.binds := by
  cases e with
  | name p id c => cases c <;> simp [Expr.own, Mark.boundAnywhere, Expr.binds]
  | _ => simp [Expr.own, Mark.boundAnywhere, Expr.binds]

theorem boundAnywhere_capture (name : Option String) : Mark.boundAnywhere (.capture name) = name.toList := by
  cases name <;> rfl

theorem own_bound_stmt (n : String) (s : Stmt) :
    Stmt.own (fun m => (Mark.boundAnywhere m).contains n) s = true ↔ n ∈ s.binds := by
  cases s with
  | augAssign p t op v => cases t <;> simp [Stmt.own, Mark.boundAnywhere, Stmt.binds]
  | importFrom p m ns level slashless =>
    simp only [Stmt.own, Stmt.binds]
    split <;> simp [Mark.boundAnywhere]
  | «try» => simp [Stmt.own, boundAnywhere_capture, Stmt.binds]
  | _ => simp [Stmt.own, Mark.boundAnywhere, Stmt.binds]

theorem mem_boundAnywhere_iff {body : List Stmt} {n : String} : n ∈ boundAnywhere body ↔ Binds body n := by
  have quiet : Quiet fun m => (Mark.boundAnywhere m).contains n := ⟨rfl, rfl, rfl, rfl⟩
  have shown := any_bodyMarks_iff quiet body
  simp only [Shown, own_bound_expr, own_bound_stmt] at shown
  rw [Binds, ← shown]
  simp [boundAnywhere]

theorem own_reading_expr (r : Reading) (e : Expr) :
    Expr.own (fun m => Mark.reading m == some r) e = true ↔ e = .name r.pos r.name .load := by
  obtain ⟨p, n⟩ := r
  cases e with
  | name q id c => cases c <;> simp [Expr.own, Mark.reading]
  | _ => simp [Expr.own, Mark.reading]

theorem own_reading_stmt (r : Reading) (s : Stmt) :
    Stmt.own (fun m => Mark.reading m == some r) s = true ↔
      ∃ q c op v, s = .augAssign q (.name r.pos r.name c) op v := by
  obtain ⟨p, n⟩ := r
  cases s with
  | augAssign q t op v => cases t <;> simp [Stmt.own, Mark.reading]
  | importFrom q m ns level slashless =>
    simp only [Stmt.own]
    split <;> simp [Mark.reading]
  | _ => simp [Stmt.own, Mark.reading]

theorem mem_readings_iff {body : List Stmt} {r : Reading} : r ∈ readings body ↔ Loads body r.pos r.name := by
  have quiet : Quiet fun m => Mark.reading m == some r := ⟨rfl, rfl, rfl, rfl⟩
  have shown := any_bodyMarks_iff quiet body
  simp only [Shown, own_reading_expr, own_reading_stmt] at shown
  have listed : r ∈ readings body ↔ (bodyMarks body).any (fun m => Mark.reading m == some r) = true := by
    rw [readings, (List.mergeSort_perm _ _).mem_iff, List.mem_filterMap, List.any_eq_true]
    simp only [beq_iff_eq]
  rw [listed, shown, Loads, or_comm]
  constructor
  · rintro (⟨e, occurs, rfl⟩ | ⟨s, stands, q, c, op, v, rfl⟩)
    · exact .inl occurs
    · exact .inr ⟨q, c, op, v, stands⟩
  · rintro (occurs | ⟨q, c, op, v, stands⟩)
    · exact .inl ⟨_, occurs, rfl⟩
    · exact .inr ⟨_, stands, q, c, op, v, rfl⟩

end Notebook.Cell
