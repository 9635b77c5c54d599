import Mathlib.Data.List.Induction
import Notebook.Proofs.Dotted

/-! Imports become calls of a loader: every import at any depth is replaced where it stands, by statements
that bind the same names, and all that is loaded is among the specifiers of the body. -/

set_option autoImplicit false

namespace Notebook.Cell

open Notebook.Tree Notebook.Module Notebook.Text

/-! Putting other statements in the place of imports. -/

mutual

def mapImports (f : Stmt → List Stmt) : Stmt → List Stmt
  | .import p names => f (.import p names)
  | .importFrom p module names level h => f (.importFrom p module names level h)
  | .function p h body => [.function p h (mapImportsOf f body)]
  | .class p h body => [.class p h (mapImportsOf f body)]
  | .for p a t i body orelse => [.for p a t i (mapImportsOf f body) (mapImportsOf f orelse)]
  | .while p t body orelse => [.while p t (mapImportsOf f body) (mapImportsOf f orelse)]
  | .if p t body orelse => [.if p t (mapImportsOf f body) (mapImportsOf f orelse)]
  | .with p a items body => [.with p a items (mapImportsOf f body)]
  | .match p s cases => [.match p s (mapImportsOfCases f cases)]
  | .try p star body handlers orelse final =>
    [.try p star (mapImportsOf f body) (mapImportsOfHandlers f handlers) (mapImportsOf f orelse)
      (mapImportsOf f final)]
  | s => [s]

def mapImportsOf (f : Stmt → List Stmt) : List Stmt → List Stmt
  | [] => []
  | s :: ss => mapImports f s ++ mapImportsOf f ss

def mapImportsOfHandlers (f : Stmt → List Stmt) :
    List (Handler (List Stmt)) → List (Handler (List Stmt))
  | [] => []
  | ⟨p, t, n, body⟩ :: hs => ⟨p, t, n, mapImportsOf f body⟩ :: mapImportsOfHandlers f hs

def mapImportsOfCases (f : Stmt → List Stmt) :
    List (MatchCase (List Stmt)) → List (MatchCase (List Stmt))
  | [] => []
  | ⟨p, g, body⟩ :: cs => ⟨p, g, mapImportsOf f body⟩ :: mapImportsOfCases f cs

end

mutual

theorem mapImports_same : ∀ s : Stmt, mapImports (fun s => [s]) s = [s]
  | .import .. | .importFrom .. | .return .. | .delete .. | .assign .. | .augAssign .. | .annAssign ..
  | .raise .. | .assert .. | .global .. | .nonlocal .. | .expr .. | .pass _ | .break _ | .continue _ => by
    simp only [mapImports]
  | .function _ _ body | .class _ _ body | .with _ _ _ body => by
    rw [mapImports, mapImportsOf_same body]
  | .for _ _ _ _ body orelse | .while _ _ body orelse | .if _ _ body orelse => by
    rw [mapImports, mapImportsOf_same body, mapImportsOf_same orelse]
  | .match _ _ cases => by rw [mapImports, mapImportsOfCases_same cases]
  | .try _ _ body handlers orelse final => by
    rw [mapImports, mapImportsOf_same body, mapImportsOfHandlers_same handlers, mapImportsOf_same orelse,
      mapImportsOf_same final]

theorem mapImportsOf_same : ∀ ss : List Stmt, mapImportsOf (fun s => [s]) ss = ss
  | [] => rfl
  | s :: ss => by rw [mapImportsOf, mapImports_same s, mapImportsOf_same ss, List.singleton_append]

theorem mapImportsOfHandlers_same :
    ∀ hs : List (Handler (List Stmt)), mapImportsOfHandlers (fun s => [s]) hs = hs
  | [] => rfl
  | ⟨_, _, _, body⟩ :: hs => by
    rw [mapImportsOfHandlers, mapImportsOf_same body, mapImportsOfHandlers_same hs]

theorem mapImportsOfCases_same :
    ∀ cs : List (MatchCase (List Stmt)), mapImportsOfCases (fun s => [s]) cs = cs
  | [] => rfl
  | ⟨_, _, body⟩ :: cs => by rw [mapImportsOfCases, mapImportsOf_same body, mapImportsOfCases_same cs]

end

theorem importsOf_append (ss ss' : List Stmt) : importsOf (ss ++ ss') = importsOf ss ++ importsOf ss' := by
  induction ss with
  | nil => rfl
  | cons s ss ih => rw [List.cons_append, importsOf, importsOf, ih, List.append_assoc]

section

variable (f : Stmt → List Stmt)

mutual

theorem importsOf_mapImports :
    ∀ s : Stmt, importsOf (mapImports f s) = (imports s).flatMap fun s => importsOf (f s)
  | .import .. | .importFrom .. => by simp [mapImports, imports]
  | .return .. | .delete .. | .assign .. | .augAssign .. | .annAssign .. | .raise .. | .assert ..
  | .global .. | .nonlocal .. | .expr .. | .pass _ | .break _ | .continue _ => by
    simp [mapImports, imports, importsOf]
  | .function _ _ body | .class _ _ body | .with _ _ _ body => by
    simp [mapImports, imports, importsOf, importsOf_mapImportsOf body]
  | .for _ _ _ _ body orelse | .while _ _ body orelse | .if _ _ body orelse => by
    simp [mapImports, imports, importsOf, importsOf_mapImportsOf body, importsOf_mapImportsOf orelse]
  | .match _ _ cases => by simp [mapImports, imports, importsOf, importsOf_mapImportsOfCases cases]
  | .try _ _ body handlers orelse final => by
    simp [mapImports, imports, importsOf, importsOf_mapImportsOf body,
      importsOf_mapImportsOfHandlers handlers, importsOf_mapImportsOf orelse,
      importsOf_mapImportsOf final]

theorem importsOf_mapImportsOf :
    ∀ ss : List Stmt, importsOf (mapImportsOf f ss) = (importsOf ss).flatMap fun s => importsOf (f s)
  | [] => rfl
  | s :: ss => by
    rw [mapImportsOf, importsOf_append, importsOf_mapImports s, importsOf_mapImportsOf ss, importsOf,
      List.flatMap_append]

theorem importsOf_mapImportsOfHandlers : ∀ hs : List (Handler (List Stmt)),
    importsOfHandlers (mapImportsOfHandlers f hs)
      = (importsOfHandlers hs).flatMap fun s => importsOf (f s)
  | [] => rfl
  | ⟨_, _, _, body⟩ :: hs => by
    rw [mapImportsOfHandlers, importsOfHandlers, importsOf_mapImportsOf body,
      importsOf_mapImportsOfHandlers hs, importsOfHandlers, List.flatMap_append]

theorem importsOf_mapImportsOfCases : ∀ cs : List (MatchCase (List Stmt)),
    importsOfCases (mapImportsOfCases f cs) = (importsOfCases cs).flatMap fun s => importsOf (f s)
  | [] => rfl
  | ⟨_, _, body⟩ :: cs => by
    rw [mapImportsOfCases, importsOfCases, importsOf_mapImportsOf body, importsOf_mapImportsOfCases cs,
      importsOfCases, List.flatMap_append]

end

end

section

variable (keep : Bool)

mutual

theorem requireStmt_eq : ∀ s : Stmt, requireStmt keep s = mapImports (requireStmt keep) s
  | .import .. | .importFrom .. => by simp only [mapImports]
  | .return .. | .delete .. | .assign .. | .augAssign .. | .annAssign .. | .raise .. | .assert ..
  | .global .. | .nonlocal .. | .expr .. | .pass _ | .break _ | .continue _ => by
    simp only [mapImports, requireStmt]
  | .function _ _ body | .class _ _ body | .with _ _ _ body => by
    rw [mapImports, requireStmt, requireStmts_eq body]
  | .for _ _ _ _ body orelse | .while _ _ body orelse | .if _ _ body orelse => by
    rw [mapImports, requireStmt, requireStmts_eq body, requireStmts_eq orelse]
  | .match _ _ cases => by rw [mapImports, requireStmt, requireCases_eq cases]
  | .try _ _ body handlers orelse final => by
    rw [mapImports, requireStmt, requireStmts_eq body, requireHandlers_eq handlers,
      requireStmts_eq orelse, requireStmts_eq final]

theorem requireStmts_eq : ∀ ss : List Stmt, requireStmts keep ss = mapImportsOf (requireStmt keep) ss
  | [] => rfl
  | s :: ss => by rw [requireStmts, mapImportsOf, ← requireStmt_eq s, requireStmts_eq ss]

theorem requireHandlers_eq : ∀ hs : List (Handler (List Stmt)),
    requireHandlers keep hs = mapImportsOfHandlers (requireStmt keep) hs
  | [] => rfl
  | ⟨_, _, _, body⟩ :: hs => by
    rw [requireHandlers, mapImportsOfHandlers, requireStmts_eq body, requireHandlers_eq hs]

theorem requireCases_eq : ∀ cs : List (MatchCase (List Stmt)),
    requireCases keep cs = mapImportsOfCases (requireStmt keep) cs
  | [] => rfl
  | ⟨_, _, body⟩ :: cs => by
    rw [requireCases, mapImportsOfCases, requireStmts_eq body, requireCases_eq cs]

end

end

/-! What stands for one import. -/

/-- Whether an import statement stays: a wildcard import, or one of language features if these are kept.
-/
def staysImport (keep : Bool) : Stmt → Bool
  | .importFrom _ module names _ _ =>
    if module == some "__future__" then keep else isWildcardImport names
  | _ => false

/-- The names that an import statement binds, one for each of its aliases. -/
def boundNames : Stmt → List String
  | .import _ names => names.map (·.binding false)
  | .importFrom _ _ names _ _ => names.map (·.binding true)
  | _ => []

/-- Whether a text is a name that can stand for itself in a statement. -/
def isPlainName (n : String) : Bool := n != "" && n != "*" && !keywords.contains n

/-- The names that statements bind in the scope they run in, each once, in source order. -/
def bindingsOf (ss : List Stmt) : List String := (bindingOccurrencesAll (stmtOutlines ss)).eraseDups

def textArg? : Expr → Option String
  | .const _ (.str s false) => some s
  | _ => none

def loaderCall? : Expr → Option (List String)
  | .call _ (.name _ n .load) args [] => if n == requireName then args.mapM textArg? else none
  | _ => none

/-- What a statement that loads asks for. -/
def request? : Stmt → Option (List String)
  | .expr _ e | .assign _ _ e => loaderCall? e
  | _ => none

/-- Whether a request is for a specifier, or a name of one, such that they and the packages around them are
among some specifiers. -/
inductive Noted (specifiers : List String) : List String → Prop where
  | module {s : String} : Specifier.prefixes s ⊆ specifiers → Noted specifiers [s]
  | name {s n : String} : Specifier.prefixes s ⊆ specifiers →
      Specifier.prefixes (Specifier.join s n) ⊆ specifiers → Noted specifiers [s, n]

/-- A statement that loads: what it binds, if it does, and what it asks for. -/
structure Request where
  target : Option String
  args : List String

def Request.stmt (r : Request) : Stmt :=
  match r.target with
  | some n => bindStmt n (requireExpr r.args)
  | none => .expr default (requireExpr r.args)

def aliasRequests (a : Alias) : List Request :=
  match a.asName with
  | some n => [⟨some n, [a.name]⟩]
  | none =>
    (if a.binding false == a.name then [] else [⟨none, [a.name]⟩])
      ++ [⟨some (a.binding false), [a.binding false]⟩]

def requestsOf : Stmt → List Request
  | .import _ names => names.flatMap aliasRequests
  | .importFrom _ module names level _ =>
    if module == some "__future__" then []
    else names.map fun a => ⟨some (a.binding true), [fromSpecifier module level, a.name]⟩
  | _ => []

theorem requireAlias_eq (a : Alias) : requireAlias a = (aliasRequests a).map Request.stmt := by
  unfold requireAlias aliasRequests
  cases a.asName with
  | some n => rfl
  | none =>
    dsimp only
    split <;> rfl

def IsImport (s : Stmt) : Prop :=
  (∃ p names, s = .import p names) ∨ ∃ p m names level ok, s = .importFrom p m names level ok

theorem requireStmt_requests {keep : Bool} {s : Stmt} (h : IsImport s)
    (goes : staysImport keep s = false) : requireStmt keep s = (requestsOf s).map Request.stmt := by
  rcases h with ⟨p, names, rfl⟩ | ⟨p, m, names, level, ok, rfl⟩
  · rw [requireStmt, requestsOf, List.map_flatMap]
    exact congrArg (List.flatMap · names) (funext requireAlias_eq)
  · rw [staysImport] at goes
    rw [requireStmt, requestsOf]
    by_cases feature : (m == some "__future__") = true
    · rw [if_pos feature] at goes
      rw [if_pos feature, if_pos feature, goes]
      rfl
    · rw [if_neg feature] at goes
      rw [if_neg feature, if_neg feature, goes, List.map_map]
      rfl

theorem requireStmt_stays {keep : Bool} {s : Stmt} (h : staysImport keep s = true) :
    requireStmt keep s = [s] := by
  unfold staysImport at h
  split at h
  next m names _ _ =>
    rw [requireStmt]
    by_cases feature : (m == some "__future__") = true
    · rw [if_pos feature] at h ⊢
      rw [if_pos h]
    · rw [if_neg feature] at h ⊢
      rw [if_pos h]
  next => cases h

/-! Requests as statements. -/

namespace Request

variable (r : Request)

theorem request? : request? r.stmt = some r.args := by
  have texts (args : List String) : (args.map textExpr).mapM textArg? = some args := by
    induction args with
    | nil => rfl
    | cons a args ih => simp [textExpr, textArg?, ih]
  unfold stmt
  cases r.target <;>
    simp [Cell.request?, bindStmt, requireExpr, callExpr, nameExpr, loaderCall?, texts]

theorem imports_stmt : imports r.stmt = [] := by
  unfold stmt
  cases r.target <;> rfl

theorem outlines_texts (args : List String) :
    bindingOccurrencesAll (outlines (args.map textExpr)) = [] ∧
      (marksAll (outlines (args.map textExpr))).flatMap Mark.mentioned = [] := by
  induction args with
  | nil => exact ⟨rfl, rfl⟩
  | cons a args ih =>
    simpa [outlines, textExpr, Expr.outline, Outline.leaf, bindingOccurrencesAll, bindingOccurrences,
      Mark.bound, Mark.opens, marksAll, marks, Mark.mentioned] using ih

theorem occurrences : bindingOccurrences r.stmt.outline = r.target.toList := by
  unfold stmt
  cases r.target <;>
    simp [bindStmt, requireExpr, callExpr, nameExpr, Stmt.outline, Expr.outline, Outline.leaf,
      keywordsOutline, outlines, bindingOccurrencesAll, bindingOccurrences, Mark.bound, Mark.opens,
      outlines_texts]

theorem mentioned_stmt : mentioned [r.stmt] = r.target.toList ++ [requireName] := by
  unfold stmt
  cases r.target <;>
    simp [mentioned, bodyMarks, stmtOutlines, bindStmt, requireExpr, callExpr, nameExpr, Stmt.outline,
      Expr.outline, Outline.leaf, keywordsOutline, outlines, marksAll, marks, Mark.mentioned,
      outlines_texts]

end Request

/-! Imports of a body. -/

mutual

theorem isImport_of_mem : ∀ (s : Stmt) {i : Stmt}, i ∈ imports s → IsImport i
  | .import p names, _, h => .inl ⟨p, names, List.mem_singleton.mp h⟩
  | .importFrom p m names level ok, _, h => .inr ⟨p, m, names, level, ok, List.mem_singleton.mp h⟩
  | .return .., _, h | .delete .., _, h | .assign .., _, h | .augAssign .., _, h | .annAssign .., _, h
  | .raise .., _, h | .assert .., _, h | .global .., _, h | .nonlocal .., _, h | .expr .., _, h
  | .pass _, _, h | .break _, _, h | .continue _, _, h => by cases h
  | .function _ _ body, _, h | .class _ _ body, _, h | .with _ _ _ body, _, h =>
    isImport_of_mem_body body h
  | .for _ _ _ _ body orelse, _, h | .while _ _ body orelse, _, h | .if _ _ body orelse, _, h =>
    (List.mem_append.mp h).elim (isImport_of_mem_body body) (isImport_of_mem_body orelse)
  | .match _ _ cases, _, h => isImport_of_mem_cases cases h
  | .try _ _ body handlers orelse final, _, h => by
    rw [imports, List.mem_append, List.mem_append, List.mem_append] at h
    rcases h with ((h | h) | h) | h
    · exact isImport_of_mem_body body h
    · exact isImport_of_mem_handlers handlers h
    · exact isImport_of_mem_body orelse h
    · exact isImport_of_mem_body final h

theorem isImport_of_mem_body : ∀ (ss : List Stmt) {i : Stmt}, i ∈ importsOf ss → IsImport i
  | [], _, h => by cases h
  | s :: ss, _, h => (List.mem_append.mp h).elim (isImport_of_mem s) (isImport_of_mem_body ss)

theorem isImport_of_mem_handlers :
    ∀ (hs : List (Handler (List Stmt))) {i : Stmt}, i ∈ importsOfHandlers hs → IsImport i
  | [], _, h => by cases h
  | ⟨_, _, _, body⟩ :: hs, _, h =>
    (List.mem_append.mp h).elim (isImport_of_mem_body body) (isImport_of_mem_handlers hs)

theorem isImport_of_mem_cases :
    ∀ (cs : List (MatchCase (List Stmt))) {i : Stmt}, i ∈ importsOfCases cs → IsImport i
  | [], _, h => by cases h
  | ⟨_, _, body⟩ :: cs, _, h =>
    (List.mem_append.mp h).elim (isImport_of_mem_body body) (isImport_of_mem_cases cs)

end

theorem importsOf_requests (rs : List Request) : importsOf (rs.map Request.stmt) = [] := by
  induction rs with
  | nil => rfl
  | cons r rs ih => rw [List.map_cons, importsOf, r.imports_stmt, ih, List.append_nil]

theorem importsOf_requireStmt {keep : Bool} {s : Stmt} (h : IsImport s) :
    importsOf (requireStmt keep s) = if staysImport keep s then [s] else [] := by
  cases goes : staysImport keep s with
  | true =>
    rw [requireStmt_stays goes, if_pos rfl]
    rcases h with ⟨_, _, rfl⟩ | ⟨_, _, _, _, _, rfl⟩ <;> rfl
  | false => rw [requireStmt_requests h goes, importsOf_requests, if_neg Bool.false_ne_true]

theorem importsOf_requireStmts (keep : Bool) (body : List Stmt) :
    importsOf (requireStmts keep body) = (importsOf body).filter (staysImport keep) := by
  have left (ss : List Stmt) (h : ∀ s ∈ ss, IsImport s) :
      (ss.flatMap fun s => importsOf (requireStmt keep s)) = ss.filter (staysImport keep) := by
    induction ss with
    | nil => rfl
    | cons s ss ih =>
      rw [List.flatMap_cons, importsOf_requireStmt (h s List.mem_cons_self),
        ih fun t ht => h t (List.mem_cons_of_mem _ ht), List.filter_cons]
      split <;> rfl
  rw [requireStmts_eq, importsOf_mapImportsOf]
  exact left _ fun s hs => isImport_of_mem_body body hs

theorem wildcards_requireStmts (keep : Bool) (body : List Stmt) :
    wildcards (requireStmts keep body) = wildcards body := by
  unfold wildcards
  rw [importsOf_requireStmts, List.filterMap_filter]
  refine congrArg (List.filterMap · _) (funext fun s => ?_)
  split
  next => rfl
  next goes =>
    split
    next m names _ _ =>
      split
      next wild =>
        -- A wildcard import stays.
        simp only [bne_iff_ne, ne_eq, Bool.and_eq_true] at wild
        simp [staysImport, wild] at goes
      next => rfl
    next => rfl

/-! Bindings. -/

theorem bindingOccurrences_requests (rs : List Request) :
    bindingOccurrencesAll (stmtOutlines (rs.map Request.stmt)) = rs.filterMap (·.target) := by
  induction rs with
  | nil => rfl
  | cons r rs ih =>
    rw [List.map_cons, stmtOutlines, bindingOccurrencesAll, r.occurrences, ih, List.filterMap_cons]
    cases r.target <;> rfl

theorem targets_alias (a : Alias) : (aliasRequests a).filterMap (·.target) = [a.binding false] := by
  unfold aliasRequests
  cases named : a.asName with
  | some n => simp [Alias.binding, named]
  | none =>
    dsimp only
    split <;> simp

theorem target_bound {s : Stmt} (h : IsImport s) {r : Request} (member : r ∈ requestsOf s) {n : String}
    (binds : r.target = some n) : n ∈ boundNames s := by
  rcases h with ⟨p, names, rfl⟩ | ⟨p, m, names, level, ok, rfl⟩
  · obtain ⟨a, inside, member⟩ := List.mem_flatMap.mp member
    have target : n ∈ (aliasRequests a).filterMap (·.target) := List.mem_filterMap.mpr ⟨r, member, binds⟩
    rw [targets_alias, List.mem_singleton] at target
    exact target ▸ List.mem_map_of_mem inside
  · rw [requestsOf] at member
    split at member
    · cases member
    · obtain ⟨a, inside, rfl⟩ := List.mem_map.mp member
      cases binds
      exact List.mem_map_of_mem inside

theorem occurrences_imports {names : List String} (plain : "*" ∉ names) :
    bindingOccurrences (.leaf (.imports names)) = names := by
  have only : names.filter (· != "*") = names := List.filter_eq_self.mpr fun n hn => by
    rw [bne_iff_ne]
    rintro rfl
    exact plain hn
  simp [Outline.leaf, bindingOccurrences, bindingOccurrencesAll, Mark.bound, Mark.opens, only]

theorem occurrences_requireStmt {keep : Bool} {s : Stmt} (h : IsImport s) (plain : "*" ∉ boundNames s) :
    bindingOccurrencesAll (stmtOutlines (requireStmt keep s)) = bindingOccurrences s.outline := by
  cases goes : staysImport keep s with
  | true =>
    rw [requireStmt_stays goes, stmtOutlines, stmtOutlines, bindingOccurrencesAll, bindingOccurrencesAll,
      List.append_nil]
  | false =>
    rw [requireStmt_requests h goes, bindingOccurrences_requests]
    rcases h with ⟨p, names, rfl⟩ | ⟨p, m, names, level, ok, rfl⟩ <;> rw [boundNames] at plain
    · rw [requestsOf, List.filterMap_flatMap, funext targets_alias, Stmt.outline, occurrences_imports plain,
        List.map_eq_flatMap]
    · rw [requestsOf, Stmt.outline]
      by_cases feature : m = some "__future__"
      · simp [feature, Outline.leaf, bindingOccurrences, bindingOccurrencesAll, Mark.bound, Mark.opens]
      · rw [if_neg feature, occurrences_imports plain, if_neg (by simpa using feature), List.filterMap_map]
        exact congrFun List.filterMap_eq_map names

theorem bindingsOf_requireStmt {keep : Bool} {s : Stmt} (h : IsImport s) (plain : "*" ∉ boundNames s) :
    bindingsOf (requireStmt keep s) = bindings s := congrArg List.eraseDups (occurrences_requireStmt h plain)

theorem occurrences_append (os os' : List Outline) :
    bindingOccurrencesAll (os ++ os') = bindingOccurrencesAll os ++ bindingOccurrencesAll os' := by
  induction os with
  | nil => rfl
  | cons o os ih => rw [List.cons_append, bindingOccurrencesAll, bindingOccurrencesAll, ih, List.append_assoc]

theorem stmtOutlines_append (ss ss' : List Stmt) :
    stmtOutlines (ss ++ ss') = stmtOutlines ss ++ stmtOutlines ss' := by
  induction ss with
  | nil => rfl
  | cons s ss ih => rw [List.cons_append, stmtOutlines, stmtOutlines, ih, List.cons_append]

section

variable (keep : Bool)

mutual

/-- A statement with its imports replaced binds what it binds with them, in order, if none is of all names. -/
theorem occurrences_requireInner : ∀ s : Stmt, (∀ i ∈ imports s, "*" ∉ boundNames i) →
    bindingOccurrencesAll (stmtOutlines (requireStmt keep s)) = bindingOccurrences s.outline
  | .import p names, plain =>
    occurrences_requireStmt (.inl ⟨p, names, rfl⟩) (plain _ (List.mem_singleton_self _))
  | .importFrom p m names level ok, plain =>
    occurrences_requireStmt (.inr ⟨p, m, names, level, ok, rfl⟩) (plain _ (List.mem_singleton_self _))
  | .return .., _ | .delete .., _ | .assign .., _ | .augAssign .., _ | .annAssign .., _ | .raise .., _
  | .assert .., _ | .global .., _ | .nonlocal .., _ | .expr .., _ | .pass _, _ | .break _, _
  | .continue _, _ => by
    simp only [requireStmt, stmtOutlines, bindingOccurrencesAll, List.append_nil]
  | .function .., _ | .class .., _ => by
    simp only [requireStmt, stmtOutlines, bindingOccurrencesAll, Stmt.outline, bindingOccurrences, Mark.opens, if_true,
      List.append_nil]
  | .with _ _ _ body, plain => by
    simp only [requireStmt, stmtOutlines, bindingOccurrencesAll, Stmt.outline, bindingOccurrences, occurrences_append,
      List.append_nil, occurrences_requireBody body plain]
  | .for _ _ _ _ body orelse, plain | .while _ _ body orelse, plain | .if _ _ body orelse, plain => by
    simp only [imports, List.mem_append, or_imp, forall_and] at plain
    simp only [requireStmt, stmtOutlines, bindingOccurrencesAll, Stmt.outline, bindingOccurrences, occurrences_append,
      List.cons_append, List.append_nil,
      occurrences_requireBody body plain.1, occurrences_requireBody orelse plain.2]
  | .match _ _ cases, plain => by
    simp only [requireStmt, stmtOutlines, bindingOccurrencesAll, Stmt.outline, bindingOccurrences, List.append_nil,
      occurrences_requireCases cases plain]
  | .try _ _ body hs orelse final, plain => by
    simp only [imports, List.mem_append, or_imp, forall_and] at plain
    simp only [requireStmt, stmtOutlines, bindingOccurrencesAll, Stmt.outline, bindingOccurrences, occurrences_append,
      List.append_nil, occurrences_requireBody body plain.1.1.1, occurrences_requireHandlers hs plain.1.1.2,
      occurrences_requireBody orelse plain.1.2, occurrences_requireBody final plain.2]

theorem occurrences_requireBody : ∀ ss : List Stmt, (∀ i ∈ importsOf ss, "*" ∉ boundNames i) →
    bindingOccurrencesAll (stmtOutlines (requireStmts keep ss)) = bindingOccurrencesAll (stmtOutlines ss)
  | [], _ => rfl
  | s :: ss, plain => by
    simp only [importsOf, List.mem_append, or_imp, forall_and] at plain
    rw [requireStmts, stmtOutlines_append, occurrences_append, occurrences_requireInner s plain.1,
      occurrences_requireBody ss plain.2, stmtOutlines, bindingOccurrencesAll]

theorem occurrences_requireHandlers : ∀ hs : List (Handler (List Stmt)),
    (∀ i ∈ importsOfHandlers hs, "*" ∉ boundNames i) →
    bindingOccurrencesAll (handlerOutlines (requireHandlers keep hs)) = bindingOccurrencesAll (handlerOutlines hs)
  | [], _ => rfl
  | ⟨_, _, _, body⟩ :: hs, plain => by
    simp only [importsOfHandlers, List.mem_append, or_imp, forall_and] at plain
    simp only [requireHandlers, handlerOutlines, bindingOccurrencesAll, bindingOccurrences, occurrences_append,
      occurrences_requireBody body plain.1, occurrences_requireHandlers hs plain.2]

theorem occurrences_requireCases : ∀ cs : List (MatchCase (List Stmt)),
    (∀ i ∈ importsOfCases cs, "*" ∉ boundNames i) →
    bindingOccurrencesAll (caseOutlines (requireCases keep cs)) = bindingOccurrencesAll (caseOutlines cs)
  | [], _ => rfl
  | ⟨_, _, body⟩ :: cs, plain => by
    simp only [importsOfCases, List.mem_append, or_imp, forall_and] at plain
    simp only [requireCases, caseOutlines, bindingOccurrencesAll, bindingOccurrences, occurrences_append,
      occurrences_requireBody body plain.1, occurrences_requireCases cs plain.2]

end

end

theorem requireStmt_inside {s : Stmt} (other : ¬ IsImport s) : requireStmt false s = [requireInside s] := by
  cases s <;> first
    | rfl
    | exact absurd (.inl ⟨_, _, rfl⟩) other
    | exact absurd (.inr ⟨_, _, _, _, _, rfl⟩) other

/-- What is published and declared is the same for a statement and for the one that stands for it, whose imports
are replaced in place. -/
theorem bindings_requireInside {s : Stmt} (plain : ∀ i ∈ imports s, "*" ∉ boundNames i) :
    bindings (requireInside s) = bindings s := by
  by_cases isImport : IsImport s
  · rcases isImport with ⟨p, names, rfl⟩ | ⟨p, m, names, level, ok, rfl⟩ <;> rfl
  · have all := occurrences_requireInner false s plain
    rw [requireStmt_inside isImport, stmtOutlines, stmtOutlines, bindingOccurrencesAll, bindingOccurrencesAll,
      List.append_nil] at all
    exact congrArg List.eraseDups all

/-! What is asked for. -/

theorem prefixes_binding {a : Alias} (anonymous : a.asName = none) (named : a.binding false ≠ "") :
    Specifier.prefixes (a.binding false) ⊆ Specifier.prefixes a.name := by
  obtain ⟨rest, parted⟩ : ∃ rest, Specifier.parts a.name = a.binding false :: rest := by
    obtain ⟨rest, parted⟩ := splitAt_cons '.' a.name.toList
    refine ⟨rest.map String.ofList, ?_⟩
    rw [Specifier.parts, dottedParts, parted, Alias.binding, anonymous]
    rfl
  have start : a.name.toList.head? ≠ some '.' := by
    intro dot
    obtain ⟨cs, chars⟩ := List.head?_eq_some_iff.mp dot
    rw [Alias.binding, anonymous] at named
    simp [chars] at named
  have bare : Specifier.dots 0 ++ a.name = a.name := by rw [← String.toList_inj]; simp [Specifier.dots]
  have stem := Specifier.stem_dots 0 start
  have level := Specifier.level_dots 0 start
  rw [bare] at stem level
  have full : a.name ≠ "" := by
    intro none
    rw [Alias.binding, anonymous, none] at named
    exact named rfl
  have path := Specifier.isPath_eq_false.mpr (slashless_of_isSlashless a.slashless)
  obtain ⟨later, first⟩ : ∃ later, Specifier.prefixes a.name = [] ++ a.binding false :: later := by
    have alone : Specifier.dots 0 ++ joinWith "." [a.binding false] = a.binding false := by
      rw [← String.toList_inj]
      simp [Specifier.dots, joinWith]
    refine ⟨((Specifier.initials rest).map (a.binding false :: ·)).map
      fun ps => Specifier.dots 0 ++ joinWith "." ps, ?_⟩
    rw [Specifier.prefixes, stem, level, path, if_neg (by simpa using full), parted, Specifier.initials,
      List.map_cons, alone, List.nil_append]
  rw [Specifier.prefixes_split first, first]
  simp

theorem noted_request {keep : Bool} {s : Stmt} (h : IsImport s) (goes : staysImport keep s = false)
    (plain : "" ∉ boundNames s) {r : Request} (member : r ∈ requestsOf s) :
    Noted (specifiersOf s) r.args := by
  rcases h with ⟨p, names, rfl⟩ | ⟨p, m, names, level, ok, rfl⟩
  · obtain ⟨a, inside, member⟩ := List.mem_flatMap.mp member
    have whole : Specifier.prefixes a.name ⊆ specifiersOf (.import p names) :=
      fun q hq => List.mem_flatMap.mpr ⟨a, inside, hq⟩
    unfold aliasRequests at member
    split at member
    next => 
      cases List.mem_singleton.mp member
      exact .module whole
    next anonymous =>
      have named : a.binding false ≠ "" := fun none =>
        plain (none ▸ List.mem_map_of_mem (f := (·.binding false)) inside)
      rcases List.mem_append.mp member with member | member
      · split at member
        · cases member
        · cases List.mem_singleton.mp member
          exact .module whole
      · cases List.mem_singleton.mp member
        exact .module (List.Subset.trans (prefixes_binding anonymous named) whole)
  · rw [requestsOf] at member
    split at member
    next => cases member
    next feature =>
      rw [staysImport, if_neg feature] at goes
      obtain ⟨a, inside, rfl⟩ := List.mem_map.mp member
      have all : specifiersOf (.importFrom p m names level ok)
          = Specifier.prefixes (fromSpecifier m level)
            ++ names.flatMap fun a => Specifier.prefixes (Specifier.join (fromSpecifier m level) a.name) := by
        rw [specifiersOf, goes, Bool.eq_false_iff.mpr feature]
        rfl
      rw [all]
      exact .name (List.subset_append_left _ _)
        fun q hq => List.mem_append_right _ (List.mem_flatMap.mpr ⟨a, inside, hq⟩)

theorem Noted.mono {xs ys args : List String} (h : Noted xs args) (sub : xs ⊆ ys) : Noted ys args := by
  cases h with
  | module whole => exact .module (List.Subset.trans whole sub)
  | name whole part => exact .name (List.Subset.trans whole sub) (List.Subset.trans part sub)

/-! Specifiers in order. -/

/-- Whether every specifier of a list stands after its own prefixes. -/
def PrefixesFirst (specifiers : List String) : Prop :=
  ∀ before s after, specifiers = before ++ s :: after →
    ∀ p ∈ Specifier.prefixes s, p = s ∨ p ∈ before

theorem PrefixesFirst.nil : PrefixesFirst [] := by
  intro before s after h
  simp at h

theorem PrefixesFirst.of_append {xs ys : List String} (h : PrefixesFirst (xs ++ ys)) : PrefixesFirst xs := by
  intro before s after split
  exact h before s (after ++ ys) (by rw [split]; simp)

theorem PrefixesFirst.append {xs ys : List String} (h : PrefixesFirst xs) (h' : PrefixesFirst ys) :
    PrefixesFirst (xs ++ ys) := by
  intro before s after split p hp
  rcases split_append split with ⟨before', rfl, rest⟩ | ⟨after', rest, -⟩
  · exact (h' before' s after rest p hp).imp_right (List.mem_append_right xs)
  · exact h before s after' rest p hp

theorem PrefixesFirst.flatMap {α : Type} {f : α → List String} {xs : List α}
    (h : ∀ x ∈ xs, PrefixesFirst (f x)) : PrefixesFirst (xs.flatMap f) := by
  induction xs with
  | nil => exact .nil
  | cons x xs ih =>
    rw [List.flatMap_cons]
    exact (h x List.mem_cons_self).append (ih fun y hy => h y (List.mem_cons_of_mem _ hy))

theorem prefixesFirst_prefixes (s : String) : PrefixesFirst (Specifier.prefixes s) := by
  intro before t after split p hp
  rw [Specifier.prefixes_split split] at hp
  exact (List.mem_append.mp hp).symm.imp_left List.mem_singleton.mp

theorem eraseDups_concat (xs : List String) (x : String) :
    (xs ++ [x]).eraseDups = if x ∈ xs then xs.eraseDups else xs.eraseDups ++ [x] := by
  rw [List.eraseDups_append]
  split
  next there => simp [List.removeAll, there]
  next absent => simp [List.removeAll, absent, List.eraseDups_cons]

theorem nodup_eraseDups (xs : List String) : xs.eraseDups.Nodup := by
  induction xs using List.reverseRecOn with
  | nil => exact List.nodup_nil
  | append_singleton xs x ih =>
    rw [eraseDups_concat]
    split
    next => exact ih
    next absent =>
      rw [List.nodup_append]
      refine ⟨ih, by simp, fun y hy z hz => ?_⟩
      rintro rfl
      cases List.mem_singleton.mp hz
      exact absent (List.mem_eraseDups.mp hy)

theorem PrefixesFirst.eraseDups {xs : List String} (h : PrefixesFirst xs) : PrefixesFirst xs.eraseDups := by
  induction xs using List.reverseRecOn with
  | nil => exact .nil
  | append_singleton xs x ih =>
    have earlier := ih h.of_append
    rw [eraseDups_concat]
    by_cases there : x ∈ xs
    · rwa [if_pos there]
    · rw [if_neg there]
      intro before s after split p hp
      rcases split_append split with ⟨before', rfl, rest⟩ | ⟨after', rest, -⟩
      · have alone : before' = [] ∧ x = s := by
          cases before' with
          | nil => exact ⟨rfl, (List.cons.inj rest).1⟩
          | cons _ _ => simp at rest
        obtain ⟨rfl, rfl⟩ := alone
        have := h xs x [] rfl p hp
        simpa using this
      · exact earlier before s after' rest p hp

theorem prefixesFirst_specifiersOf (s : Stmt) : PrefixesFirst (specifiersOf s) := by
  unfold specifiersOf
  split
  · exact .flatMap fun a _ => prefixesFirst_prefixes a.name
  · split
    · exact .nil
    · exact (prefixesFirst_prefixes _).append (.flatMap fun a _ => prefixesFirst_prefixes _)
  · exact .nil

theorem prefixesFirst_specifiers (body : List Stmt) : PrefixesFirst (specifiers body) :=
  .eraseDups (.flatMap fun s _ => prefixesFirst_specifiersOf s)

theorem specifiersOf_subset {s : Stmt} {body : List Stmt} (h : s ∈ importsOf body) :
    specifiersOf s ⊆ specifiers body :=
  fun _ hq => List.mem_eraseDups.mpr (List.mem_flatMap.mpr ⟨s, h, hq⟩)

/-! Statements that are made are read from their text. -/

theorem readAllBack_ok {ss : List Stmt} (h : ∀ s ∈ ss, ∀ n ∈ mentioned [s], n ∉ keywords) :
    readAllBack ss = .ok () := by
  induction ss with
  | nil => rfl
  | cons s ss ih =>
    have first : (mentioned [s]).any keywords.contains = false := by
      rw [List.any_eq_false]
      intro n hn
      simpa using h s List.mem_cons_self n hn
    have back : readBack s = .ok () := by rw [readBack, first]; rfl
    rw [readAllBack, back]
    exact ih fun t ht => h t (List.mem_cons_of_mem _ ht)

theorem mentioned_import {s : Stmt} (h : IsImport s) : mentioned [s] = [] := by
  rcases h with ⟨p, names, rfl⟩ | ⟨p, m, names, level, ok, rfl⟩
  · rfl
  · rw [mentioned, bodyMarks, stmtOutlines, Stmt.outline]
    split <;> rfl

theorem importsOf_importing (body : List Stmt) : importsOf (importing body) = importsOf body := by
  induction body with
  | nil => rfl
  | cons s ss ih =>
    unfold importing
    split
    next same => cases same
    next same => cases same; rfl
    next s' ss' _ same =>
      cases same
      split
      next bare =>
        have none : imports s = [] := by
          unfold isBareAnnotation at bare
          split at bare
          · rfl
          · cases bare
        rw [importsOf, none, List.nil_append, ih]
      next => rw [importsOf, importsOf, ih]

/-- Rewriting goes through wherever imports bind names that can stand for themselves. Only imports are
touched; what is left of them are the wildcard imports, all of which are told, and in modules those of
language features. What stands for the others binds the same names and asks for noted specifiers only, and
these are told once each, after the packages around them. -/
theorem imports_rewritten (keep : Bool) (body : List Stmt)
    (plain : ∀ s ∈ importsOf body, staysImport keep s = false →
      ∀ n ∈ boundNames s, isPlainName n = true) :
    readAllBack ((importsOf body).flatMap (requireStmt keep)) = .ok () ∧
    requireStmts keep body = mapImportsOf (requireStmt keep) body ∧
    importsOf (requireStmts keep body) = (importsOf body).filter (staysImport keep) ∧
    wildcards (requireStmts keep body) = wildcards body ∧
    (∀ s ∈ importsOf body, staysImport keep s = false →
      bindingsOf (requireStmt keep s) = bindings s ∧
        ∀ t ∈ requireStmt keep s, ∃ args, request? t = some args ∧ Noted (specifiers body) args) ∧
    specifiers (importing body) = specifiers body ∧
    (specifiers body).Nodup ∧ PrefixesFirst (specifiers body) := by
  have absent {s : Stmt} (member : s ∈ importsOf body) (goes : staysImport keep s = false) {n : String}
      (other : isPlainName n = false) : n ∉ boundNames s :=
    fun h => nomatch other.symm.trans (plain s member goes n h)
  refine ⟨readAllBack_ok fun t ht n hn => ?_, requireStmts_eq keep body, importsOf_requireStmts keep body,
    wildcards_requireStmts keep body, fun s member goes => ⟨?_, fun t ht => ?_⟩, ?_, ?_,
    prefixesFirst_specifiers body⟩
  · obtain ⟨s, member, ht⟩ := List.mem_flatMap.mp ht
    have kind := isImport_of_mem_body body member
    cases goes : staysImport keep s with
    | true =>
      rw [requireStmt_stays goes] at ht
      cases List.mem_singleton.mp ht
      rw [mentioned_import kind] at hn
      cases hn
    | false =>
      rw [requireStmt_requests kind goes] at ht
      obtain ⟨r, inside, rfl⟩ := List.mem_map.mp ht
      rw [r.mentioned_stmt] at hn
      rcases List.mem_append.mp hn with hn | hn
      · have named := plain s member goes n (target_bound kind inside (Option.mem_toList.mp hn))
        simp only [isPlainName, Bool.and_eq_true, Bool.not_eq_true'] at named
        simpa using named.2
      · cases List.mem_singleton.mp hn
        decide
  · exact bindingsOf_requireStmt (isImport_of_mem_body body member) (absent member goes (by decide))
  · have kind := isImport_of_mem_body body member
    rw [requireStmt_requests kind goes] at ht
    obtain ⟨r, inside, rfl⟩ := List.mem_map.mp ht
    exact ⟨r.args, r.request?,
      (noted_request kind goes (absent member goes (by decide)) inside).mono (specifiersOf_subset member)⟩
  · rw [specifiers, importsOf_importing, specifiers]
  · exact nodup_eraseDups _

/-- Imports in a branch, of a module inside a package and of a name beside the importing module. -/
theorem imports_rewritten_in_branch :
    let body := [Stmt.if default (nameExpr "x")
      [.import default [⟨default, "a.b", none, rfl⟩],
        .importFrom default (some "c") [⟨default, "d", some "e", rfl⟩] 1 rfl] []]
    readAllBack ((importsOf body).flatMap (requireStmt true)) = .ok () ∧
      importsOf (requireStmts true body) = [] ∧
      specifiers body = ["a", "a.b", ".c", ".c.d"] ∧ PrefixesFirst (specifiers body) := by
  intro body
  have plain : ∀ s ∈ importsOf body, staysImport true s = false →
      ∀ n ∈ boundNames s, isPlainName n = true := by
    decide +kernel
  have all := imports_rewritten true body plain
  exact ⟨all.1, all.2.2.1, by decide +kernel, all.2.2.2.2.2.2.2⟩

def isUnreadable : Except Trouble Unit → Bool
  | .error (.unreadable _) => true
  | _ => false

theorem of_isUnreadable {e : Except Trouble Unit} (h : isUnreadable e = true) :
    ∃ f, e = .error (.unreadable f) := by
  unfold isUnreadable at h
  split at h
  next f => exact ⟨f, rfl⟩
  next => cases h

set_option maxRecDepth 100000 in
/-- A name in letters of another kind may be a keyword once it is written plainly, and then nothing stands
for an import of it: `import 𝐢𝐟` has this tree. -/
theorem not_rewritten_keyword :
    let body := [Stmt.import default [⟨default, "if", none, rfl⟩]]
    ∃ f, readAllBack ((importsOf body).flatMap (requireStmt true)) = .error (.unreadable f) :=
  of_isUnreadable (by decide +kernel)

end Notebook.Cell
