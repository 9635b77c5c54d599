import Notebook.Tree.Outline
import Notebook.Module.Specifier

set_option autoImplicit false

namespace Notebook.Cell

open Notebook.Source Notebook.Tree Notebook.Module

def exportsName : String := "__exports__"

/-- The name under which a body finds its loader. -/
def requireName : String := "__require__"

def nameExpr (n : String) : Expr := .name default n .load

def textExpr (s : String) : Expr := .const default (.str s false)

def callExpr (f : Expr) (args : List Expr) : Expr := .call default f args []

def requireExpr (args : List String) : Expr := callExpr (nameExpr requireName) (args.map textExpr)

def bindStmt (target : String) (value : Expr) : Stmt :=
  .assign default [.name default target .store] value

def requireAlias (a : Alias) : List Stmt :=
  match a.asName with
  | some n => [bindStmt n (requireExpr [a.name])]
  | none =>
    let top := a.binding false
    let load := if top == a.name then [] else [.expr default (requireExpr [a.name])]
    load ++ [bindStmt top (requireExpr [top])]

def fromSpecifier (module : Option String) (level : Nat) : String :=
  Specifier.dots level ++ module.getD ""

def requireFromAlias (specifier : String) (a : Alias) : Stmt :=
  bindStmt (a.binding true) (requireExpr [specifier, a.name])

def isWildcardImport (names : List Alias) : Bool := names.any (·.name == "*")

mutual

/-- What stands for a statement. Wildcard imports stay; imports of language features stay or go. -/
def requireStmt (keepFeatures : Bool) : Stmt → List Stmt
  | .import _ names => names.flatMap requireAlias
  | .importFrom p module names level h =>
    if module == some "__future__" then
      if keepFeatures then [.importFrom p module names level h] else []
    else if isWildcardImport names then [.importFrom p module names level h]
    else names.map (requireFromAlias (fromSpecifier module level))
  | .function p h body => [.function p h (requireStmts keepFeatures body)]
  | .class p h body => [.class p h (requireStmts keepFeatures body)]
  | .for p a t i body orelse =>
    [.for p a t i (requireStmts keepFeatures body) (requireStmts keepFeatures orelse)]
  | .while p t body orelse =>
    [.while p t (requireStmts keepFeatures body) (requireStmts keepFeatures orelse)]
  | .if p t body orelse =>
    [.if p t (requireStmts keepFeatures body) (requireStmts keepFeatures orelse)]
  | .with p a items body => [.with p a items (requireStmts keepFeatures body)]
  | .match p s cases => [.match p s (requireCases keepFeatures cases)]
  | .try p star body handlers orelse final =>
    [.try p star (requireStmts keepFeatures body) (requireHandlers keepFeatures handlers)
      (requireStmts keepFeatures orelse) (requireStmts keepFeatures final)]
  | s => [s]

def requireStmts (keepFeatures : Bool) : List Stmt → List Stmt
  | [] => []
  | s :: ss => requireStmt keepFeatures s ++ requireStmts keepFeatures ss

def requireHandlers (keepFeatures : Bool) :
    List (Handler (List Stmt)) → List (Handler (List Stmt))
  | [] => []
  | ⟨p, t, n, body⟩ :: hs =>
    ⟨p, t, n, requireStmts keepFeatures body⟩ :: requireHandlers keepFeatures hs

def requireCases (keepFeatures : Bool) :
    List (MatchCase (List Stmt)) → List (MatchCase (List Stmt))
  | [] => []
  | ⟨p, g, body⟩ :: cs => ⟨p, g, requireStmts keepFeatures body⟩ :: requireCases keepFeatures cs

end

/-- A statement whose inner imports are calls of the loader, itself left as it is. -/
def requireInside (s : Stmt) : Stmt :=
  match s with
  | .import .. | .importFrom .. => s
  | s => (requireStmt false s).headD s

mutual

def imports : Stmt → List Stmt
  | .import p names => [.import p names]
  | .importFrom p module names level h => [.importFrom p module names level h]
  | .function _ _ body => importsOf body
  | .class _ _ body => importsOf body
  | .for _ _ _ _ body orelse => importsOf body ++ importsOf orelse
  | .while _ _ body orelse => importsOf body ++ importsOf orelse
  | .if _ _ body orelse => importsOf body ++ importsOf orelse
  | .with _ _ _ body => importsOf body
  | .match _ _ cases => importsOfCases cases
  | .try _ _ body handlers orelse final =>
    importsOf body ++ importsOfHandlers handlers ++ importsOf orelse ++ importsOf final
  | _ => []

def importsOf : List Stmt → List Stmt
  | [] => []
  | s :: ss => imports s ++ importsOf ss

def importsOfHandlers : List (Handler (List Stmt)) → List Stmt
  | [] => []
  | ⟨_, _, _, body⟩ :: hs => importsOf body ++ importsOfHandlers hs

def importsOfCases : List (MatchCase (List Stmt)) → List Stmt
  | [] => []
  | ⟨_, _, body⟩ :: cs => importsOf body ++ importsOfCases cs

end

def specifiersOf : Stmt → List String
  | .import _ names => names.flatMap fun a => Specifier.prefixes a.name
  | .importFrom _ module names level _ =>
    if module == some "__future__" || isWildcardImport names then []
    else
      let s := fromSpecifier module level
      Specifier.prefixes s ++
        names.flatMap fun a => Specifier.prefixes (Specifier.join s a.name)
  | _ => []

/-- The specifiers of a body, each once. -/
def specifiers (body : List Stmt) : List String :=
  ((importsOf body).flatMap specifiersOf).eraseDups

/-- The places of the wildcard imports of a body. -/
def wildcards (body : List Stmt) : List Pos :=
  (importsOf body).filterMap fun
    | .importFrom p module names _ _ =>
      if module != some "__future__" && isWildcardImport names then some p else none
    | _ => none

end Notebook.Cell
