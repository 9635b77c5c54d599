import Notebook.Cell.Builtin
import Notebook.Cell.Declaration
import Notebook.Cell.Require
import Notebook.Code.Compile
import Notebook.Module.Cache

/-! Compiling a cell: from its text and the declarations before it to a body that can run on its
own.

The body reads earlier bindings from the namespace of exports, publishes what it binds right after
the statement that binds it, loads modules through its loader and stores its last value aside. -/

set_option autoImplicit false

namespace Notebook.Cell

open Notebook.Source Notebook.Tree Notebook.Module Notebook.Text

/-- A problem found before a cell runs; lines and characters count from 0. -/
structure Diagnostic where
  message : String
  line : Nat := 0
  character : Nat := 0
  file : String := ""
deriving DecidableEq, Repr

structure SideModule where
  path : String
  source : String
deriving DecidableEq, Repr

/-- What compiling a cell gives. -/
structure Compiled where
  body : String := ""
  declarations : String := ""
  diagnostics : List Diagnostic := []
  sideModules : List SideModule := []
  hasTopLevelAwait : Bool := false
  lastBinding : Option String := none
deriving DecidableEq, Repr

def Compiled.updates (c : Compiled) : List (String × String) :=
  c.sideModules.map fun m => (m.path, m.source)

/-- The name under which the last value of a cell is stored. -/
def lastName : String := "__cell_last__"

def browserGlobals : List String := ["js", "pyodide", "document", "window"]

def faultDiagnostic (f : Fault) (file : String) : Diagnostic :=
  { message := if f.message == "" then "invalid syntax" else f.message
    line := f.line - 1, character := f.offset - 1, file }

/-- A compiler of cells and what it remembers: registered modules, and the texts handed out. -/
structure Compiler where
  places : Path.Places
  rootDir : String
  extension : String := ".py"
  selfName : String := "pycell"
  extraGlobals : List String := []
  modules : List (String × String) := []
  emitted : List (String × String) := []

def undefinedReadings (known : String → Bool) : List Reading → List String → List Reading
  | [], _ => []
  | r :: rs, reported =>
    if known r.name || reported.contains r.name then undefinedReadings known rs reported
    else r :: undefinedReadings known rs (r.name :: reported)

def checkNames (extra : List String) (prior : Declarations) (body : List Stmt) :
    List Diagnostic :=
  let bound := boundAnywhere body
  let known n := bound.contains n || prior.names.contains n || builtinNames.contains n
    || extra.contains n
  (undefinedReadings known (readings body) []).map fun r =>
    { message := s!"name '{r.name}' is not defined", line := r.pos.line - 1
      character := r.pos.col }

def exportsCall (method : String) (args : List Expr) : Stmt :=
  .expr default (callExpr (.attribute default (nameExpr exportsName) method default .load) args)

def assignStmt (name : String) (value : Expr) : Stmt := exportsCall "assign" [textExpr name, value]

def publishStmt (name : String) : Stmt := assignStmt name (nameExpr name)

def guardedPublishStmt (name : String) : Stmt :=
  .try default false [publishStmt name]
    [⟨default, some (nameExpr "NameError"), none, [.pass default]⟩] [] []

def removeStmt (name : String) : Stmt := exportsCall "remove" [textExpr name]

def preloadStmt (name : String) : Stmt :=
  bindStmt name
    (callExpr (.attribute default (nameExpr exportsName) "get" default .load) [textExpr name])

/-- Statements with bodies, whose bindings may not take place. -/
def isCompound : Stmt → Bool
  | .if .. | .for .. | .while .. | .with .. | .try .. | .match .. => true
  | _ => false

/-- A bare annotation only declares. -/
def isBareAnnotation : Stmt → Bool
  | .annAssign _ _ _ none _ => true
  | _ => false

/-- The name whose value a cell shows when the cell ends in an assignment to it. -/
def displayedTarget : Stmt → Option String
  | .assign _ [.name _ id _] _ => some id
  | .augAssign _ (.name _ id _) _ _ => some id
  | _ => none

def withPublication (s : Stmt) : List Stmt :=
  requireStmt false s
    ++ (bindings s).map (if isCompound s then guardedPublishStmt else publishStmt)
    ++ (deletedNames s).map removeStmt

def innerStmts (s : Stmt) : List Stmt := if isBareAnnotation s then [] else withPublication s

def lastStmts (s : Stmt) : List Stmt × Bool :=
  if isBareAnnotation s then ([], false)
  else match s with
    | .expr _ e => ([assignStmt lastName e], true)
    | s =>
      match displayedTarget s with
      | some n => (withPublication s ++ [assignStmt lastName (nameExpr n)], true)
      | none => (withPublication s, false)

/-- The statements of a cell's body after the preloads. -/
def bodyStmts : List Stmt → List Stmt × Bool
  | [] => ([], false)
  | [s] => lastStmts s
  | s :: ss =>
    let (rest, shown) := bodyStmts ss
    (innerStmts s ++ rest, shown)

/-- The earlier names that a cell mentions and does not declare global. -/
def preloads (prior : Declarations) (body : List Stmt) : List Stmt :=
  let used := mentioned (body.map requireInside)
  let globals := topLevelGlobals body
  (prior.names.filter fun n => used.contains n && !globals.contains n).map preloadStmt

/-- The statements that take part in the body and may import. -/
def importing : List Stmt → List Stmt
  | [] => []
  | [.expr ..] => []
  | s :: ss => if isBareAnnotation s then importing ss else s :: importing ss

/-- Goes on if a statement that was made can be read from its text: a name that came from letters of
another kind may be a keyword there. -/
def readBack (s : Stmt) : Except Trouble Unit := do
  if (mentioned [s]).any keywords.contains then
    match parseText (← printed (printBody [s])) with
    | .error (.fault f) => throw (.unreadable f)
    | _ => pure ()

/-- Goes on if all statements can be read back. -/
def readAllBack : List Stmt → Except Trouble Unit
  | [] => .ok ()
  | s :: ss => do
    readBack s
    readAllBack ss

/-- The statements that are made for one of a cell: for the imports in it, and for what it binds. -/
def madeFor (s : Stmt) : List Stmt :=
  (imports s).flatMap (requireStmt false)
    ++ (bindings s).map (if isCompound s then guardedPublishStmt else publishStmt)

def buildBody (prior : Declarations) (body : List Stmt) :
    Except Trouble (String × Option String) := do
  readAllBack ((importing body).flatMap madeFor)
  let (stmts, shown) := bodyStmts body
  if stmts.isEmpty then return ("", none)
  readAllBack (preloads prior body)
  unlessDeep (exceedsChange (importing body) || exceedsPrinting stmts)
  let text ← printed (printBody (preloads prior body ++ stmts))
  return (text ++ "\n", if shown then some lastName else none)

/-- A module whose imports are calls of its loader, with the specifiers it imports; or what is wrong
with it. -/
inductive Converted where
  | ok (text : String) (specifiers : List String)
  | diagnostics (ds : List Diagnostic) (text : Option String) (specifiers : List String)

namespace Compiler

def relativeName (c : Compiler) (path : String) : String :=
  Path.relative c.places path c.rootDir

def checkModule (path src : String) : Except ParseFault (List Stmt) := do
  let body ← parseText src
  match Code.compile { file := path } body with
  | .ok _ => return body
  | .error f => throw (.fault f)

def convertModule (c : Compiler) (src path : String) : Except Trouble Converted :=
  let file := c.relativeName path
  match checkModule path src with
  | .error (.trouble t) => .error t
  | .error (.fault f) => .ok (.diagnostics [faultDiagnostic f file] none [])
  | .ok body => do
    readAllBack ((importsOf body).flatMap (requireStmt true))
    unlessDeep (exceedsChange body || exceedsPrinting body)
    let text := (← printed (printBody (requireStmts true body))) ++ "\n"
    match wildcards body with
    | [] => return .ok text (specifiers body)
    | ps => return .diagnostics (ps.map fun p =>
        { message := "wildcard imports are not supported in generated modules"
          line := p.line - 1, character := p.col, file }) (some text) (specifiers body)

/-- The path of the registered module or file that a specifier names. -/
def locate (c : Compiler) (fs : Files) (specifier dir : String) : Option String :=
  (Specifier.candidates specifier dir c.extension).find? fun p =>
    (c.modules.lookup p).isSome || fs.has p

def readModule (c : Compiler) (fs : Files) (path : String) : Except Trouble String :=
  match c.modules.lookup path with
  | some src => .ok src
  | none =>
    match fs.read? path with
    | some (.ok s) => .ok s
    | some (.error f) => .error (.undecodable f)
    | none => .ok ""

/-- Collecting the modules that a cell needs: what is still to be located, and what is done. -/
structure Collection where
  queue : List (String × String)
  seen : List String := []
  diagnostics : List Diagnostic := []
  out : List SideModule := []

def newPath (c : Compiler) (fs : Files) (seen : List String) (specifier dir : String) :
    Option String :=
  if specifier == c.selfName then none
  else (c.locate fs specifier dir).filter fun path => !seen.contains path

/-- The module at a path, read and converted. -/
def convertPath (c : Compiler) (fs : Files) (path : String) : Except Trouble Converted := do
  c.convertModule (← c.readModule fs path) path

def collectPath (c : Compiler) (fs : Files) (k : Collection) (path : String) :
    Except Trouble Collection × Compiler :=
  let k := { k with seen := path :: k.seen }
  match c.convertPath fs path with
  | .error t => (.error t, c)
  | .ok (.diagnostics ds _ _) => (.ok { k with diagnostics := k.diagnostics ++ ds }, c)
  | .ok (.ok text nested) =>
    let k := { k with queue := k.queue ++ nested.map (·, Path.parent path) }
    if c.emitted.lookup path == some text then (.ok k, c)
    else (.ok { k with out := k.out ++ [⟨path, text⟩] },
      { c with emitted := setKey path text c.emitted })

/-- Takes specifiers from the queue up to the first that leads to a new path; `onward` works through
what is then in the queue. -/
def collectNext (fs : Files)
    (onward : Compiler → Collection → Except Trouble Collection × Compiler) (c : Compiler)
    (k : Collection) : List (String × String) → Except Trouble Collection × Compiler
  | [] => (.ok { k with queue := [] }, c)
  | (specifier, dir) :: rest =>
    match c.newPath fs k.seen specifier dir with
    | none => collectNext fs onward c k rest
    | some path =>
      match c.collectPath fs { k with queue := rest } path with
      | (.ok k, c) => onward c k
      | (.error t, c) => (.error t, c)

def collectQueue (fs : Files) : (fuel : Nat) → Compiler → Collection →
    Except Trouble Collection × Compiler
  | 0, c, k => (.ok k, c)
  | fuel + 1, c, k => collectNext fs (collectQueue fs fuel) c k k.queue

def paths (c : Compiler) (fs : Files) : List String :=
  c.modules.map (·.1) ++ fs.entries.map (·.1)

/-- The converted texts of the modules that the specifiers reach and that are new or changed. -/
def collectSideModules (c : Compiler) (fs : Files) (specifiers : List String)
    (diagnostics : List Diagnostic) : Except Trouble Collection × Compiler :=
  collectQueue fs ((c.paths fs).length + 1) c { queue := specifiers.map (·, c.rootDir), diagnostics }

/-- The tree of a cell, which may suspend at its top. -/
def checkCell (src : String) : Except ParseFault (List Stmt) := do
  let body ← parseText src
  match Code.compile { file := "<cell>", topAwait := true } body with
  | .ok _ => return body
  | .error f => throw (.fault f)

def wildcardDiagnostic (p : Pos) : Diagnostic :=
  { message := "wildcard imports are not supported in cells", line := p.line - 1
    character := p.col }

/-- Compiles a cell against the declarations before it. The compiler remembers what it has handed
out even when the work stops on the way. -/
def compile (c : Compiler) (fs : Files) (prior src : String) :
    Except Trouble Compiled × Compiler :=
  let refused (d : Diagnostic) : Except Trouble Compiled × Compiler :=
    (.ok { declarations := prior, diagnostics := [d] }, c)
  match parseDeclarations prior with
  | .error t => (.error t, c)
  | .ok decls =>
    match checkCell src with
    | .error (.trouble t) =>
      if t.isRefusal then refused { message := t.message } else (.error t, c)
    | .error (.fault f) => refused (faultDiagnostic f "")
    | .ok body =>
      match buildBody decls body, declareBody decls body with
      | .error t, _ => (.error t, c)
      | .ok _, .error t => (.error t, c)
      | .ok (text, last), .ok after =>
        let diagnostics := checkNames c.extraGlobals decls body
          ++ (wildcards (importing body)).map wildcardDiagnostic
        match c.collectSideModules fs (specifiers (importing body)) diagnostics with
        | (.error t, c) => (.error t, c)
        | (.ok k, c) =>
          (.ok { body := text, declarations := after.text, diagnostics := k.diagnostics
                 sideModules := k.out, hasTopLevelAwait := hasTopLevelAwait body
                 lastBinding := last }, c)

/-- Records a text as a module that cells can import, whatever is wrong with it. -/
def register (c : Compiler) (name src : String) : Except Trouble (List Diagnostic) × Compiler :=
  let path := (Specifier.candidates name c.rootDir c.extension).headD ""
  let c := { c with modules := setKey path src c.modules }
  match checkModule path src with
  | .ok _ => (.ok [], c)
  | .error (.trouble t) => (.error t, c)
  | .error (.fault f) => (.ok [faultDiagnostic f (c.relativeName path)], c)

/-- Forgets modules and texts. -/
def close (c : Compiler) : Compiler := { c with modules := [], emitted := [] }

end Compiler

end Notebook.Cell
