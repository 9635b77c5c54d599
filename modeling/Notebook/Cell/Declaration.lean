import Notebook.Cell.Names
import Notebook.Grammar.Parse
import Notebook.Text.Codec
import Notebook.Tree.Depth
import Notebook.Tree.Printer
import Notebook.Files

set_option autoImplicit false

namespace Notebook.Cell

open Notebook.Source Notebook.Tree Notebook.Text

inductive Trouble where
  /-- A line of declarations that holds no statement. -/
  | noStatement
  | nullBytes
  /-- A tree that has no text. -/
  | unprintable (e : PrintError)
  /-- A module file that is not text. -/
  | undecodable (f : DecodeFault)
  /-- A text with a character that has no bytes. -/
  | unencodable (f : EncodeFault)
  /-- A tree that is nested too deep to work on. -/
  | tooDeep
  /-- A text that is nested too deep to be read. -/
  | outOfMemory
  /-- A statement made for a name that reads as a keyword. -/
  | unreadable (f : Fault)
deriving Repr

def Trouble.message : Trouble → String
  | .noStatement => "list index out of range"
  | .nullBytes => "source code string cannot contain null bytes"
  | .unprintable e => e.message
  | .undecodable f => f.message
  | .unencodable f => f.message
  | .tooDeep => "maximum recursion depth exceeded"
  | .outOfMemory => ""
  | .unreadable f => s!"{f.message} (<unknown>, line {f.line})"

def Trouble.errorClass : Trouble → String
  | .noStatement => "IndexError"
  | .nullBytes | .unprintable _ => "ValueError"
  | .undecodable _ => "UnicodeDecodeError"
  | .unencodable _ => "UnicodeEncodeError"
  | .tooDeep => "RecursionError"
  | .outOfMemory => "MemoryError"
  | .unreadable _ => "SyntaxError"

def Trouble.isRefusal : Trouble → Bool
  | .nullBytes | .unencodable _ => true
  | _ => false

inductive ParseFault where
  | trouble (t : Trouble)
  | fault (f : Fault)

/-- What stands against reading a text: characters without bytes, then null characters. -/
def refusal? (src : String) : Option Trouble :=
  match encode .utf8 .strict src with
  | .error f => some (.unencodable f)
  | .ok _ => if src.toList.contains (Char.ofNat 0) then some .nullBytes else none

def parseText (src : String) : Except ParseFault (List Stmt) :=
  match refusal? src with
  | some t => .error (.trouble t)
  | none =>
    match Grammar.parse src with
    | .ok ss =>
      if exceedsReading ss then .error (.trouble .outOfMemory)
      else if exceedsTree ss then .error (.trouble .tooDeep)
      else .ok ss
    | .error f => .error (.fault f)

def unlessDeep (isDeep : Bool) : Except Trouble Unit := if isDeep then .error .tooDeep else .ok ()

/-- Names with their declaration lines, in order of first declaration. -/
abbrev Declarations := List (String × String)

namespace Declarations

def declare (ds : Declarations) (name line : String) : Declarations :=
  if ds.any (·.1 == name) then ds.map fun d => if d.1 == name then (name, line) else d
  else ds ++ [(name, line)]

def remove (ds : Declarations) (name : String) : Declarations := ds.filter (·.1 != name)

def names (ds : Declarations) : List String := ds.map (·.1)

/-- The text of declarations, one line each. -/
def text (ds : Declarations) : String := String.join (ds.map fun d => d.2 ++ "\n")

end Declarations

inductive DeclarationKind where
  | function
  | «class»
  | module
  | variable
deriving DecidableEq, Repr

def DeclarationKind.name : DeclarationKind → String
  | .function => "function"
  | .class => "class"
  | .module => "module"
  | .variable => "variable"

def declarationKind (line : String) : DeclarationKind :=
  if line.startsWith "def " || line.startsWith "async def " then .function
  else if line.startsWith "class " then .class
  else if line.endsWith ": module" then .module
  else .variable

def printed (e : Except PrintError String) : Except Trouble String :=
  match e with
  | .ok s => .ok s
  | .error e => .error (.unprintable e)

def objectLine (name : String) : String := name ++ ": object"

def printAll : List Expr → Except Trouble (List String)
  | [] => .ok []
  | e :: es => do
    let s ← printed e.print
    return s :: (← printAll es)

def declareStmt (ds : Declarations) (s : Stmt) : Except Trouble Declarations := do
  let ds := (deletedNames s).foldl Declarations.remove ds
  match s with
  | .function _ h _ =>
    let word := if h.isAsync then "async def" else "def"
    let returns ← match h.returns with
      | some r => do pure (" -> " ++ (← printed r.print))
      | none => pure ""
    let params ← printed h.params.print
    return ds.declare h.name s!"{word} {h.name}({params}){returns}: ..."
  | .class _ h _ =>
    let bases := joinWith ", " (← printAll h.bases)
    return ds.declare h.name
      (if bases == "" then s!"class {h.name}: ..." else s!"class {h.name}({bases}): ...")
  | .import _ names =>
    return names.foldl (fun ds a => ds.declare (a.binding false) (a.binding false ++ ": module")) ds
  | .annAssign _ (.name _ id _) a _ _ =>
    return ds.declare id (id ++ ": " ++ (← printed a.print))
  | s => return (bindings s).foldl (fun ds n => ds.declare n (objectLine n)) ds

def declareStmts : Declarations → List Stmt → Except Trouble Declarations
  | ds, [] => .ok ds
  | ds, s :: ss => do declareStmts (← declareStmt ds s) ss

def declareBody (ds : Declarations) (body : List Stmt) : Except Trouble Declarations := do
  unlessDeep (exceedsNames body)
  declareStmts ds body

def declarationOfLine (line : String) : Except Trouble (Option String) :=
  match parseText line with
  | .error (.trouble t) => .error t
  | .error (.fault _) => .ok none
  | .ok [] => .error .noStatement
  | .ok (s :: _) =>
    match s with
    | .function _ h _ => .ok (some h.name)
    | .class _ h _ => .ok (some h.name)
    | .annAssign _ (.name _ id _) _ _ _ => .ok (some id)
    | _ => .ok none

def readLines : Declarations → List String → Except Trouble Declarations
  | ds, [] => .ok ds
  | ds, l :: ls =>
    if isBlankText l then readLines ds ls
    else match declarationOfLine l with
      | .error t => .error t
      | .ok none => readLines ds ls
      | .ok (some n) => readLines (ds.declare n l) ls

/-- Reads declarations back from their text. -/
def parseDeclarations (text : String) : Except Trouble Declarations := readLines [] (lines text)

end Notebook.Cell
