import Notebook.Cell.Directive
import Notebook.Cell.Inspect
import Notebook.Cell.Report
import Notebook.Config
import Notebook.Outcome
import Notebook.Realm
import Notebook.Sink

/-! The state of a session and what it writes: cells run one after another against one set of
names, and every failure is reported. -/

set_option autoImplicit false

namespace Notebook.Session

open Notebook.Machine Notebook.Loop Notebook.Cell

inductive Sink where
  | record (r : Record Value)
  | console

inductive Detail where
  | none
  | diagnostics (ds : List Diagnostic)
  | error (exc : Value)

/-- How a run ends: with an outcome, or with an error that nothing reports. -/
inductive RunEnd where
  | outcome (status : Status) (detail : Detail)
  | escaped (exc : Value)

/-- How a run ends when its body is over: at once, or when a value or an error is written. -/
inductive Closing where
  | atOnce (e : RunEnd)
  | writing (c : Channel) (v : Value) (e : RunEnd)

structure State where
  config : Config
  /-- The compiler of the cells that run here. -/
  inner : Compiler
  /-- The compiler of the cells that run in a browser. -/
  browser : Compiler
  files : Files
  declarations : String := ""
  exports : Ref
  realm : Realm
  loader : Value
  controller : Controller := {}
  sink : Sink
  /-- The ends of runs that were tasks of their own, the last one first. -/
  ends : List (FutureId × Closing × RunEnd) := []
  world : World

abbrev S := StateM State

def inWorld {α : Type} (x : M α) : S (Except Value α) := fun s =>
  match x.run s.world with
  | .ok a world => (.ok a, { s with world })
  | .error (.raised e) world => (.error e, { s with world })
  | .error .exhausted world => (.error .none, { s with world })

def inWorldOr {α : Type} (default : α) (x : M α) : S α := do
  match ← inWorld x with
  | .ok a => return a
  | .error _ => return default

def selfNameOf (c : Config) : Option String :=
  match c.selfName with
  | .str s => some s
  | _ => none

def compilerOf (places : Path.Places) (c : Config) : Compiler :=
  { places, rootDir := c.root, extension := c.extension, selfName := (selfNameOf c).getD "" }

/-- A new session. -/
def State.start (places : Path.Places) (config : Config) (files : Files) (isConsole : Bool)
    (realmName : String := cellFunction) : State :=
  let cache : Module.Cache Ref :=
    { places, rootDir := config.root, extension := config.extension, selfName := selfNameOf config }
  let inner := compilerOf places config
  let setUp : M (Ref × Realm × Value) := do
    let exports ← alloc { cls := nativeRef "ExportNamespace", payload := .exports {} }
    return (exports, ← Realm.start realmName, ← newLoader config.root)
  let world := World.start cache
  let ((exports, realm, loader), world) := match setUp.run world with
    | .ok a w => (a, w)
    | .error _ w => ((0, { globals := 0 }, Value.none), w)
  { config, inner, browser := { inner with extraGlobals := browserGlobals }, files, exports, realm
    loader, sink := if isConsole then .console else .record {}, world }

/-! Writing. -/

/-- Writes a value; the error is one that its text raised. -/
def write (c : Channel) (v : Value) : S (Except Value Unit) := do
  match (← get).sink with
  | .record r =>
    modify fun s => { s with sink := .record (r.write c v) }
    return .ok ()
  | .console =>
    inWorld do
      match c, v with
      | .error, .str text => writeErr (text ++ "\n")
      | .error, v => do writeErr ((← displayText host v) ++ "\n")
      | .result, v => do writeOut ((← displayText host v) ++ "\n")

/-- Ends a run. Nothing takes the error of a text that cannot be formed. -/
def Closing.conclude : Closing → S RunEnd
  | .atOnce e => return e
  | .writing c v e => do
    match ← write c v with
    | .ok _ => return e
    | .error exc => return .escaped exc

def success : Closing := .atOnce (.outcome .success .none)

/-- The end of a run with an error, which is reported. -/
def fail (status : Status) (exc : Value) : Closing := .writing .error exc (.outcome status (.error exc))

def newError (cls message : String) : S Value :=
  inWorldOr .none (newException cls [.str message])

def troubleError (t : Trouble) : S Value :=
  match t with
  | .outOfMemory => inWorldOr .none (newException t.errorClass [])
  | t => newError t.errorClass t.message

def reportOf (d : Diagnostic) : S (Except Value String) := do
  match (← get).config.template with
  | .str template =>
    match d.report template with
    | .ok text => return .ok text
    | .error e =>
      let cls := match e with
        | .mismatch .. => "ParsingError"
        | .marks => "IndexError"
      return .error (← newError cls e.message)
  | other => return .error (← newError "TypeError" s!"template has type {other.typeName}")

def report : List Diagnostic → S (Except Value Unit)
  | [] => return .ok ()
  | d :: ds => do
    match ← reportOf d with
    | .error e => return .error e
    | .ok text =>
      match ← write .error (.str text) with
      | .error e => return .error e
      | .ok _ => report ds

/-! Names. -/

def exportsNow : S (Exports Value) := do
  let s ← get
  match (s.world.heap.getD s.exports default).payload with
  | .exports e => return e
  | _ => return {}

def setExports (e : Exports Value) : S Unit := do
  let r := (← get).exports
  inWorldOr () (setPayload r (.exports e))

/-- The names that cells have bound, with their values. -/
def names : S Names := do return (← exportsNow).entries

def globals : S Names := do
  let s ← get
  return (s.world.heap.getD s.realm.globals default).attrs

structure Described where
  type : String
  message : String

def describeError (exc : Value) : S Described := do
  let (type, message) ← inWorldOr ("Exception", "") (describe host exc)
  return { type, message }

def shown (v : Value) : S (Except Described String) := do
  match ← inWorld (displayText host v) with
  | .ok text => return .ok text
  | .error e => return .error (← describeError e)

def shownEvent (c : Channel) (v : Value) : S (Except Described String) :=
  match c, v with
  | .error, .str text => return .ok text
  | _, v => shown v

/-- Everything written since the record was cleared, rendered now. -/
def events : S (Option (List (Channel × Except Described String))) := do
  match (← get).sink with
  | .console => return none
  | .record r => return some (← r.events.mapM fun (c, v) => do return (c, ← shownEvent c v))

def clearEvents : S Unit := modify fun s =>
  match s.sink with
  | .record r => { s with sink := .record r.clear }
  | .console => s

def takeOutput : S Streams := do
  let s ← get
  set { s with world := { s.world with streams := {} } }
  return s.world.streams

def reset : S Unit := do
  modify fun s => { s with declarations := "" }
  setExports {}

def close : S Unit := modify fun s =>
  { s with inner := s.inner.close, browser := s.browser.close }

def compilerFor (src : String) : S Compiler := do
  let s ← get
  return if (metadata src).mode == .browser then s.browser else s.inner

end Notebook.Session
