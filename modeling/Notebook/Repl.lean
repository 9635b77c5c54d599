import Notebook.Session.Run
import Notebook.Yaml.Construct

/-! The command line: a file runs as one cell, and without a file lines are read and run in turn. -/

set_option autoImplicit false

namespace Notebook.Repl

open Notebook.Machine Notebook.Loop Notebook.Session Notebook.Text

/-- What a run of the command line is given. -/
structure Request where
  places : Path.Places
  args : List String := []
  input : String := ""
  /-- The path of a settings file, if one is named. -/
  config : Option String := none
  files : Files := {}
  /-- How often the event loop turns while a line is read. -/
  turns : Nat := 2

inductive Ending where
  | done
  /-- With a code for the caller. -/
  | exit (code : Datum)
  | badConfig (e : ConfigError)
  | badYaml (e : Yaml.Error)
  | undecodable (f : DecodeFault)
  | raised (error : Described)

structure Answer where
  streams : Streams := {}
  ending : Ending := .done

def fileSettings (w : Path.Places) (fs : Files) (path : String) : Except Ending Config :=
  match Config.readText w fs path with
  | .error e => .error (.badConfig e)
  | .ok text =>
    match Yaml.load text with
    | .error e => .error (.badYaml e)
    | .ok d => (Config.ofFileDatum w path d).mapError .badConfig

/-- Settings from the named file, or the default ones for a root directory. -/
def settings (r : Request) (root : String) : Except Ending Config :=
  match r.config.filter (· != "") with
  | none => (Config.ofDatum r.places (.dict [(.str "root_dir", .str root)])).mapError .badConfig
  | some path => fileSettings r.places r.files path

/-! Errors that nothing in the session takes. -/

def exitCode (exc : Value) : S Datum := do
  let args ← inWorldOr [] do
    match ← payload exc with
    | .exception e => return e.args
    | _ => return []
  match args with
  | [.int n] => return .int n
  | [.bool b] => return .bool b
  | [.str s] => return .str s
  | _ => return .none

def endingOf (exc : Value) : S Ending := do
  if ← inWorldOr false (isError exc "SystemExit") then return .exit (← exitCode exc)
  return .raised (← describeError exc)

/-- The lines of a text whose line ends are line feeds, each with its own. -/
def inputLines : List Char → List Char → List String
  | [], [] => []
  | [], acc => [String.ofList acc.reverse]
  | '\n' :: cs, acc => String.ofList ('\n' :: acc).reverse :: inputLines cs []
  | c :: cs, acc => inputLines cs (c :: acc)

def chomp (s : String) : String := String.ofList (trimRight (· == '\n') s.toList)

def opensBlock (line : String) : Bool :=
  let t := trimEnd line
  t.endsWith ":" || t.endsWith "\\"

/-- The lines of a block up to an empty one or the end, how many prompts they took, and the rest. -/
def readBlock : List String → List String × Nat × List String
  | [] => ([], 1, [])
  | raw :: rest =>
    if isBlankText raw then ([], 1, rest)
    else
      let (block, prompts, rest) := readBlock rest
      (chomp raw :: block, prompts + 1, rest)

theorem length_readBlock (ls : List String) : (readBlock ls).2.2.length ≤ ls.length := by
  induction ls with
  | nil => simp [readBlock]
  | cons l ls ih =>
    rw [readBlock]
    split
    · simp
    · simpa using Nat.le_succ_of_le ih

def printOut (s : String) : S Unit := inWorldOr () (writeOut s)

/-- Shows prompts and lets the tasks of the session go on. A closed input cannot be read. -/
def prompt (main : FutureId) (turns : Nat) (text : String) : Nat → S (Back Unit)
  | 0 => return .ok ()
  | n + 1 => do
    printOut text
    match ← settle main (return false) turns with
    | .ok _ =>
      if (← get).world.hasInput then prompt main turns text n
      else return .left (← inWorldOr .none
        (newException "ValueError" [.str "I/O operation on closed file"]))
    | other => return other

/-- How the loop ends, if it does, by an error that a cell lets through: the end of the input is one that
only ends it. -/
def afterCell : Back RunEnd → S (Option Ending)
  | .ok (.outcome ..) => return none
  | .ok (.escaped exc) => do
    if ← inWorldOr false (isError exc "EOFError") then
      printOut "\nExiting.\n"
      return some .done
    return some (← endingOf exc)
  | .left exc => return some (← endingOf exc)
  | .stuck => return some .done

def runCell (main : FutureId) (cell : String) : S (Option Ending) := do
  afterCell (← Session.run main cell)

def loop (main : FutureId) (turns : Nat) (ls : List String) : S Ending := do
  match ← prompt main turns ">> " 1 with
  | .left exc => endingOf exc
  | .stuck => return .done
  | .ok _ =>
    match ls with
    | [] =>
      printOut "\nExiting.\n"
      return .done
    | raw :: rest =>
      let line := chomp raw
      let word := trim line
      if word == "" then loop main turns rest
      else if word == "exit" then return .done
      else if word == "%reset" then
        reset
        loop main turns rest
      else if opensBlock line then
        let block := readBlock rest
        match ← prompt main turns "... " block.2.1 with
        | .left exc => endingOf exc
        | .stuck => return .done
        | .ok _ =>
          (← runCell main (joinWith "\n" (line :: block.1))).elim (loop main turns block.2.2) pure
      else
        (← runCell main line).elim (loop main turns rest) pure
termination_by ls.length
decreasing_by
  all_goals
    have := length_readBlock rest
    simp only [List.length_cons]
    omega

def pendingTasks (l : Loops Body Value Value Gather) : List FutureId :=
  (List.range l.futures.size).filter fun f =>
    !l.isDone f && ((l.future? f).bind (·.task)).isSome

/-- Ends the main task and cancels what still runs. -/
def shutDown (main : FutureId) : S Unit := do
  discard (runner.conclude main)
  modify fun s =>
    let loops := (pendingTasks s.world.loops).foldl (fun l f => (l.cancel f).2) s.world.loops
    { s with world := { s.world with loops } }
  discard (runner.advance fuel)

/-- What a run leaves behind. -/
def Answer.after (x : S Ending) (s : State) : Answer :=
  { streams := (x s).2.world.streams, ending := (x s).1 }

def asMain (before : String) (body : FutureId → S Ending) : S Ending := do
  printOut before
  let main ← open_
  let ending ← body main
  close
  shutDown main
  return ending

def inSession (r : Request) (config : Config) (before : String) (body : FutureId → S Ending) : Answer :=
  .after (asMain before body) (State.start r.places config r.files true)

def directoryOf (places : Path.Places) (path : String) : String :=
  let parts := (Path.components path).filter fun c => c != "" && c != "."
  let dir := joinWith "/" parts.dropLast
  Path.absolute places (if Path.isAbsolute path then "/" ++ dir else dir)

def runScript (source : String) (main : FutureId) : S Ending := do
  match ← Session.run main source with
  | .ok (.outcome status _) => return if status.isOk then .done else .exit (.int 1)
  | .ok (.escaped exc) => endingOf exc
  | .left exc => endingOf exc
  | .stuck => return .done

def runFile (r : Request) (path : String) : Answer :=
  match r.files.read? (Path.absolute r.places path) with
  | none =>
    { streams := { err := s!"Error: file not found: {path}\n" }, ending := .exit (.int 1) }
  | some (.error f) => { ending := .undecodable f }
  | some (.ok source) =>
    match settings r (directoryOf r.places path) with
    | .error e => { ending := e }
    | .ok config => inSession r config "" (runScript source)

def banner : String := "pycell REPL v0.1\nType 'exit' or press Ctrl+D to quit.\n"

/-- Runs the file that the first argument names, or the lines of the input. -/
def run (r : Request) : Answer :=
  match r.args.head?.filter fun a => !a.startsWith "-" with
  | some path => runFile r path
  | none =>
    match settings r r.places.current with
    | .error e => { streams := { out := banner }, ending := e }
    | .ok config =>
      inSession r config banner fun main => loop main r.turns (inputLines r.input.toList [])

end Notebook.Repl
