import Notebook.Repl

set_option autoImplicit false

namespace Notebook.Main

open Notebook.Repl

/-- The whole of a stream. -/
partial def readAll (stream : IO.FS.Stream) (acc : String) : IO String := do
  let line ← stream.getLine
  if line == "" then return acc
  readAll stream (acc ++ line)

def readFiles (paths : List String) : IO Files := do
  paths.foldlM (fun files (path : String) => do
    try
      let bytes ← IO.FS.readBinFile path
      return files.write path bytes.toList
    catch _ => return files) {}

/-- The paths that a run can come upon: the script, the settings file, and what lies under the
directory of the script. -/
def pathsFor (places : Path.Places) (args : List String) (config : Option String) :
    IO (List String) := do
  let named := (args ++ config.toList).map (Path.absolute places)
  let here ← IO.currentDir
  let below ← here.walkDir fun p => return !(p.toString.splitOn "/.").length > 1
  return named ++ (below.toList.map (·.toString)).filter (·.endsWith ".py")

def codeOf : Datum → UInt32
  | .none => 0
  | .int n => UInt32.ofNat (n.emod 256).toNat
  | .bool b => if b then 1 else 0
  | _ => 1

def complaint : Ending → String
  | .badConfig e => e.message
  | .badYaml _ => "the settings file cannot be read"
  | .undecodable f => f.message
  | .raised d => d.type ++ ": " ++ d.message
  | .done | .exit _ => ""

end Notebook.Main

open Notebook Notebook.Main in
def main (args : List String) : IO UInt32 := do
  let here ← IO.currentDir
  let places : Path.Places :=
    { current := here.toString, home := (← IO.getEnv "HOME").getD "/" }
  let config ← IO.getEnv "PYCELL_CONFIG"
  let files ← readFiles (← pathsFor places args config)
  let input ← if args.isEmpty then readAll (← IO.getStdin) "" else pure ""
  let answer := Repl.run { places, args, input, config, files }
  IO.print answer.streams.out
  IO.eprint answer.streams.err
  match answer.ending with
  | .done => return 0
  | .exit code => return codeOf code
  | other =>
    IO.eprintln (complaint other)
    return 1
