import Notebook.Path

/-! Specifiers: what an import names, and the paths it may denote.

A specifier is dotted names after some leading dots, or a plain path if it contains a slash. -/

set_option autoImplicit false

namespace Notebook.Module

open Notebook.Text

namespace Specifier

def isPath (s : String) : Bool := s.toList.contains '/'

def isRelative (s : String) : Bool := s.startsWith "." || isPath s

/-- How many dots lead a specifier. -/
def level (s : String) : Nat := (s.toList.takeWhile (· == '.')).length

def stem (s : String) : String := String.ofList (s.toList.dropWhile (· == '.'))

def dots (n : Nat) : String := String.ofList (List.replicate n '.')

def isOnlyDots (s : String) : Bool := s.toList.all (· == '.')

/-- The specifier of a submodule. -/
def join (s name : String) : String := if isOnlyDots s then s ++ name else s ++ "." ++ name

def parts (s : String) : List String := dottedParts s

def initials : List String → List (List String)
  | [] => []
  | x :: xs => [x] :: (initials xs).map (x :: ·)

/-- The specifiers of the packages around a module and of the module itself. -/
def prefixes (s : String) : List String :=
  let rest := stem s
  if rest == "" || isPath s then [s]
  else (initials (parts rest)).map fun ps => dots (level s) ++ joinWith "." ps

/-- The path that a specifier names from a directory, without an extension. Each dot beyond the
first climbs one directory. -/
def toPath (s dir : String) : String :=
  if isPath s then Path.normalize (Path.append dir s)
  else
    let rest := stem s
    let ups := List.replicate (level s - 1) ".."
    Path.normalize (Path.join dir (ups ++ if rest == "" then [] else parts rest))

/-- The file that makes a directory a package. -/
def initName : String := "__init__"

/-- The source paths that a specifier may denote, in the order in which they are tried. -/
def candidates (s dir extension : String) : List String :=
  let base := toPath s dir
  if isPath s && (Path.splitExtension base).2 != "" then [base]
  else
    let package := Path.append base (initName ++ extension)
    if isOnlyDots s then [package] else [base ++ extension, package]

/-- A specifier without its last part. -/
def parent (s : String) : String :=
  match (parts s).dropLast with
  | [] => ""
  | ps => joinWith "." ps

/-- The last part of a specifier. -/
def last (s : String) : String := (parts s).getLastD s

end Specifier

end Notebook.Module
