import Notebook.Text.Lines

set_option autoImplicit false

namespace Notebook.Path

open Notebook.Text

def components (p : String) : List String := (splitAt '/' p.toList).map String.ofList

/-- How many slashes lead a normalised path: two are kept as two, three and more count as one. -/
def leadingSlashes (p : String) : Nat :=
  match p.toList with
  | '/' :: '/' :: '/' :: _ => 1
  | '/' :: '/' :: _ => 2
  | '/' :: _ => 1
  | _ => 0

/-- Takes one more component into a resolved list, which is kept in reverse. Climbing above the
start is dropped from a rooted path and kept in another. -/
def climb (rooted : Bool) (done : List String) (c : String) : List String :=
  if c == "" || c == "." then done
  else if c != ".." then c :: done
  else match done with
    | [] => if rooted then [] else [".."]
    | d :: rest => if d == ".." then c :: d :: rest else rest

def resolved (rooted : Bool) (cs : List String) : List String :=
  (cs.foldl (climb rooted) []).reverse

/-- The shortest spelling of a path. -/
def normalize (p : String) : String :=
  let n := leadingSlashes p
  let s := String.ofList (List.replicate n '/') ++ joinWith "/" (resolved (n != 0) (components p))
  if s == "" then "." else s

def isAbsolute (p : String) : Bool := p.startsWith "/"

/-- Appends a path to another; one that starts with a slash replaces what is before it. -/
def append (p q : String) : String :=
  if isAbsolute q then q
  else if p == "" || p.endsWith "/" then p ++ q
  else p ++ "/" ++ q

def join (p : String) (qs : List String) : String := qs.foldl append p

/-- The part of a path up to its last slash, without slashes at its end unless it has nothing else.
-/
def parent (p : String) : String :=
  let head := (p.toList.reverse.dropWhile (· != '/'))
  let cut := head.dropWhile (· == '/')
  String.ofList (if cut.isEmpty then head.reverse else cut.reverse)

def fileName (p : String) : String :=
  String.ofList (p.toList.reverse.takeWhile (· != '/')).reverse

/-- Divides a path before the last dot of its file name; dots that lead the name do not count. -/
def splitExtension (p : String) : String × String :=
  let name := (fileName p).toList
  let dots := name.takeWhile (· == '.')
  let rest := name.dropWhile (· == '.')
  if rest.contains '.' then
    let ext := (rest.reverse.takeWhile (· != '.')).reverse
    let stem := rest.take (rest.length - ext.length - 1)
    let dir := p.toList.take (p.length - name.length)
    (String.ofList (dir ++ dots ++ stem), String.ofList ('.' :: ext))
  else (p, "")

/-- The directories that relative paths and `~` refer to. -/
structure Places where
  current : String
  home : String

def absolute (w : Places) (p : String) : String :=
  normalize (if isAbsolute p then p else append w.current p)

/-- Puts the home directory in place of a leading `~`; one followed by a name stays. -/
def expandHome (w : Places) (p : String) : String :=
  match p.toList with
  | ['~'] =>
    let home := String.ofList (trimRight (· == '/') w.home.toList)
    if home == "" then "/" else home
  | '~' :: '/' :: rest =>
    String.ofList (trimRight (· == '/') w.home.toList ++ '/' :: rest)
  | _ => p

def commonPrefix : List String → List String → Nat
  | a :: as, b :: bs => if a == b then commonPrefix as bs + 1 else 0
  | _, _ => 0

def relative (w : Places) (p start : String) : String :=
  let from_ := (components (absolute w start)).filter (· != "")
  let target := (components (absolute w p)).filter (· != "")
  let n := commonPrefix from_ target
  match List.replicate (from_.length - n) ".." ++ target.drop n with
  | [] => "."
  | cs => joinWith "/" cs

end Notebook.Path
