import Notebook.Display.Shown
import Notebook.Machine.Native

set_option autoImplicit false

namespace Notebook.Display

open Notebook.Text Notebook.Machine

/-- The message of an exception that has no rule of its own: its only argument, or all of them. -/
def plainMessage : List Shown → String
  | [] => ""
  | [a] => a.plain
  | as => (Shown.tuple as).quoted

def systemMessage (number reason : Shown) (file other : Option Shown) : String :=
  let start := "[Errno " ++ number.plain ++ "] " ++ reason.plain
  match file, other with
  | some f, some o => start ++ ": " ++ f.quoted ++ " -> " ++ o.quoted
  | some f, none => start ++ ": " ++ f.quoted
  | _, _ => start

def isNone : Shown → Bool
  | .none => true
  | _ => false

def sep : String := "/"

def messageOf (type : String) (args : List Shown) : String :=
  if derives type "KeyError" then
    match args with
    | [a] => a.quoted
    | as => plainMessage as
  else if derives type "OSError" then
    match args with
    | [n, r] => systemMessage n r none none
    | [n, r, f] => systemMessage n r (if isNone f then none else some f) none
    | [n, r, f, _] => systemMessage n r (if isNone f then none else some f) none
    | [n, r, f, _, o] =>
      systemMessage n r (if isNone f then none else some f) (if isNone o then none else some o)
    | as => plainMessage as
  else if derives type "SyntaxError" then
    match args with
    | [] => "None"
    | [m] => m.plain
    | [m, .tuple (file :: .int line :: _)] =>
      match file with
      | .str f => s!"{m.plain} ({(f.splitOn sep).getLastD f}, line {line})"
      | _ => s!"{m.plain} (line {line})"
    | m :: _ => m.plain
  else plainMessage args

def classOf (type : String) (args : List Shown) : String :=
  match nativeAlias type, args with
  | "OSError", .int n :: _ :: rest => if rest.length ≤ 3 then systemErrorClass n else "OSError"
  | t, _ => t

def shownException (type : String) (args : List Shown) : Shown :=
  let type := classOf type args
  .exception type (messageOf type args)
    (type ++ match args with
      | [a] => "(" ++ a.quoted ++ ")"
      | as => (Shown.tuple as).quoted)

end Notebook.Display
