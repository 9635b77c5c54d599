import Notebook.Text.Lines

set_option autoImplicit false

namespace Notebook.Cell

open Notebook.Text

inductive Mode where
  | local
  | browser
deriving DecidableEq, Repr

def Mode.name : Mode → String
  | .local => "local"
  | .browser => "browser"

structure Directive where
  tag : String
  value : Option String
deriving DecidableEq, Repr

/-- What the directives of a cell say. -/
structure Metadata where
  mode : Mode := .local
  module : Option String := none
  tags : List String := []
deriving DecidableEq, Repr

namespace Directive

def isTagStart (c : Char) : Bool := isAsciiLetter c || c == '_'

def isTagChar (c : Char) : Bool := isWord c || c == '-'

def isValueChar (c : Char) : Bool := isWord c || c == '.'

def isGap (c : Char) : Bool := c == ' ' || c == '\t'

def value? (cs : List Char) : Option (List Char) :=
  match cs.takeWhile isGap, cs.dropWhile isGap with
  | _ :: _, c :: rest => if isTagStart c then some (c :: rest.takeWhile isValueChar) else none
  | _, _ => none

/-- The directives of a line from left to right; `skip` characters belong to the last one. -/
def scan : (skip : Nat) → List Char → List Directive
  | _, [] => []
  | skip + 1, _ :: cs => scan skip cs
  | 0, c :: cs =>
    match c, cs with
    | '@', t :: rest =>
      if isTagStart t then
        let tag := t :: rest.takeWhile isTagChar
        let after := rest.dropWhile isTagChar
        match value? after with
        | some v =>
          ⟨String.ofList tag, some (String.ofList v)⟩ ::
            scan (tag.length + (after.takeWhile isGap).length + v.length) cs
        | none => ⟨String.ofList tag, none⟩ :: scan tag.length cs
      else scan 0 cs
    | _, _ => scan 0 cs

def ofLine (line : String) : List Directive := scan 0 line.toList

end Directive

def Metadata.add (m : Metadata) (d : Directive) : Metadata :=
  let m := { m with tags := m.tags ++ [d.tag] }
  match d.tag, d.value with
  | "module", some v => if v == "" then m else { m with module := some v }
  | "browser", _ => { m with mode := .browser }
  | "node", _ => { m with mode := .local }
  | "local", _ => { m with mode := .local }
  | _, _ => m

def leadingComments : List String → List String
  | [] => []
  | l :: ls =>
    let t := trim l
    if t == "" then leadingComments ls
    else if t.startsWith "#" then t :: leadingComments ls
    else []

/-- What the leading comments of a cell say about it. -/
def metadata (src : String) : Metadata :=
  ((leadingComments (lines src)).flatMap Directive.ofLine).foldl Metadata.add {}

end Notebook.Cell
