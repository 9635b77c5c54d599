import Notebook.Display.Shown

/-! Templates with tags between braces: variables, sections, inverted sections, comments, and tags
that change the marks. Texts are put in as they are. -/

set_option autoImplicit false

namespace Notebook.Template

open Notebook.Text

inductive TagKind where
  | variable
  | comment
  | part
  | opening
  | inverted
  | closing
  | marks
deriving DecidableEq, Repr

structure Tag where
  kind : TagKind
  key : String
deriving DecidableEq, Repr

def blanks (cs : List Char) : Nat := (cs.takeWhile isBlank).length

def closeAfter (mark cs : List Char) : Option Nat :=
  let n := blanks cs
  if mark.isPrefixOf (cs.drop n) then some (n + mark.length) else none

/-- The shortest key, of one character at least, that something closing follows; gives the key and
the number of characters of it and of what closes it. -/
def shortestKey (allowed : Char → Bool) (close : List Char → Option Nat) :
    List Char → List Char → Option (List Char × Nat)
  | acc, cs =>
    match if acc.isEmpty then none else close cs with
    | some n => some (acc.reverse, acc.length + n)
    | none =>
      match cs with
      | [] => none
      | c :: rest => if allowed c then shortestKey allowed close (c :: acc) rest else none

/-- A key after some blanks; fewer blanks are skipped only if the key has no other character. -/
def keyAfterBlanks (allowed : Char → Bool) (close : List Char → Option Nat) (cs : List Char) :
    Nat → Option (List Char × Nat)
  | 0 => shortestKey allowed close [] cs
  | n + 1 =>
    match shortestKey allowed close [] (cs.drop (n + 1)) with
    | some (k, m) => some (k, n + 1 + m)
    | none => keyAfterBlanks allowed close cs n

def kindOf : Char → Option TagKind
  | '!' => some .comment
  | '>' => some .part
  | '&' => some .variable
  | '/' => some .closing
  | '#' => some .opening
  | '^' => some .inverted
  | _ => none

def notLineFeed (c : Char) : Bool := c != '\n'

def closeWith (c : Char) (mark cs : List Char) : Option Nat :=
  let n := blanks cs
  match cs.drop n with
  | d :: rest => if d == c then (closeAfter mark rest).map (n + 1 + ·) else none
  | [] => none

def tagBody (close cs : List Char) : Option (Tag × Nat) :=
  let bracketed (opening closing : Char) (kind : TagKind) : Option (Tag × Nat) :=
    match cs with
    | c :: rest =>
      if c == opening then
        (keyAfterBlanks notLineFeed (closeWith closing close) rest (blanks rest)).map fun (k, n) =>
          (⟨kind, String.ofList k⟩, n + 1)
      else none
    | [] => none
  let plain (kind : TagKind) (skip : Nat) : Option (Tag × Nat) :=
    let rest := cs.drop skip
    (keyAfterBlanks (fun _ => true) (closeAfter close) rest (blanks rest)).map fun (k, n) =>
      (⟨kind, String.ofList k⟩, n + skip)
  let marked : Option (Tag × Nat) :=
    match cs with
    | c :: _ => (kindOf c).bind fun kind => plain kind 1
    | [] => none
  bracketed '=' '=' .marks <|> bracketed '\x7b' '\x7d' .variable <|> marked <|> plain .variable 0

def tagAfterBlanks (close cs : List Char) : Nat → Option (Tag × Nat)
  | 0 => tagBody close cs
  | n + 1 =>
    match tagBody close (cs.drop (n + 1)) with
    | some (t, m) => some (t, n + 1 + m)
    | none => tagAfterBlanks close cs n

def isGap (c : Char) : Bool := c == ' ' || c == '\t'

/-- The tag that a text starts with, after some gap: the gap, the tag and the number of characters.
-/
def tagAt (opening close cs : List Char) : Option (Nat × Tag × Nat) :=
  let gap := (cs.takeWhile isGap).length
  let rest := cs.drop gap
  if opening.isPrefixOf rest then
    let inner := rest.drop opening.length
    (tagAfterBlanks close inner (blanks inner)).map fun (t, n) =>
      (gap, t, gap + opening.length + n)
  else none

def findTag (opening close : List Char) : List Char → Nat → Option (Nat × Nat × Tag × Nat)
  | [], _ => none
  | c :: cs, before =>
    match tagAt opening close (c :: cs) with
    | some (gap, t, n) => some (before, gap, t, n)
    | none => findTag opening close cs (before + 1)

inductive Node where
  | text (s : String)
  | variable (key : String)
  | section (inverted : Bool) (key : String) (inner : List Node)

inductive ParseError where
  | mismatch (position : Nat) (found : String) (expected : Option String)
  /-- A change of marks that does not give two. -/
  | marks
deriving DecidableEq, Repr

def ParseError.message : ParseError → String
  | .mismatch position found expected =>
    let wanted := match expected with
      | some e => "\x7b\x7b/" ++ e ++ "\x7d\x7d"
      | none => "\x7b\x7b#" ++ found ++ "\x7d\x7d"
    "Section end tag mismatch at position " ++ toString position ++ ". Found \x7b\x7b/" ++ found
      ++ "\x7d\x7d, expected " ++ wanted
  | .marks => "list index out of range"

/-- The sections that are open, and the nodes of the innermost one. -/
structure Builder where
  opening : List Char := ['\x7b', '\x7b']
  close : List Char := ['\x7d', '\x7d']
  nodes : List Node := []
  key : Option String := none
  outer : List (Bool × Option String × List Node) := []

def Builder.add (b : Builder) (n : Node) : Builder := { b with nodes := b.nodes ++ [n] }

def Builder.addText (b : Builder) (cs : List Char) : Builder :=
  if cs.isEmpty then b else b.add (.text (String.ofList cs))

def words (s : String) : List String :=
  ((s.toList.splitBy fun a b => isBlank a == isBlank b).filter fun w => !w.all isBlank).map
    String.ofList

def Builder.take (b : Builder) (t : Tag) (position : Nat) : Except ParseError Builder :=
  match t.kind with
  | .comment | .part => .ok b
  | .variable => .ok (b.add (.variable t.key))
  | .opening =>
    .ok { b with outer := (false, b.key, b.nodes) :: b.outer, key := some t.key, nodes := [] }
  | .inverted =>
    .ok { b with outer := (true, b.key, b.nodes) :: b.outer, key := some t.key, nodes := [] }
  | .closing =>
    match b.outer with
    | (inverted, key, nodes) :: outer =>
      if b.key == some t.key then
        .ok { b with outer, key, nodes := nodes ++ [.section inverted t.key b.nodes] }
      else .error (.mismatch position t.key b.key)
    | [] => .error (.mismatch position t.key b.key)
  | .marks =>
    match words t.key with
    | o :: c :: _ => .ok { b with opening := o.toList, close := c.toList }
    | _ => .error .marks

def endsLine : List Char → Bool
  | [] => true
  | c :: _ => c == '\r' || c == '\n'

def lineEnd : List Char → Nat
  | '\r' :: '\n' :: _ => 2
  | '\r' :: _ => 1
  | '\n' :: _ => 1
  | _ => 0

/-- Reads tags up to the end. A tag that is no variable and stands alone on a line takes the line
with it. `atLineStart` tells whether the text so far ends a line; a tag takes a character at least.
-/
def build : (fuel : Nat) → Builder → (atLineStart : Bool) → (position : Nat) → List Char →
    Except ParseError (List Node)
  | 0, b, _, _, cs => .ok (b.addText cs).nodes
  | fuel + 1, b, atLineStart, position, cs =>
    match findTag b.opening b.close cs 0 with
    | none => .ok (b.addText cs).nodes
    | some (before, gap, t, n) =>
      let begins := if before == 0 then atLineStart
        else match cs[before - 1]? with
          | some c => c == '\r' || c == '\n'
          | none => atLineStart
      let after := cs.drop (before + n)
      let alone := begins && endsLine after && t.kind != .variable
      let (text, used) := if alone then (cs.take before, before + n + lineEnd after)
        else (cs.take (before + gap), before + n)
      match (b.addText text).take t (position + used) with
      | .error e => .error e
      | .ok b =>
        let last := match (cs.take used).getLast? with
          | some c => c == '\r' || c == '\n'
          | none => atLineStart
        build fuel b last (position + used) (cs.drop used)

/-- The nodes of a template. A section that is never closed stands for the whole. -/
def parse (s : String) : Except ParseError (List Node) :=
  build (s.length + 1) {} true 0 s.toList

inductive Frame where
  | fields (fs : List (String × Display.Shown))
  | value (v : Display.Shown)

def isFalse : Display.Shown → Bool
  | .str s => s == ""
  | .int n => n == 0
  | .dict es => es.isEmpty
  | _ => false

def Frame.shown : Frame → Display.Shown
  | .fields fs => .dict (fs.map fun f => (.str f.1, f.2))
  | .value v => v

def simple? (name : String) : List Frame → Option Frame
  | [] => none
  | .fields fs :: rest =>
    match fs.lookup name with
    | some v => some (.value v)
    | none => simple? name rest
  | .value _ :: rest => simple? name rest

/-- The value of a key, innermost frame first; what is absent is an empty text. -/
def find (frames : List Frame) (key : String) : Frame :=
  let absent := Frame.value (.str "")
  if key == "." then frames.headD absent
  else match (splitAt '.' key.toList).map String.ofList with
    | [name] => (simple? name frames).getD absent
    | _ => absent

mutual

def renderNode (frames : List Frame) : Node → String
  | .text s => s
  | .variable key => (find frames key).shown.plain
  | .section inverted key inner =>
    let data := find frames key
    if isFalse data.shown then if inverted then renderNodes frames inner else ""
    else if inverted then "" else renderNodes (data :: frames) inner

def renderNodes (frames : List Frame) : List Node → String
  | [] => ""
  | n :: ns => renderNode frames n ++ renderNodes frames ns

end

def render (s : String) (fields : List (String × Display.Shown)) : Except ParseError String :=
  (parse s).map (renderNodes [.fields fields])

end Notebook.Template
