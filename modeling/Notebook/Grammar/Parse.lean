import Notebook.Grammar.Stmt

/-! From a source text to its statements, or to the fault that it has.

A text is read twice at most: first for its statements, and when no reading exists once more with
the alternatives that describe faults. A fault found by a rule gives way to a fault that scanning
the rest of the text meets. -/

set_option autoImplicit false

namespace Notebook.Grammar

open Notebook.Source Notebook.Tree

/-- The fault that scanning meets in the part of the text that no rule looked at, which hides a
fault on line `line`. -/
def scanFault (e : Env) (line : Nat) (cursor : Cursor) : Option Fault :=
  match e.lexed.stop with
  | none => none
  | some stop =>
    match stop.cause with
    | .fault f => some f
    | _ =>
      match stop.bracket with
      | some b => if line > b.line then some (e.neverClosed cursor b) else none
      | none => none

def Env.cursorAt (e : Env) (seen : Nat) : Cursor :=
  match e.lexed.tokens[seen - 1]? with
  | some t => t.after
  | none => {}

def hideBy (e : Env) (f : Fault) (line : Option Nat) : Fault :=
  match line with
  | none => f
  | some line =>
    let cursor := match e.lexed.stop with
      | some s => s.cursor
      | none => {}
    (scanFault e line cursor).getD f

def read {α : Type} (rule : R α) (e : Env) : Except Fault α :=
  match rule e { memo := {} } with
  | .found a _ => .ok a
  | .raised f line => .error (hideBy e f line)
  | .missed s =>
    let seen := s.seen
    let again := { e with rejecting := true }
    match rule again { memo := {}, seen } with
    | .raised f line => .error (hideBy e f line)
    | .found _ s | .missed s =>
      let cursor := e.cursorAt s.seen
      match e.lexed.tokens[seen - 1]?, e.lexed.tokens[s.seen - 1]? with
      | some last, some far =>
        let indentation (message : String) : Fault :=
          let col := match far.col with
            | some c => c + 1
            | none => cursor.cur - cursor.lineStart
          e.fault cursor .indentation far.line col message
        if last.kind = .indent then .error (indentation "unexpected indent")
        else if last.kind = .dedent then .error (indentation "unexpected unindent")
        else
          let col := match last.col with
            | some c => c + 1
            | none => 0
          .error (hideBy e (e.fault cursor .malformed last.line col "invalid syntax") (some far.line))
      | _, _ => .error { message := "error at start before reading any input", line := 0, offset := 0 }

def shiftTokens (base : Pos) (l : Lexed) : Lexed :=
  { l with tokens := l.tokens.map fun t =>
      if t.line == base.line then { t with col := t.col.map (· + base.col) } else t }

def readEmbedded (g : Rules) (text : List Char) (base : Pos) : Except Fault Expr :=
  let cs := text ++ ['\n']
  read (starExpressions g)
    { chars := cs, lexed := shiftTokens base (lex cs base.line), rejecting := false,
      embedded := some base }

def knot : Nat → Rules
  | 0 =>
    { expr := fun _ => P.miss, pattern := fun _ => P.miss, block := P.miss,
      embed := fun _ _ => .error { message := "expression too deep", line := 0, offset := 0 } }
  | n + 1 =>
    { expr := fun r e s => rememberExpr r (exprRule (knot n) r) e s
      pattern := fun r e s => rememberPattern r (patternRule (knot n) r) e s
      block := fun e s => rememberBlock (blockRule (knot n)) e s
      embed := fun cs pos => readEmbedded (knot n) cs pos }

/-- How deep references may go: a level of nesting takes a character at least, and passes through
fewer rules than this many. -/
def depthFor (chars : Nat) : Nat := 50 * (chars + 10)

def parse (src : String) : Except Fault (List Stmt) :=
  let cs := sourceChars src
  let lexed := lex cs
  read (file (knot (depthFor cs.length))) { chars := cs, lexed, rejecting := false }

end Notebook.Grammar
