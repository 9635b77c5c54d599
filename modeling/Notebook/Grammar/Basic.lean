import Notebook.Source.Lexer

/-! Recognisers over a token stream: ordered choice, lookahead, commitment and located faults.

A recogniser finds a value, misses, or raises a fault. A miss lets the next alternative try from the
same token; a fault ends the reading. How far the reading has looked is kept, because a text that no
alternative accepts is blamed on the last token looked at. -/

set_option autoImplicit false

namespace Notebook.Grammar

open Notebook.Source

structure Env where
  chars : List Char
  lexed : Lexed
  /-- Whether the alternatives that only describe faults take part. -/
  rejecting : Bool
  /-- The place of an expression embedded in a string: its first line and the column where it starts
  there. -/
  embedded : Option Pos := none

def charsBetween (cs : List Char) (start stop : Nat) : List Char :=
  go cs 0
where
  go : List Char → Nat → List Char
    | [], _ => []
    | c :: cs, n =>
      if n < start then go cs (n + c.utf8Size)
      else if n < stop then c :: go cs (n + c.utf8Size)
      else []

def lineText (cs : List Char) (n : Nat) : List Char :=
  match n with
  | 0 | 1 => cs.takeWhile (· != '\n')
  | n + 2 =>
    match cs.dropWhile (· != '\n') with
    | _ :: rest => if rest.isEmpty then cs.takeWhile (· != '\n') else lineText rest (n + 1)
    | [] => cs

/-- How many characters start within the first `bytes` bytes; a place past the end counts one more.
-/
def charsWithin : List Char → Nat → Nat → Nat
  | [], n, bytes => if n < bytes then 1 else 0
  | c :: cs, n, bytes => if n < bytes then charsWithin cs (n + c.utf8Size) bytes + 1 else 0

/-- A fault at a line and a byte column counted from 1, seen while the scanner stood at `c`. -/
def Env.fault (e : Env) (c : Cursor) (kind : FaultKind) (line col : Nat) (message : String) :
    Fault :=
  match e.embedded with
  | some base => { kind, message := "f-string: " ++ message, line, offset := col - base.col }
  | none =>
    let text :=
      if c.line ≤ line && c.lineEnd > c.retained then charsBetween e.chars c.retained c.lineEnd
      else lineText e.chars line
    { kind, message, line, offset := charsWithin text 0 col }

def Env.neverClosed (e : Env) (c : Cursor) (b : Bracket) : Fault :=
  e.fault c .malformed b.line (b.col + 1) ("'" ++ b.mark.toString ++ "' was never closed")

def Env.stopFault (e : Env) (s : Stop) : Fault :=
  let c := s.cursor
  let atCursor := c.cur - c.lineStart
  match s.cause with
  | .fault f => f
  | .finished =>
    match s.bracket with
    | some b => e.neverClosed c b
    | none => e.fault c .malformed c.line atCursor "unexpected EOF while parsing"
  | .dedent =>
    e.fault c .indentation c.line atCursor "unindent does not match any outer indentation level"
  | .tabs => e.fault c .tabs c.line 1 "inconsistent use of tabs and spaces in indentation"
  | .deep => e.fault c .indentation c.line 1 "too many levels of indentation"
  | .continuation =>
    e.fault c .malformed c.line (c.cur - c.retained)
      "unexpected character after line continuation character"

/-- How far a reading has come: the next token, the number of tokens looked at, and whether the
alternative being tried is committed. `μ` is the table of answers already found. -/
structure State (μ : Type) where
  pos : Nat := 0
  seen : Nat := 0
  committed : Bool := false
  memo : μ

inductive Reply (μ α : Type) where
  | found (a : α) (s : State μ)
  | missed (s : State μ)
  /-- A fault; `line` is the line of the last token looked at, or nothing when scanning stopped. -/
  | raised (f : Fault) (line : Option Nat)

def P (μ α : Type) : Type := Env → State μ → Reply μ α

namespace P

variable {μ α β : Type}

instance : Monad (P μ) where
  pure a := fun _ s => .found a s
  bind p f := fun e s =>
    match p e s with
    | .found a s => f a e s
    | .missed s => .missed s
    | .raised x l => .raised x l

def miss : P μ α := fun _ s => .missed s

/-- Tries one recogniser, then another from the same token unless the first was committed. -/
def or (p : P μ α) (q : Unit → P μ α) : P μ α := fun e ⟨pos, seen, committed, memo⟩ =>
  match p e ⟨pos, seen, false, memo⟩ with
  | .found a s' => .found a { s' with committed }
  | .missed s' =>
    if s'.committed then .missed { s' with committed }
    else q () e { s' with pos, committed }
  | .raised x l => .raised x l

instance : OrElse (P μ α) := ⟨or⟩

instance : Inhabited (P μ α) := ⟨miss⟩

def alts : List (P μ α) → P μ α
  | [] => miss
  | p :: ps => or p fun _ => alts ps

def commit : P μ Unit := fun _ s => .found () { s with committed := true }

def optional (p : P μ α) : P μ (Option α) := fun e ⟨pos, seen, committed, memo⟩ =>
  match p e ⟨pos, seen, false, memo⟩ with
  | .found a s' => .found (some a) { s' with committed }
  | .missed s' => .found none { s' with pos, committed }
  | .raised x l => .raised x l

def look (p : P μ α) : P μ Unit := fun e ⟨pos, seen, committed, memo⟩ =>
  match p e ⟨pos, seen, false, memo⟩ with
  | .found _ s' => .found () { s' with pos, committed }
  | .missed s' => .missed { s' with pos, committed }
  | .raised x l => .raised x l

def lookNot (p : P μ α) : P μ Unit := fun e ⟨pos, seen, committed, memo⟩ =>
  match p e ⟨pos, seen, false, memo⟩ with
  | .found _ s' => .missed { s' with pos, committed }
  | .missed s' => .found () { s' with pos, committed }
  | .raised x l => .raised x l

def manyLoop (p : P μ α) : Nat → List α → P μ (List α)
  | 0, acc => pure acc.reverse
  | fuel + 1, acc => do
    match ← optional p with
    | none => pure acc.reverse
    | some a => manyLoop p fuel (a :: acc)

def many (p : P μ α) : P μ (List α) := fun e s => manyLoop p (e.lexed.tokens.size + 1) [] e s

def many1 (p : P μ α) : P μ (List α) := do
  let a ← p
  return a :: (← many p)

def sepBy1 (p : P μ α) (sep : P μ β) : P μ (List α) := do
  let a ← p
  return a :: (← many (do let _ ← sep; p))

/-- Takes part only when faults are being described, and finds nothing by itself. -/
def reject (p : P μ Unit) : P μ α := fun e s =>
  if e.rejecting then
    match p e s with
    | .found _ s' => .missed s'
    | .missed s' => .missed s'
    | .raised x l => .raised x l
  else .missed s

def peek : P μ Token := fun e s =>
  match e.lexed.tokens[s.pos]? with
  | some t => .found t { s with seen := max s.seen (s.pos + 1) }
  | none =>
    match e.lexed.stop with
    | some stop => .raised (e.stopFault stop) none
    | none => .missed s

def advance : P μ Unit := fun _ s => .found () { s with pos := s.pos + 1 }

def tokenIf (p : Token → Bool) : P μ Token := do
  let t ← peek
  if p t then
    advance
    return t
  else miss

def tok (text : String) : P μ Token :=
  tokenIf fun t => (t.kind == .op || t.kind == .keyword) && t.text == text

def kind (k : TokenKind) : P μ Token := tokenIf fun t => t.kind == k

def softWord (text : String) : P μ Token := tokenIf fun t => t.kind == .name && t.text == text

def newline : P μ Token := kind .newline

def previous : P μ Token := fun e s =>
  match e.lexed.tokens[s.pos - 1]? with
  | some t => .found t s
  | none => .missed s

def plainly (p : P μ α) : P μ α := fun e s => p { e with rejecting := false } s

def here : P μ Pos := do return (← peek).pos

def lastSeen : P μ Token := fun e s =>
  match e.lexed.tokens[s.seen - 1]? with
  | some t => .found t s
  | none => .missed s

def raiseWith (kind : FaultKind) (line col : Nat) (message : String) : P μ α := do
  let last ← lastSeen
  fun e _ => .raised (e.fault last.after kind line col message) (some last.line)

def raiseFault (f : Fault) : P μ α := do
  let last ← lastSeen
  fun _ _ => .raised f (some last.line)

def raiseAt (p : Pos) (message : String) : P μ α := raiseWith .malformed p.line (p.col + 1) message

def raiseToken (t : Token) (message : String) : P μ α :=
  raiseWith .malformed t.line (match t.col with | some c => c + 1 | none => 0) message

/-- A fault at the last token looked at; a mark without a column is blamed on the scanner's place.
-/
def raiseLast (message : String) (kind : FaultKind := .malformed) : P μ α := do
  let t ← lastSeen
  let col := match t.col with
    | some c => c + 1
    | none => t.after.cur - t.after.lineStart
  raiseWith kind t.line col message

def must (text : String) : P μ Token := do
  let t ← peek
  if (t.kind == .op || t.kind == .keyword) && t.text == text then
    advance
    return t
  else raiseToken t ("expected '" ++ text ++ "'")

end P
end Notebook.Grammar
