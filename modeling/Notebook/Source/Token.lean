import Notebook.Source.Fault

set_option autoImplicit false

namespace Notebook.Source

inductive TokenKind where
  | name
  | keyword
  | number
  | string
  | op
  | newline
  | indent
  | dedent
  | finish
deriving DecidableEq, Repr

/-- Where the scanner stands: the line number, the byte offset, the offset where the line starts,
the offset where the retained text starts and the offset where the line ends. -/
structure Cursor where
  line : Nat := 0
  cur : Nat := 0
  lineStart : Nat := 0
  retained : Nat := 0
  lineEnd : Nat := 0
deriving DecidableEq, Repr

/-- A token with its text and place; marks without text have no column. -/
structure Token where
  kind : TokenKind
  text : String := ""
  line : Nat
  col : Option Nat
  /-- How many brackets are open behind the token. -/
  depth : Nat := 0
  after : Cursor
deriving Repr

def Token.endCol (t : Token) : Nat := t.after.cur - t.after.lineStart

def Token.pos (t : Token) : Pos := ⟨t.line, t.col.getD 0⟩

structure Bracket where
  mark : Char
  line : Nat
  col : Nat
deriving DecidableEq, Repr

inductive StopCause where
  | fault (f : Fault)
  | finished
  | dedent
  | tabs
  | deep
  | continuation
deriving DecidableEq, Repr

structure Stop where
  cause : StopCause
  cursor : Cursor
  bracket : Option Bracket
deriving Repr

/-- The tokens of a text, up to its end mark or to the place where scanning stopped. -/
structure Lexed where
  tokens : Array Token
  stop : Option Stop
deriving Repr

def keywords : List String :=
  ["False", "None", "True", "and", "as", "assert", "async", "await", "break", "class", "continue",
   "def", "del", "elif", "else", "except", "finally", "for", "from", "global", "if", "import",
   "in", "is", "lambda", "nonlocal", "not", "or", "pass", "raise", "return", "try", "while",
   "with", "yield"]

def isKeyword (s : String) : Bool := keywords.contains s

end Notebook.Source
