import Notebook.Source.Token
import Notebook.Text.Lines

/-! The scanner: from characters to tokens. Lines are joined inside brackets and after a backslash,
indentation becomes marks, and the first fault ends the scan. -/

set_option autoImplicit false

namespace Notebook.Source

open Notebook.Text

/-! ### Numbers -/

/-- The outcome of reading a literal: how many characters it takes, or how many were read before
the fault that a message describes. -/
inductive Extent where
  | ok (n : Nat)
  | bad (n : Nat) (message : String)
deriving DecidableEq, Repr

def isWordByte (c : Char) : Bool := isAsciiLetter c || isAsciiDigit c || c == '_' || c.toNat ≥ 128

def isHexDigit (c : Char) : Bool :=
  isAsciiDigit c || ('a' ≤ c && c ≤ 'f') || ('A' ≤ c && c ≤ 'F')

/-- Whether a number may be followed directly by this text: a keyword that can come next, or
anything that no name could start with. -/
def endsNumber : List Char → Bool
  | 'a' :: 'n' :: 'd' :: _ => true
  | 'e' :: 'l' :: 's' :: 'e' :: _ => true
  | 'f' :: 'o' :: 'r' :: _ => true
  | 'i' :: 'f' :: _ => true
  | 'i' :: 'n' :: _ => true
  | 'i' :: 's' :: _ => true
  | 'o' :: 'r' :: _ => true
  | 'n' :: 'o' :: 't' :: _ => true
  | c :: _ => !isWordByte c
  | [] => true

def closeNumber (kind : String) (n : Nat) (rest : List Char) : Extent :=
  if endsNumber rest then .ok n else .bad n ("invalid " ++ kind ++ " literal")

/-- Digits with single underscores between them, after a first digit was read. -/
def decimalTail : List Char → Nat → Except Nat (Nat × List Char)
  | [], n => .ok (n, [])
  | '_' :: d :: cs, n => if isAsciiDigit d then decimalTail cs (n + 2) else .error (n + 1)
  | '_' :: [], n => .error (n + 1)
  | c :: cs, n => if isAsciiDigit c then decimalTail cs (n + 1) else .ok (n, c :: cs)

def badDecimal (n : Nat) : Extent := .bad n "invalid decimal literal"

def numberMark (n : Nat) : List Char → Extent
  | c :: cs =>
    if c == 'j' || c == 'J' then closeNumber "imaginary" (n + 1) cs
    else closeNumber "decimal" n (c :: cs)
  | [] => .ok n

def exponentPart (n : Nat) : List Char → Extent
  | c :: cs =>
    if c == 'e' || c == 'E' then
      match cs with
      | s :: d :: ds =>
        if s == '+' || s == '-' then
          if isAsciiDigit d then
            match decimalTail ds (n + 3) with
            | .ok (m, rest) => numberMark m rest
            | .error m => badDecimal m
          else badDecimal (n + 2)
        else if isAsciiDigit s then
          match decimalTail (d :: ds) (n + 2) with
          | .ok (m, rest) => numberMark m rest
          | .error m => badDecimal m
        else if endsNumber (c :: cs) then .ok n else badDecimal n
      | _ => if endsNumber (c :: cs) then .ok n else badDecimal n
    else numberMark n (c :: cs)
  | [] => .ok n

def fractionPart (n : Nat) : List Char → Extent
  | c :: cs =>
    if isAsciiDigit c then
      match decimalTail cs (n + 1) with
      | .ok (m, rest) => exponentPart m rest
      | .error m => badDecimal m
    else exponentPart n (c :: cs)
  | [] => .ok n

/-- Reads digits of a base after its two-character mark. `fresh` tells that a digit must come. -/
def radixDigits (kind : String) (isDigit : Char → Bool) : List Char → Nat → Bool → Extent
  | [], n, fresh => if fresh then .bad n ("invalid " ++ kind ++ " literal") else .ok n
  | '_' :: c :: cs, n, _ =>
    if isDigit c then radixDigits kind isDigit cs (n + 2) false
    else if isAsciiDigit c then
      .bad (n + 2) ("invalid digit '" ++ c.toString ++ "' in " ++ kind ++ " literal")
    else .bad (n + 1) ("invalid " ++ kind ++ " literal")
  | c :: cs, n, fresh =>
    if isDigit c then radixDigits kind isDigit cs (n + 1) false
    else if isAsciiDigit c then
      .bad (n + 1) ("invalid digit '" ++ c.toString ++ "' in " ++ kind ++ " literal")
    else if fresh then .bad n ("invalid " ++ kind ++ " literal")
    else closeNumber kind n (c :: cs)

def zeros : List Char → Nat → Except Nat (Nat × List Char)
  | '0' :: cs, n => zeros cs (n + 1)
  | '_' :: '0' :: cs, n => zeros cs (n + 2)
  | '_' :: d :: cs, n => if isAsciiDigit d then .ok (n + 1, d :: cs) else .error (n + 1)
  | '_' :: [], n => .error (n + 1)
  | cs, n => .ok (n, cs)

def leadingZeros : String :=
  "leading zeros in decimal integer literals are not permitted; use an 0o prefix for octal integers"

def zeroNumber (cs : List Char) : Extent :=
  match zeros cs 1 with
  | .error n => badDecimal n
  | .ok (n, rest) =>
    let after : Nat → Bool → List Char → Extent := fun n nonzero rest =>
      match rest with
      | '.' :: ds => fractionPart (n + 1) ds
      | c :: _ =>
        if c == 'e' || c == 'E' then exponentPart n rest
        else if c == 'j' || c == 'J' then numberMark n rest
        else if nonzero then .bad 0 leadingZeros
        else closeNumber "decimal" n rest
      | [] => if nonzero then .bad 0 leadingZeros else .ok n
    match rest with
    | c :: ds =>
      if isAsciiDigit c then
        match decimalTail ds (n + 1) with
        | .error m => badDecimal m
        | .ok (m, rest) => after m true rest
      else after n false rest
    | [] => after n false rest

def numberExtent : List Char → Extent
  | '.' :: cs => fractionPart 1 cs
  | '0' :: c :: cs =>
    if c == 'x' || c == 'X' then radixDigits "hexadecimal" isHexDigit cs 2 true
    else if c == 'o' || c == 'O' then radixDigits "octal" (fun d => '0' ≤ d && d < '8') cs 2 true
    else if c == 'b' || c == 'B' then radixDigits "binary" (fun d => d == '0' || d == '1') cs 2 true
    else zeroNumber (c :: cs)
  | _ :: cs =>
    match decimalTail cs 1 with
    | .error n => badDecimal n
    | .ok (n, '.' :: rest) => fractionPart (n + 1) rest
    | .ok (n, rest) => exponentPart n rest
  | [] => .ok 0

/-! ### Strings -/

/-- Reads a one-line string up to its closing quote, and gives the characters taken; `false` tells
that the line or the text ended first. -/
def shortString (q : Char) : List Char → List Char → List Char × Bool
  | [], acc => (acc.reverse, false)
  | '\\' :: [], acc => (('\\' :: acc).reverse, false)
  | '\\' :: c :: cs, acc => shortString q cs (c :: '\\' :: acc)
  | c :: cs, acc =>
    if c == q then ((c :: acc).reverse, true)
    else if c == '\n' then (acc.reverse, false)
    else shortString q cs (c :: acc)

def longString (q : Char) : List Char → Nat → List Char → List Char × Bool
  | [], _, acc => (acc.reverse, false)
  | c :: cs, run, acc =>
    if c == q then
      if run == 2 then ((c :: acc).reverse, true) else longString q cs (run + 1) (c :: acc)
    else if c == '\\' then
      match cs with
      | [] => ((c :: acc).reverse, false)
      | d :: ds => longString q ds 0 (d :: c :: acc)
    else longString q cs 0 (c :: acc)

/-- The letters that may stand before a quote, in either case: one of `r`, `b`, `f`, `u`, or `r`
with `b` or `f` in either order. -/
def isStringMark (cs : List Char) : Bool :=
  [[], ['r'], ['b'], ['f'], ['u'], ['r', 'b'], ['b', 'r'], ['r', 'f'], ['f', 'r']].contains
    (cs.map Char.toLower)

/-! ### The scanner -/

structure Scanner where
  rest : List Char
  cursor : Cursor := {}
  /-- Characters read on the current line. -/
  chars : Nat := 0
  atLineStart : Bool := true
  pending : Int := 0
  indents : List (Nat × Nat) := []
  brackets : List Bracket := []

namespace Scanner

def lineBytes : List Char → Nat
  | [] => 0
  | c :: cs => if c = '\n' then 1 else c.utf8Size + lineBytes cs

/-- Enters the next line when the current one is used up; inside a token the text from the token's
first line on is retained. -/
def load (s : Scanner) (inToken : Bool) : Scanner :=
  if s.cursor.cur == s.cursor.lineEnd && !s.rest.isEmpty then
    let here := s.cursor.cur
    { s with
      chars := 0
      cursor :=
        { line := s.cursor.line + 1, cur := here, lineStart := here,
          retained := if inToken then s.cursor.retained else here,
          lineEnd := here + lineBytes s.rest } }
  else s

def bump (s : Scanner) (inToken : Bool) : Scanner :=
  let s := s.load inToken
  match s.rest with
  | [] => s
  | c :: cs =>
    { s with
      rest := cs
      chars := s.chars + 1
      cursor := { s.cursor with cur := s.cursor.cur + c.utf8Size } }

def skip (s : Scanner) (inToken : Bool) : Nat → Scanner
  | 0 => s
  | n + 1 => skip (s.bump inToken) inToken n

def stop (s : Scanner) (cause : StopCause) : Stop :=
  { cause, cursor := s.cursor, bracket := s.brackets.head? }

def stopLine (s : Scanner) (cause : StopCause) : Stop :=
  { cause, cursor := { s.cursor with cur := s.cursor.lineEnd }, bracket := s.brackets.head? }

/-- A fault at the `n`-th character from here. -/
def fault (s : Scanner) (n : Nat) (message : String) : Stop :=
  s.stop (.fault { message, line := s.cursor.line, offset := s.chars + n })

def col (s : Scanner) : Nat := s.cursor.cur - s.cursor.lineStart

def mark (s : Scanner) (kind : TokenKind) : Token :=
  { kind, line := s.cursor.line, col := none, after := s.cursor }

def token (s : Scanner) (kind : TokenKind) (n : Nat) : Token × Scanner :=
  let text := String.ofList (s.rest.take n)
  let s' := s.skip true n
  ({ kind, text, line := s.cursor.line, col := some s.col, depth := s.brackets.length,
     after := s'.cursor }, s')

/-- Indentation: how many characters it takes, its width with tabs to eight and with tabs as one,
and the width at the first backslash in it. -/
structure Indentation where
  chars : Nat := 0
  width : Nat := 0
  plain : Nat := 0
  joined : Nat := 0

inductive Measured where
  | ok (i : Indentation)
  | unfinished (n : Nat)
  | badContinuation (n : Nat)

def measure : List Char → Indentation → Measured
  | ' ' :: cs, i => measure cs { i with chars := i.chars + 1, width := i.width + 1, plain := i.plain + 1 }
  | '\t' :: cs, i =>
    measure cs { i with chars := i.chars + 1, width := (i.width / 8 + 1) * 8, plain := i.plain + 1 }
  | '\x0c' :: cs, i => measure cs { i with chars := i.chars + 1, width := 0, plain := 0 }
  | '\\' :: '\n' :: [], i => .unfinished (i.chars + 2)
  | '\\' :: '\n' :: cs, i =>
    measure cs { i with chars := i.chars + 2, joined := if i.joined == 0 then i.width else i.joined }
  | '\\' :: _, i => .badContinuation i.chars
  | _, i => .ok i

/-- Stops at a backslash that something other than a line end follows. -/
def badContinuation (s : Scanner) : Stop :=
  { cause := .continuation, bracket := s.brackets.head?,
    cursor := { s.cursor with cur := s.cursor.cur + 2 } }

/-- Compares the indentation of a line with the open ones and notes the marks to emit. -/
def reindent (s : Scanner) (width plain : Nat) : Except Stop Scanner :=
  let (top, topPlain) := s.indents.head?.getD (0, 0)
  if width == top then
    if plain == topPlain then .ok s else .error (s.stopLine .tabs)
  else if width > top then
    if s.indents.length + 1 ≥ 100 then .error (s.stopLine .deep)
    else if plain ≤ topPlain then .error (s.stopLine .tabs)
    else .ok { s with pending := s.pending + 1, indents := (width, plain) :: s.indents }
  else
    let kept := s.indents.dropWhile fun i => width < i.1
    let (base, basePlain) := kept.head?.getD (0, 0)
    let closed := s.indents.length - kept.length
    if width != base then .error (s.stopLine .dedent)
    else if plain != basePlain then .error (s.stopLine .tabs)
    else .ok { s with pending := s.pending - closed, indents := kept }

/-- Reads the indentation of a line, when the scanner is at the start of one. The flag tells that
the line holds nothing but blanks and a comment. -/
def lineStart (s : Scanner) : Except Stop (Bool × Scanner) :=
  if s.atLineStart then
    match measure s.rest {} with
    | .unfinished n => .error ((s.skip false n).stop .finished)
    | .badContinuation n => .error ((s.skip false n).load false).badContinuation
    | .ok i =>
      let s := ({ s.skip false i.chars with atLineStart := false } : Scanner).load false
      let blank := match s.rest with
        | c :: _ => c == '#' || c == '\n'
        | [] => false
      if blank || !s.brackets.isEmpty then .ok (blank, s)
      else
        let width := if i.joined == 0 then i.width else i.joined
        let plain := if i.joined == 0 then i.plain else i.joined
        match s.reindent width plain with
        | .error e => .error e
        | .ok s => .ok (false, s)
  else .ok (false, s)

def hex4 (n : Nat) : String :=
  let digits := (Nat.toDigits 16 n).map Char.toUpper
  String.ofList (List.replicate (4 - digits.length) '0' ++ digits)

def badNameChar : List Char → Nat → Option (Nat × Char)
  | [], _ => none
  | c :: cs, n =>
    if (if n == 0 then isNameStart c else isNameChar c) then badNameChar cs (n + 1) else some (n, c)

/-- Reads a name or keyword of `n` characters. -/
def name (s : Scanner) (word : List Char) : Except Stop (Token × Scanner) :=
  match if word.any (fun c => c.toNat ≥ 128) then badNameChar word 0 else none with
  | some (i, c) =>
    .error (s.fault (i + 1)
      (if isVisible c then "invalid character '" ++ c.toString ++ "' (U+" ++ hex4 c.toNat ++ ")"
       else "invalid non-printable character U+" ++ hex4 c.toNat))
  | none =>
    .ok (s.token (if isKeyword (String.ofList word) then .keyword else .name) word.length)

def string (s : Scanner) (marks : Nat) : Except Stop (Token × Scanner) :=
  let body := s.rest.drop marks
  let (taken, closed, long) := match body with
    | q :: q₂ :: q₃ :: cs =>
      if q == q₂ then
        if q == q₃ then
          let (t, ok) := longString q cs 0 []
          (q :: q :: q :: t, ok, true)
        else ([q, q], true, false)
      else
        let (t, ok) := shortString q (q₂ :: q₃ :: cs) []
        (q :: t, ok, false)
    | q :: cs =>
      let (t, ok) := shortString q cs []
      (q :: t, ok, false)
    | [] => ([], false, false)
  if closed then .ok (s.token .string (marks + taken.length))
  else
    let breaks := taken.count '\n'
    let atEnd := taken.length == body.length && taken.getLast? == some '\n'
    let last := s.cursor.line + (if atEnd then breaks - 1 else breaks)
    .error (s.fault 1 ((if long then "unterminated triple-quoted string literal"
      else "unterminated string literal") ++ " (detected at line " ++ toString last ++ ")"))

def twoChars : List String :=
  ["!=", "%=", "&=", "**", "*=", "+=", "-=", "->", "//", "/=", ":=", "<<", "<=", "<>", "==", ">=",
   ">>", "@=", "^=", "|="]

def threeChars : List String := ["**=", "//=", "<<=", ">>="]

def operatorLength (cs : List Char) : Nat :=
  if threeChars.contains (String.ofList (cs.take 3)) then 3
  else if twoChars.contains (String.ofList (cs.take 2)) then 2
  else 1

def closes (opening closing : Char) : Bool :=
  (opening == '(' && closing == ')') || (opening == '[' && closing == ']') ||
    (opening == '\x7b' && closing == '\x7d')

def operator (s : Scanner) (c : Char) : Except Stop (Token × Scanner) :=
  let n := operatorLength s.rest
  if n > 1 then .ok (s.token .op n)
  else if c == '(' || c == '[' || c == '\x7b' then
    if s.brackets.length ≥ 200 then .error (s.fault 1 "too many nested parentheses")
    else
      let b : Bracket := { mark := c, line := s.cursor.line, col := s.col }
      .ok (({ s with brackets := b :: s.brackets } : Scanner).token .op 1)
  else if c == ')' || c == ']' || c == '\x7d' then
    match s.brackets with
    | [] => .error (s.fault 1 ("unmatched '" ++ c.toString ++ "'"))
    | b :: bs =>
      let s := { s with brackets := bs }
      if closes b.mark c then .ok (s.token .op 1)
      else
        .error (s.fault 1 ("closing parenthesis '" ++ c.toString ++
          "' does not match opening parenthesis '" ++ b.mark.toString ++ "'" ++
          (if b.line == s.cursor.line then "" else " on line " ++ toString b.line)))
  else if isVisible c then .ok (s.token .op 1)
  else .error (s.fault 1 ("invalid non-printable character U+" ++ hex4 c.toNat))

def number (s : Scanner) : Except Stop (Token × Scanner) :=
  match numberExtent s.rest with
  | .ok n => .ok (s.token .number n)
  | .bad 0 message =>
    .error (s.stop (.fault { message, line := s.cursor.line, offset := s.col + 1 }))
  | .bad n message => .error (s.fault n message)

/-- Reads a token that starts at the next character, which is no blank, comment or line end. -/
def visible (s : Scanner) (c : Char) : Except Stop (Token × Scanner) :=
  if isWordByte c && !isAsciiDigit c then
    let word := s.rest.takeWhile isWordByte
    match s.rest.drop word.length with
    | q :: _ =>
      if (q == '"' || q == '\'') && isStringMark word then s.string word.length else s.name word
    | [] => s.name word
  else if isAsciiDigit c then s.number
  else if c == '"' || c == '\'' then s.string 0
  else if c == '.' then
    match s.rest with
    | _ :: d :: ds =>
      if isAsciiDigit d then s.number
      else if d == '.' && ds.head? == some '.' then .ok (s.token .op 3)
      else .ok (s.token .op 1)
    | _ => .ok (s.token .op 1)
  else s.operator c

def isGap (c : Char) : Bool := c == ' ' || c == '\t' || c == '\x0c'

mutual

/-- Reads a token; two turns of the loop use up a line end at least, so twice the number of
characters bounds it. -/
def next : Nat → Scanner → Except Stop (Token × Scanner)
  | 0, s => .error (s.stop .finished)
  | fuel + 1, s =>
    match s.lineStart with
    | .error e => .error e
    | .ok (blank, s) =>
      if s.pending < 0 then .ok (s.mark .dedent, { s with pending := s.pending + 1 })
      else if s.pending > 0 then .ok (s.mark .indent, { s with pending := s.pending - 1 })
      else within fuel blank s

def within : Nat → Bool → Scanner → Except Stop (Token × Scanner)
  | 0, _, s => .error (s.stop .finished)
  | fuel + 1, blank, s =>
    let s := (s.skip false (s.rest.takeWhile isGap).length).load false
    let first := s.col
    let comment := match s.rest with
      | '#' :: cs => 1 + (cs.takeWhile (· != '\n')).length
      | _ => 0
    let s := s.skip true comment
    match s.rest with
    | [] => if s.brackets.isEmpty then .ok (s.mark .finish, s) else .error (s.stop .finished)
    | '\n' :: _ =>
      let s' := { s.skip true 1 with atLineStart := true }
      if blank || !s.brackets.isEmpty then next fuel s'
      else
        .ok ({ kind := .newline, line := s.cursor.line, col := some first, after := s'.cursor }, s')
    | '\\' :: '\n' :: [] => .error ((s.skip true 2).stop .finished)
    | '\\' :: '\n' :: _ => within fuel blank ((s.skip true 2).load true)
    | '\\' :: _ => .error s.badContinuation
    | c :: _ => s.visible c

end

/-- Reads tokens until the end mark or a stop. -/
def run : Nat → Scanner → Array Token → Lexed
  | 0, s, out => { tokens := out, stop := some (s.stop .finished) }
  | fuel + 1, s, out =>
    match s.next (2 * s.rest.length + 4) with
    | .error e => { tokens := out, stop := some e }
    | .ok (t, s) =>
      if t.kind = .finish then { tokens := out.push t, stop := none }
      else run fuel s (out.push t)

end Scanner

/-- The characters the scanner reads: unified line ends, and a line end at the very end. -/
def sourceChars (src : String) : List Char :=
  let cs := unifyLineEnds src.toList
  if cs.getLast? == some '\n' then cs else cs ++ ['\n']

/-- The tokens of a source text whose lines are counted from `firstLine`. -/
def lex (cs : List Char) (firstLine : Nat := 1) : Lexed :=
  Scanner.run (3 * cs.length + 10) { rest := cs, cursor := { line := firstLine - 1 } } #[]

end Notebook.Source
