import Notebook.Text.Codec
import Notebook.Yaml.Token

/-! Reading the tokens of a YAML text.

Indentation opens and closes collections. A scalar that turns out to be a key gets its mark put
before it afterwards, so the places where a key may start are remembered. -/

set_option autoImplicit false

namespace Notebook.Yaml

/-- A place where a key may start: the number of the token there, and whether it has to be a key. -/
structure KeyPlace where
  token : Nat
  required : Bool
  index : Nat
  line : Nat
  col : Nat
deriving Repr

structure Lexer where
  rest : List Char
  index : Nat := 0
  line : Nat := 0
  col : Nat := 0
  tokens : Array Token := #[]
  /-- How many flow collections are open. -/
  flow : Nat := 0
  indent : Int := -1
  indents : List Int := []
  keyAllowed : Bool := true
  /-- Places of keys by the number of open flow collections. -/
  places : List (Nat × KeyPlace) := []

abbrev Lex := EStateM Error Lexer

def fail {α : Type} : Lex α := throw .scanner

def isBreak (c : Char) : Bool :=
  c == '\r' || c == '\n' || c == '\u0085' || c == '\u2028' || c == '\u2029'

def peek (n : Nat := 0) : Lex (Option Char) := do return (← get).rest[n]?

def isGapOrEnd : Option Char → Bool
  | none => true
  | some c => c == ' ' || c == '\t' || isBreak c

def isBreakOrEnd : Option Char → Bool
  | none => true
  | some c => isBreak c

def isSpaceBreakOrEnd : Option Char → Bool
  | none => true
  | some c => c == ' ' || isBreak c

def forward1 (s : Lexer) : Lexer :=
  match s.rest with
  | [] => s
  | c :: rest =>
    let s := { s with rest, index := s.index + 1 }
    let breaks := (isBreak c && c != '\r') || (c == '\r' && rest.head? != some '\n')
    if breaks then { s with line := s.line + 1, col := 0 }
    else if c == '\uFEFF' then s
    else { s with col := s.col + 1 }

def forwardN : Nat → Lexer → Lexer
  | 0, s => s
  | n + 1, s => forwardN n (forward1 s)

def forward (n : Nat := 1) : Lex Unit := modify (forwardN n)

def takeChars (p : Char → Bool) : Lex (List Char) := do
  let cs := (← get).rest.takeWhile p
  forward cs.length
  return cs

def lineBreak : Lex (List Char) := do
  match (← get).rest with
  | '\r' :: '\n' :: _ =>
    forward 2
    return ['\n']
  | c :: _ =>
    if isBreak c then
      forward
      return if c == '\u2028' || c == '\u2029' then [c] else ['\n']
    else return []
  | [] => return []

def push (t : Token) : Lex Unit := modify fun s => { s with tokens := s.tokens.push t }

def insertToken (ts : Array Token) (i : Nat) (t : Token) : Array Token :=
  (ts.toList.take i ++ t :: ts.toList.drop i).toArray

def dropStale (s : Lexer) (k : KeyPlace) : Bool := k.line != s.line || s.index - k.index > 1024

/-- Forgets the places of keys that are too far back; one that has to be a key is an error. -/
def forgetStale : Lex Unit := do
  let s ← get
  if s.places.any fun p => dropStale s p.2 && p.2.required then fail
  set { s with places := s.places.filter fun p => !dropStale s p.2 }

def forgetPlace : Lex Unit := do
  let s ← get
  match s.places.lookup s.flow with
  | some k => if k.required then fail
  | none => return
  set { s with places := s.places.filter (·.1 != s.flow) }

def notePlace : Lex Unit := do
  let s ← get
  if s.keyAllowed then
    forgetPlace
    let required := s.flow == 0 && s.indent == (s.col : Int)
    let k : KeyPlace := ⟨s.tokens.size, required, s.index, s.line, s.col⟩
    modify fun s => { s with places := (s.flow, k) :: s.places }

def closeIndents (col : Int) : Nat → Lexer → Lexer
  | 0, s => s
  | n + 1, s =>
    if s.indent > col then
      closeIndents col n { s with
        indent := s.indents.headD (-1), indents := s.indents.tail
        tokens := s.tokens.push .blockEnd }
    else s

/-- Closes the block collections that are indented more than a column. -/
def unwind (col : Int) : Lex Unit :=
  modify fun s => if s.flow > 0 then s else closeIndents col (s.indents.length + 1) s

def addIndent (col : Int) : Lex Bool := do
  let s ← get
  if s.indent < col then
    set { s with indents := s.indent :: s.indents, indent := col }
    return true
  return false

def allowKey (b : Bool) : Lex Unit := modify fun s => { s with keyAllowed := b }

/-- Skips blanks, comments and line breaks; each round but the last takes a line break. -/
def skipGap : Nat → Lex Unit
  | 0 => return
  | n + 1 => do
    let _ ← takeChars (· == ' ')
    if (← peek) == some '#' then
      let _ ← takeChars fun c => !isBreak c
    match ← lineBreak with
    | [] => return
    | _ =>
      if (← get).flow == 0 then allowKey true
      skipGap n

def isWordChar (c : Char) : Bool :=
  ('0' ≤ c && c ≤ '9') || ('A' ≤ c && c ≤ 'Z') || ('a' ≤ c && c ≤ 'z') || c == '-' || c == '_'

def isUriChar (c : Char) : Bool := isWordChar c || ";/?:@&=+$,.!~*'()[]%".toList.contains c

def hexValue (c : Char) : Option Nat :=
  if '0' ≤ c && c ≤ '9' then some (c.toNat - 48)
  else if 'a' ≤ c && c ≤ 'f' then some (c.toNat - 87)
  else if 'A' ≤ c && c ≤ 'F' then some (c.toNat - 55)
  else none

def hexNumber (cs : List Char) : Option Nat :=
  cs.foldl (fun n c => n.bind fun n => (hexValue c).map (n * 16 + ·)) (some 0)

def escapedChars (bytes : List UInt8) : Lex (List Char) :=
  match Text.decodeUtf8 bytes.reverse with
  | .ok cs => return cs
  | .error _ => fail

/-- Puts characters in place of escapes by percent signs; escapes next to each other are the bytes
of their characters. -/
def unescapeUri (bytes : List UInt8) : List Char → Lex (List Char)
  | [] => escapedChars bytes
  | '%' :: a :: b :: cs => do
    match hexNumber [a, b] with
    | some n => unescapeUri (UInt8.ofNat n :: bytes) cs
    | none => fail
  | '%' :: _ => fail
  | c :: cs => do
    let before ← escapedChars bytes
    return before ++ c :: (← unescapeUri [] cs)

def uri : Lex String := do
  let cs ← takeChars isUriChar
  if cs.isEmpty then fail
  return String.ofList (← unescapeUri [] cs)

def tagHandle : Lex String := do
  if (← peek) != some '!' then fail
  let rest := (← get).rest.drop 1
  if rest.head? == some ' ' then
    forward
    return "!"
  let word := rest.takeWhile isWordChar
  match rest.drop word.length with
  | '!' :: _ =>
    forward (word.length + 2)
    return String.ofList ('!' :: word ++ ['!'])
  | _ => fail

def restOfLine : Lex Unit := do
  let _ ← takeChars (· == ' ')
  if (← peek) == some '#' then
    let _ ← takeChars fun c => !isBreak c
  if !isBreakOrEnd (← peek) then fail
  let _ ← lineBreak

def digits : Lex Nat := do
  let cs ← takeChars Char.isDigit
  if cs.isEmpty then fail
  return cs.foldl (fun n c => n * 10 + (c.toNat - 48)) 0

def directive : Lex Unit := do
  forward
  let name ← takeChars isWordChar
  if name.isEmpty || !isSpaceBreakOrEnd (← peek) then fail
  if name == "YAML".toList then
    let _ ← takeChars (· == ' ')
    let major ← digits
    if (← peek) != some '.' then fail
    forward
    let _ ← digits
    if !isSpaceBreakOrEnd (← peek) then fail
    restOfLine
    push (.otherDirective "YAML" major)
  else if name == "TAG".toList then
    let _ ← takeChars (· == ' ')
    let handle ← tagHandle
    if (← peek) != some ' ' then fail
    let _ ← takeChars (· == ' ')
    let meaning ← uri
    if !isSpaceBreakOrEnd (← peek) then fail
    restOfLine
    push (.tagDirective handle meaning)
  else
    let _ ← takeChars fun c => !isBreak c
    restOfLine
    push (.otherDirective (String.ofList name) 1)

def anchorName : Lex String := do
  forward
  let cs ← takeChars isWordChar
  let next ← peek
  let ends := match next with
    | none => true
    | some c => isGapOrEnd next || "?:,]%@\x7d\x60".toList.contains c
  if cs.isEmpty || !ends then fail
  return String.ofList cs

def hasHandle : List Char → Bool
  | [] => false
  | c :: cs => if c == ' ' || isBreak c then false else if c == '!' then true else hasHandle cs

def tag : Lex Unit := do
  let next ← peek 1
  let (handle, suffix) ←
    if next == some '<' then do
      forward 2
      let s ← uri
      if (← peek) != some '>' then fail
      forward
      pure (none, s)
    else if isGapOrEnd next then do
      forward
      pure (none, "!")
    else do
      let handle ← if hasHandle ((← get).rest.drop 1) then tagHandle else do
        forward
        pure "!"
      pure (some handle, ← uri)
  if !isSpaceBreakOrEnd (← peek) then fail
  push (.tag handle suffix)

inductive Chomp where
  | strip
  | clip
  | keep
deriving DecidableEq

def chompMark : Lex (Option Chomp) := do
  match ← peek with
  | some '+' =>
    forward
    return some .keep
  | some '-' =>
    forward
    return some .strip
  | _ => return none

def indentMark : Lex (Option Nat) := do
  match ← peek with
  | some c =>
    if c.isDigit then
      if c == '0' then fail
      forward
      return some (c.toNat - 48)
    else return none
  | none => return none

/-- The line breaks before the first line of a block scalar, and the widest indentation there. -/
def findIndent : Nat → List Char → Nat → Lex (List Char × Nat)
  | 0, breaks, widest => return (breaks, widest)
  | n + 1, breaks, widest => do
    match ← peek with
    | some ' ' =>
      forward
      findIndent n breaks (max widest (← get).col)
    | some c =>
      if isBreak c then findIndent n (breaks ++ (← lineBreak)) widest else return (breaks, widest)
    | none => return (breaks, widest)

def skipTo (indent : Nat) : Lex Unit := do
  let s ← get
  let n := (s.rest.takeWhile (· == ' ')).length
  forward (min n (indent - s.col))

def breaksTo (indent : Nat) : Nat → List Char → Lex (List Char)
  | 0, acc => return acc
  | n + 1, acc => do
    skipTo indent
    match ← lineBreak with
    | [] => return acc
    | b => breaksTo indent n (acc ++ b)

def startsText : Option Char → Bool
  | some c => c != ' ' && c != '\t'
  | none => true

/-- The lines of a block scalar; gives the text, the last line break and the breaks after it. -/
def blockLines (folded : Bool) (indent : Nat) : Nat → List Char → List Char →
    Lex (List Char × List Char × List Char)
  | 0, text, breaks => return (text, [], breaks)
  | n + 1, text, breaks => do
    let text := text ++ breaks
    let flush := startsText (← peek)
    let line ← takeChars fun c => !isBreak c
    let br ← lineBreak
    let breaks ← breaksTo indent ((← get).rest.length + 1) []
    let s ← get
    if s.col == indent && !s.rest.isEmpty then
      let text := text ++ line
      if folded && br == ['\n'] && flush && startsText (← peek) then
        blockLines folded indent n (if breaks.isEmpty then text ++ [' '] else text) breaks
      else blockLines folded indent n (text ++ br) breaks
    else return (text ++ line, br, breaks)

def blockScalar (folded : Bool) : Lex Unit := do
  forward
  let first ← chompMark
  let increment ← indentMark
  let second ← if first.isNone && increment.isSome then chompMark else pure none
  let chomp := (first <|> second).getD .clip
  if !isSpaceBreakOrEnd (← peek) then fail
  restOfLine
  let s ← get
  let least := max (s.indent + 1) 1
  let (breaks, indent) ← match increment with
    | some n => do
      let indent := (least + n - 1).toNat
      pure (← breaksTo indent (s.rest.length + 1) [], indent)
    | none => do
      let (breaks, widest) ← findIndent (s.rest.length + 1) [] 0
      pure (breaks, max least.toNat widest)
  let s ← get
  let (text, br, breaks) ←
    if s.col == indent && !s.rest.isEmpty then
      blockLines folded indent (s.rest.length + 1) [] breaks
    else pure ([], [], breaks)
  let text := if chomp == .strip then text else text ++ br
  let text := if chomp == .keep then text ++ breaks else text
  push (.scalar (String.ofList text) false)

def escapeChar : Char → Option Char
  | '0' => some (Char.ofNat 0)
  | 'a' => some (Char.ofNat 7)
  | 'b' => some (Char.ofNat 8)
  | 't' => some '\t'
  | '\t' => some '\t'
  | 'n' => some '\n'
  | 'v' => some (Char.ofNat 11)
  | 'f' => some (Char.ofNat 12)
  | 'r' => some '\r'
  | 'e' => some (Char.ofNat 27)
  | ' ' => some ' '
  | '"' => some '"'
  | '\\' => some '\\'
  | '/' => some '/'
  | 'N' => some '\u0085'
  | '_' => some '\u00a0'
  | 'L' => some '\u2028'
  | 'P' => some '\u2029'
  | _ => none

def escapeWidth : Char → Option Nat
  | 'x' => some 2
  | 'u' => some 4
  | 'U' => some 8
  | _ => none

def atDocumentMark : Lex Bool := do
  let cs := (← get).rest
  return (cs.take 3 == ['-', '-', '-'] || cs.take 3 == ['.', '.', '.']) && isGapOrEnd cs[3]?

def quotedBreaks : Nat → List Char → Lex (List Char)
  | 0, acc => return acc
  | n + 1, acc => do
    if ← atDocumentMark then fail
    let _ ← takeChars fun c => c == ' ' || c == '\t'
    match ← lineBreak with
    | [] => return acc
    | b => quotedBreaks n (acc ++ b)

def escape : Lex (List Char) := do
  match ← peek with
  | none => fail
  | some c =>
    match escapeChar c, escapeWidth c with
    | some d, _ =>
      forward
      return [d]
    | none, some n =>
      forward
      let cs := (← get).rest.take n
      if cs.length < n then fail
      match hexNumber cs with
      | none => fail
      | some code =>
        forward n
        if 0x110000 ≤ code then throw .badCode
        return [Text.ofPoint code]
    | none, none =>
      if isBreak c then
        let _ ← lineBreak
        quotedBreaks ((← get).rest.length + 1) []
      else fail

def quotedText (quote : Char) : Nat → List Char → Lex (List Char)
  | 0, _ => fail
  | n + 1, acc => do
    match (← get).rest with
    | [] => fail
    | c :: rest =>
      if c == quote then
        if quote == '\'' && rest.head? == some '\'' then
          forward 2
          quotedText quote n (acc ++ ['\''])
        else return acc
      else if quote == '"' && c == '\\' then
        forward
        let cs ← escape
        quotedText quote n (acc ++ cs)
      else if c == ' ' || c == '\t' || isBreak c then
        let blanks ← takeChars fun c => c == ' ' || c == '\t'
        let next ← peek
        match next with
        | none => fail
        | some d =>
          if isBreak d then
            let br ← lineBreak
            let breaks ← quotedBreaks ((← get).rest.length + 1) []
            let lead := if br != ['\n'] then br else if breaks.isEmpty then [' '] else []
            quotedText quote n (acc ++ lead ++ breaks)
          else quotedText quote n (acc ++ blanks)
      else
        forward
        quotedText quote n (acc ++ [c])

def quoted (quote : Char) : Lex Unit := do
  forward
  let cs ← quotedText quote ((← get).rest.length + 1) []
  forward
  push (.scalar (String.ofList cs) false)

def plainBreaks : Nat → List Char → Lex (Option (List Char))
  | 0, acc => return some acc
  | n + 1, acc => do
    match ← peek with
    | some ' ' =>
      forward
      plainBreaks n acc
    | some c =>
      if isBreak c then
        let b ← lineBreak
        if ← atDocumentMark then return none
        plainBreaks n (acc ++ b)
      else return some acc
    | none => return some acc

def plainGap : Lex (List Char) := do
  let blanks ← takeChars (· == ' ')
  match ← peek with
  | some c =>
    if isBreak c then
      let br ← lineBreak
      allowKey true
      if ← atDocumentMark then return []
      match ← plainBreaks ((← get).rest.length + 1) [] with
      | none => return []
      | some breaks =>
        let lead := if br != ['\n'] then br else if breaks.isEmpty then [' '] else []
        return lead ++ breaks
    else return blanks
  | none => return blanks

def isFlowMark (c : Char) : Bool := ",[]\x7b\x7d".toList.contains c

def plainLength (inFlow : Bool) : List Char → Nat
  | [] => 0
  | c :: cs =>
    let next := cs.head?
    let ends := isGapOrEnd (some c)
      || (c == ':' && (isGapOrEnd next || (inFlow && next.any isFlowMark)))
      || (inFlow && (isFlowMark c || c == '?'))
    if ends then 0 else plainLength inFlow cs + 1

def plainParts (indent : Int) : Nat → List Char → List Char → Lex (List Char)
  | 0, text, _ => return text
  | n + 1, text, gap => do
    let s ← get
    let len := plainLength (s.flow > 0) s.rest
    if s.rest.head? == some '#' || len == 0 then return text
    allowKey false
    let part := s.rest.take len
    forward len
    let text := text ++ gap ++ part
    let gap ← plainGap
    let s ← get
    if gap.isEmpty || s.rest.head? == some '#' || (s.flow == 0 && (s.col : Int) < indent) then
      return text
    plainParts indent n text gap

def plain : Lex Unit := do
  let s ← get
  let cs ← plainParts (s.indent + 1) (s.rest.length + 1) [] []
  push (.scalar (String.ofList cs) true)

def documentMark (t : Token) : Lex Unit := do
  unwind (-1)
  forgetPlace
  allowKey false
  forward 3
  push t

def flowOpen (t : Token) : Lex Unit := do
  notePlace
  modify fun s => { s with flow := s.flow + 1, keyAllowed := true }
  forward
  push t

def flowClose (t : Token) : Lex Unit := do
  forgetPlace
  modify fun s => { s with flow := s.flow - 1, keyAllowed := false }
  forward
  push t

def blockEntry : Lex Unit := do
  let s ← get
  if s.flow == 0 then
    if !s.keyAllowed then fail
    if ← addIndent s.col then push .sequenceStart
  allowKey true
  forgetPlace
  forward
  push .blockEntry

def explicitKey : Lex Unit := do
  let s ← get
  if s.flow == 0 then
    if !s.keyAllowed then fail
    if ← addIndent s.col then push .mappingStart
  allowKey (s.flow == 0)
  forgetPlace
  forward
  push .key

/-- The mark before a value: what stands before it turns out to be a key, if that is possible. -/
def valueMark : Lex Unit := do
  let s ← get
  match s.places.lookup s.flow with
  | some k =>
    set { s with places := s.places.filter (·.1 != s.flow)
                 tokens := insertToken s.tokens k.token .key }
    if s.flow == 0 then
      if ← addIndent k.col then
        modify fun s => { s with tokens := insertToken s.tokens k.token .mappingStart }
    allowKey false
  | none =>
    if s.flow == 0 then
      if !s.keyAllowed then fail
      if ← addIndent s.col then push .mappingStart
    allowKey (s.flow == 0)
    forgetPlace
  forward
  push .value

def maybeKey (body : Lex Unit) : Lex Unit := do
  notePlace
  allowKey false
  body

def isPlainStart (inFlow : Bool) (c : Char) (next : Option Char) : Bool :=
  !(isGapOrEnd (some c) || "-?:,[]\x7b\x7d#&*!|>'\"%@\x60".toList.contains c)
    || (!isGapOrEnd next && (c == '-' || (!inFlow && (c == '?' || c == ':'))))

def next : Lex Bool := do
  let s ← get
  if s.index == 0 && s.rest.head? == some '\uFEFF' then forward
  skipGap (s.rest.length + 1)
  forgetStale
  unwind (← get).col
  let s ← get
  let inFlow := s.flow > 0
  let after := s.rest[1]?
  match s.rest with
  | [] =>
    unwind (-1)
    forgetPlace
    push .finish
    return true
  | c :: _ =>
    let mark ← atDocumentMark
    if c == '%' && s.col == 0 then
      unwind (-1)
      forgetPlace
      allowKey false
      directive
    else if c == '-' && s.col == 0 && mark then documentMark .documentStart
    else if c == '.' && s.col == 0 && mark then documentMark .documentEnd
    else if c == '[' then flowOpen .flowSequenceStart
    else if c == '\x7b' then flowOpen .flowMappingStart
    else if c == ']' then flowClose .flowSequenceEnd
    else if c == '\x7d' then flowClose .flowMappingEnd
    else if c == ',' then
      allowKey true
      forgetPlace
      forward
      push .flowEntry
    else if c == '-' && isGapOrEnd after then blockEntry
    else if c == '?' && (inFlow || isGapOrEnd after) then explicitKey
    else if c == ':' && (inFlow || isGapOrEnd after) then valueMark
    else if c == '*' then maybeKey do push (.alias (← anchorName))
    else if c == '&' then maybeKey do push (.anchor (← anchorName))
    else if c == '!' then maybeKey tag
    else if (c == '|' || c == '>') && !inFlow then
      allowKey true
      forgetPlace
      blockScalar (c == '>')
    else if c == '\'' || c == '"' then maybeKey (quoted c)
    else if isPlainStart inFlow c after then maybeKey plain
    else fail
    return false

def run : Nat → Lex Unit
  | 0 => return
  | n + 1 => do if !(← next) then run n

/-- Tokens that wait for a decision about a key are not available when the text breaks. -/
def available (s : Lexer) : Array Token :=
  match (s.places.map (·.2.token)).min? with
  | some n => s.tokens.extract 0 n
  | none => s.tokens

def lex (text : String) : Tokens :=
  match (run (text.length + 10)).run { rest := text.toList } with
  | .ok _ s => ⟨s.tokens, none⟩
  | .error e s => ⟨available s, some e⟩

end Notebook.Yaml
