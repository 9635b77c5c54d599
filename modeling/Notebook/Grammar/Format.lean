import Notebook.Grammar.Literal

set_option autoImplicit false

namespace Notebook.Grammar.Format

open Notebook.Text Notebook.Source Notebook.Tree

/-- Why a format string could not be read: a problem of the string itself, or a fault inside an
embedded expression. -/
inductive Problem where
  | message (text : String)
  | fault (f : Fault)

/-- A place in a string token: the characters before it, nearest first, and those after it. -/
structure Place where
  back : List Char
  rest : List Char

def Place.next (p : Place) : Place :=
  match p.rest with
  | [] => p
  | c :: cs => ⟨c :: p.back, cs⟩

def Place.skip (p : Place) : Nat → Place
  | 0 => p
  | n + 1 => p.next.skip n

structure Reader where
  /-- The place of the whole literal. -/
  pos : Pos
  /-- The place of the token being read. -/
  token : Pos
  raw : Bool
  marked : Bool
  /-- Reads an embedded expression, given its text and place. -/
  embed : List Char → Pos → Except Fault Expr

def bytes (cs : List Char) : Nat := cs.foldl (fun n c => n + c.utf8Size) 0

/-- Where an embedded expression starts, given what stands in the token before its brace. -/
def embeddedPlace (token : Pos) (before : List Char) (text : List Char) : Pos :=
  let lines := before.count '\n'
  let lead := text.takeWhile fun c => c == ' ' || c == '\t' || c == '\x0c'
  let startsBelow := (text.drop lead.length).head? == some '\n'
  let cols := if startsBelow then 0 else bytes (before.takeWhile (· != '\n'))
  ⟨token.line + lines, if lines == 0 then token.col + cols else cols⟩

def isGap (c : Char) : Bool := c == ' ' || c == '\t' || c == '\n' || c == '\x0c'

def isAsciiBlank (c : Char) : Bool := c == ' ' || (9 ≤ c.toNat && c.toNat ≤ 13)

/-- Reads the expression between its brace and the mark that ends it. -/
def embedded (r : Reader) (before text : List Char) (closer : Char) : Except Problem Expr :=
  if text.all isGap then
    .error (.message (if closer == '\x7d' then "f-string: empty expression not allowed"
      else "f-string: expression required before '" ++ closer.toString ++ "'"))
  else
    match r.embed ('(' :: text ++ [')']) (embeddedPlace r.token before text) with
    | .ok e => .ok e
    | .error f => .error (.fault f)

/-- Finds the end of an expression: the characters of it, and the place behind them. `quote` is the
string being read inside the expression, with its width; `open_` holds the open brackets. -/
def exprEnd : Nat → Place → Option (Char × Nat) → List Char → List Char →
    Except Problem (List Char × Place)
  | 0, p, _, _, acc => .ok (acc.reverse, p)
  | fuel + 1, p, quote, opened, acc =>
    match p.rest with
    | [] =>
      if quote.isSome then .error (.message "f-string: unterminated string")
      else match opened with
        | b :: _ => .error (.message ("f-string: unmatched '" ++ b.toString ++ "'"))
        | [] => .ok (acc.reverse, p)
    | c :: cs =>
      if c == '\\' then .error (.message "f-string expression part cannot include a backslash")
      else
        match quote with
        | some (q, width) =>
          if c == q then
            if width == 3 then
              match cs with
              | a :: b :: _ =>
                if a == c && b == c then exprEnd fuel (p.skip 3) none opened (c :: c :: c :: acc)
                else exprEnd fuel p.next quote opened (c :: acc)
              | _ => exprEnd fuel p.next quote opened (c :: acc)
            else exprEnd fuel p.next none opened (c :: acc)
          else exprEnd fuel p.next quote opened (c :: acc)
        | none =>
          if c == '\'' || c == '"' then
            match cs with
            | a :: b :: _ =>
              if a == c && b == c then exprEnd fuel (p.skip 3) (some (c, 3)) opened (c :: c :: c :: acc)
              else exprEnd fuel p.next (some (c, 1)) opened (c :: acc)
            | _ => exprEnd fuel p.next (some (c, 1)) opened (c :: acc)
          else if c == '[' || c == '(' || c == '\x7b' then
            if opened.length ≥ 200 then .error (.message "f-string: too many nested parenthesis")
            else exprEnd fuel p.next none (c :: opened) (c :: acc)
          else if c == '#' then .error (.message "f-string expression part cannot include '#'")
          else if opened.isEmpty &&
              (c == '!' || c == ':' || c == '\x7d' || c == '=' || c == '>' || c == '<') then
            if (c == '!' || c == '=' || c == '<' || c == '>') && cs.head? == some '=' then
              exprEnd fuel (p.skip 2) none opened ('=' :: c :: acc)
            else if c == '>' || c == '<' then exprEnd fuel p.next none opened (c :: acc)
            else .ok (acc.reverse, p)
          else if c == ']' || c == ')' || c == '\x7d' then
            match opened with
            | [] => .error (.message ("f-string: unmatched '" ++ c.toString ++ "'"))
            | b :: bs =>
              if Scanner.closes b c then exprEnd fuel p.next none bs (c :: acc)
              else .error (.message ("f-string: closing parenthesis '" ++ c.toString ++
                "' does not match opening parenthesis '" ++ b.toString ++ "'"))
          else exprEnd fuel p.next none opened (c :: acc)

/-- How a run of literal text ended: at a doubled brace, or at a brace or the end. -/
inductive TextEnd where
  | doubled
  | plain
deriving DecidableEq

def textEnd (raw top : Bool) : Nat → Place → List Char → Except Problem (List Char × TextEnd × Place)
  | 0, p, acc => .ok (acc.reverse, .plain, p)
  | fuel + 1, p, acc =>
    match p.rest with
    | [] => .ok (acc.reverse, .plain, p)
    | c :: cs =>
      let brace (acc : List Char) (p : Place) (c : Char) (cs : List Char) :
          Except Problem (List Char × TextEnd × Place) :=
        if top then
          if cs.head? == some c then .ok ((c :: acc).reverse, .doubled, p.skip 2)
          else if c == '\x7d' then .error (.message "f-string: single '\x7d' is not allowed")
          else .ok (acc.reverse, .plain, p)
        else .ok (acc.reverse, .plain, p)
      if !raw && c == '\\' then
        match cs with
        | [] => textEnd raw top fuel p.next (c :: acc)
        | 'N' :: '\x7b' :: ds =>
          let name := ds.takeWhile (· != '\x7d')
          let n := min (name.length + 1) ds.length
          textEnd raw top fuel (p.skip (3 + n)) ((ds.take n).reverse ++ ('\x7b' :: 'N' :: c :: acc))
        | d :: ds =>
          if d == '\x7b' || d == '\x7d' then brace (c :: acc) p.next d ds
          else textEnd raw top fuel (p.skip 2) (d :: c :: acc)
      else if c == '\x7b' || c == '\x7d' then brace acc p c cs
      else textEnd raw top fuel p.next (c :: acc)

/-- Pieces read so far, last first, and the literal text since the last expression. -/
structure Pieces where
  done : List Expr := []
  pending : Option (List Char) := none

def Pieces.addText (ps : Pieces) (cs : List Char) : Pieces :=
  if cs.isEmpty then ps else { ps with pending := some (ps.pending.getD [] ++ cs) }

def textNode (r : Reader) (cs : List Char) : Expr := .const r.pos (.str (String.ofList cs) r.marked)

def Pieces.flush (r : Reader) (ps : Pieces) : List Expr :=
  match ps.pending with
  | some cs => textNode r cs :: ps.done
  | none => ps.done

def Pieces.addExpr (r : Reader) (ps : Pieces) (e : Expr) : Pieces :=
  { done := e :: ps.flush r }

def Pieces.finish (r : Reader) (ps : Pieces) : Expr := .joined r.pos (ps.flush r).reverse

def expectingBrace : Problem := .message "f-string: expecting '\x7d'"

def pieces (r : Reader) : Nat → Nat → Place → Pieces → Except Problem (Pieces × Place)
  | 0, _, p, ps => .ok (ps, p)
  | fuel + 1, depth, p, ps => do
    let (cs, how, p) ← textEnd r.raw (depth == 0) (p.rest.length + 1) p []
    let cs ← match Literal.textOf r.raw cs with
      | .ok cs => pure cs
      | .error m => .error (.message m)
    let ps := ps.addText cs
    if how = .doubled then pieces r fuel depth p ps
    else
      match p.rest with
      | [] => if depth == 0 then .ok (ps, p) else .error expectingBrace
      | c :: _ =>
        if c == '\x7d' then .ok (ps, p)
        else if depth ≥ 2 then .error (.message "f-string: expressions nested too deeply")
        else
          let start := p.next
          let (text, p) ← exprEnd (start.rest.length + 1) start none [] []
          match p.rest with
          | [] => .error expectingBrace
          | closer :: _ =>
            let value ← embedded r start.back.tail text closer
            let shown : Option (List Char) × Place :=
              if closer == '=' then
                let blanks := (p.next.rest.takeWhile isAsciiBlank)
                (some (text ++ '=' :: blanks), p.next.skip blanks.length)
              else (none, p)
            let (label, p) := shown
            if p.rest.isEmpty then .error expectingBrace
            else
              let (conversion, p) ← match p.rest with
                | '!' :: k :: _ =>
                  if k == 's' || k == 'r' || k == 'a' then pure (some k, p.skip 2)
                  else .error (.message
                    "f-string: invalid conversion character: expected 's', 'r', or 'a'")
                | ['!'] => .error expectingBrace
                | _ => pure (none, p)
              let (spec, p) ← match p.rest with
                | ':' :: rest =>
                  if rest.isEmpty then .error expectingBrace
                  else
                    let (inner, p) ← pieces r fuel (depth + 1) p.next {}
                    pure (some (inner.finish r), p)
                | _ => pure (none, p)
              match p.rest with
              | '\x7d' :: _ =>
                let conversion :=
                  if label.isSome && spec.isNone && conversion.isNone then some 'r' else conversion
                let ps := match label with
                  | some cs => ps.addText cs
                  | none => ps
                pieces r fuel depth p.next (ps.addExpr r (.formatted r.pos value conversion spec))
              | _ => .error expectingBrace

end Notebook.Grammar.Format
