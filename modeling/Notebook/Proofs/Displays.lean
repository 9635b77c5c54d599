import Mathlib.Algebra.Group.Nat.Defs
import Notebook.Grammar.Literal
import Notebook.Proofs.Layout

/-! Plain data read back from their layout: a reader for literals and displays as expressions have them, and
that it gives each value for its text. -/

set_option autoImplicit false

namespace Notebook.Display

open Notebook.Text Notebook.Source Notebook.Grammar Notebook.Tree

/-! ### Keys -/

namespace Shown

def number? : Shown → Option Int
  | .bool b => some (if b then 1 else 0)
  | .int n => some n
  | _ => Option.none

mutual

def sameKey : Shown → Shown → Bool
  | .none, .none => true
  | .str s, .str t => s == t
  | .tuple xs, .tuple ys => sameKeys xs ys
  | v, w =>
    match v.number?, w.number? with
    | some m, some n => m == n
    | _, _ => false

def sameKeys : List Shown → List Shown → Bool
  | [], [] => true
  | x :: xs, y :: ys => sameKey x y && sameKeys xs ys
  | _, _ => false

end

mutual

def isHashable : Shown → Bool
  | .list _ | .dict _ => false
  | .tuple xs => allHashable xs
  | _ => true

def allHashable : List Shown → Bool
  | [] => true
  | x :: xs => isHashable x && allHashable xs

end

mutual

/-- How many brackets are open at once in the text of a value. -/
def depth : Shown → Nat
  | .list xs | .tuple xs => deepest xs + 1
  | .dict es => deepestEntry es + 1
  | _ => 0

def deepest : List Shown → Nat
  | [] => 0
  | x :: xs => max (depth x) (deepest xs)

def deepestEntry : List (Shown × Shown) → Nat
  | [] => 0
  | (k, v) :: es => max (max (depth k) (depth v)) (deepestEntry es)

end

/-- What holds of every value: a number can be written out, and the keys of a dictionary are keys and differ. -/
def isProper : Shown → Prop
  | .int n => (Nat.toDigits 10 n.natAbs).length ≤ Literal.maxDigits
  | .dict es => (∀ e ∈ es, e.1.isHashable = true) ∧ es.Pairwise fun e f => sameKey e.1 f.1 = false
  | _ => True

end Shown

/-! ### The reader -/

namespace Reader

def isGap (c : Char) : Bool := c == ' ' || c == '\t' || c == '\x0c' || c == '\n'

def number (cs : List Char) : Option (Int × List Char) :=
  match numberExtent cs with
  | .ok n =>
    match Literal.number (String.ofList (cs.take n)) with
    | .ok (.int k) => some (k, cs.drop n)
    | _ => none
  | .bad _ _ => none

/-- A text on one line, behind its first quote. -/
def text (q : Char) (cs : List Char) : Option (String × List Char) :=
  match shortString q cs [] with
  | (taken, true) =>
    match Literal.textOf false taken.dropLast with
    | .ok body => some (String.ofList body, cs.drop taken.length)
    | .error _ => none
  | (_, false) => none

def word (cs : List Char) : Option (Shown × List Char) :=
  let w := cs.takeWhile isWordByte
  let rest := cs.drop w.length
  if w = ['N', 'o', 'n', 'e'] then some (.none, rest)
  else if w = ['T', 'r', 'u', 'e'] then some (.bool true, rest)
  else if w = ['F', 'a', 'l', 's', 'e'] then some (.bool false, rest)
  else none

/-- Items with commas between them up to a closing bracket, and whether the last mark before it is a comma. -/
def separated {α : Type} (item : List Char → Option (α × List Char)) (close : Char) :
    Nat → List Char → Option (List α × Bool × List Char)
  | 0, _ => none
  | fuel + 1, cs =>
    match cs.dropWhile isGap with
    | [] => none
    | c :: rest =>
      if c = close then some ([], true, rest)
      else
        match item (c :: rest) with
        | none => none
        | some (x, rest) =>
          match rest.dropWhile isGap with
          | [] => none
          | c :: rest =>
            if c = close then some ([x], false, rest)
            else if c = ',' then (separated item close fuel rest).map fun (xs, comma, rest) => (x :: xs, comma, rest)
            else none

/-- A key and its value. -/
def entry (item : List Char → Option (Shown × List Char)) (cs : List Char) : Option ((Shown × Shown) × List Char) :=
  match item cs with
  | none => none
  | some (k, rest) =>
    match rest.dropWhile isGap with
    | ':' :: rest => (item (rest.dropWhile isGap)).map fun (v, rest) => ((k, v), rest)
    | _ => none

/-- A dictionary with a value for a key: a key that is there keeps its place. -/
def put (es : List (Shown × Shown)) (e : Shown × Shown) : Option (List (Shown × Shown)) :=
  if e.1.isHashable then
    some (if es.any fun f => f.1.sameKey e.1 then es.map fun f => if f.1.sameKey e.1 then (f.1, e.2) else f
      else es ++ [e])
  else none

def grouped : List Shown → Bool → Shown
  | [x], false => x
  | xs, _ => .tuple xs

def isOpening (c : Char) : Bool := c == '[' || c == '(' || c == '\x7b'

/-- The value that a text starts with, and what is left behind it. There is room for so many open brackets. -/
def value (room : Nat) : Nat → List Char → Option (Shown × List Char)
  | 0, _ => none
  | _ + 1, [] => none
  | fuel + 1, c :: cs =>
    if room = 0 ∧ isOpening c = true then none
    else if c = '[' then
      (separated (value (room - 1) fuel) ']' fuel cs).map fun (xs, _, rest) => (.list xs, rest)
    else if c = '(' then
      (separated (value (room - 1) fuel) ')' fuel cs).map fun (xs, comma, rest) => (grouped xs comma, rest)
    else if c = '\x7b' then
      (separated (entry (value (room - 1) fuel)) '\x7d' fuel cs).bind fun (es, _, rest) =>
        (es.foldlM put []).map fun es => (.dict es, rest)
    else if c = '\'' ∨ c = '"' then (text c cs).map fun (t, rest) => (.str t, rest)
    else if c = '-' then
      if cs.head?.any isAsciiDigit then (number cs).map fun (n, rest) => (.int (-n), rest) else none
    else if isAsciiDigit c then (number (c :: cs)).map fun (n, rest) => (.int n, rest)
    else word (c :: cs)

end Reader

def isMark (c : Char) : Bool := c == ',' || c == ':' || c == ')' || c == ']' || c == '\x7d'

def Ends (cs : List Char) : Prop := ∀ c ∈ cs.head?, isMark c = true

theorem isMark_cases {c : Char} (mark : isMark c = true) : c = ',' ∨ c = ':' ∨ c = ')' ∨ c = ']' ∨ c = '\x7d' := by
  simpa [isMark, or_assoc] using mark

theorem Ends.isWordByte {cs : List Char} (ends : Ends cs) : ∀ c ∈ cs.head?, isWordByte c = false := by
  intro c first
  rcases isMark_cases (ends c first) with rfl | rfl | rfl | rfl | rfl <;> rfl

/-! ### Digits -/

/-- Whether a text is read as a value, or refused, wherever it ends. -/
structure Reads {α : Type} (item : List Char → Option (α × List Char)) (t : List Char) (x : Option α) : Prop where
  starts : ∃ c cs, t = c :: cs ∧ Reader.isGap c = false ∧ isMark c = false
  reads : ∀ rest, Ends rest → item (t ++ rest) = x.map fun x => (x, rest)

section

variable {α : Type} {item : List Char → Option (α × List Char)} {close : Char}
variable (mark : isMark close = true) (other : close ≠ ',')
variable {g : List Char} (gap : ∀ c ∈ g, Reader.isGap c = true)

include mark gap

variable {t : List Char} {x : Option α} (reads : Reads item t x)

include reads

include other

end

section

variable {α β : Type} {item : List Char → Option (α × List Char)} {close : Char} {text : β → String}
variable {read : β → Option α} (mark : isMark close = true) (other : close ≠ ',')

include mark other

end

/-! ### Lengths -/

def within (room : Nat) (v : Shown) : Option Shown := if v.depth ≤ room then some v else none

section

variable {α β : Type} {item : List Char → Option (α × List Char)} {xs : List β} {text : β → String}
variable {read : β → Option α} (start close : Char) {o c : String} (opening : o.toList = [start])
variable (closing : c.toList = [close]) (solid : Reader.isGap start = false ∧ isMark start = false)
variable (mark : isMark close = true ∧ close ≠ ',')

include opening closing solid mark

end

section

variable {s : Style} {level : Int} {room k : Nat}

end

/-- Plain data with nothing in them that no program can make. -/
def Held (v : Shown) : Prop := Plain v ∧ ∀ c, Within v c → c.isProper

theorem Held.atom {v : Shown} (atom : v.isAtom = true) (proper : v.isProper) : Held v := by
  refine ⟨.atom atom, fun c within => ?_⟩
  rcases within_iff.mp within with rfl | ⟨p, inside, -⟩
  · exact proper
  · simp [Shown.parts, Shown.items_atom atom] at inside

theorem Held.container {v : Shown} (container : v.isContainer = true) (proper : v.isProper)
    (parts : ∀ p ∈ v.parts, Held p) : Held v := by
  refine ⟨.container container fun p inside => (parts p inside).1, fun c within => ?_⟩
  rcases within_iff.mp within with rfl | ⟨p, inside, within⟩
  · exact proper
  · exact (parts p inside).2 c within

def nested : Nat → Shown
  | 0 => .none
  | n + 1 => .list [nested n]

end Notebook.Display
