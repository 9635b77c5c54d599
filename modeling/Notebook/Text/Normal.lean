import Std.Data.HashMap
import Notebook.Text.Class
import Notebook.Text.NormalTable
import Notebook.Text.Lines

set_option autoImplicit false

namespace Notebook.Text.Normal

def hexValue (cs : List Char) : Nat := cs.foldl (fun n c => n * 16 + Runs.hexDigit c) 0

/-- Reads one entry of a table, given the last key before it; `step` is how far the values of keys
in a row are apart. -/
def readEntry (step last : Nat) (word : List Char) : Nat × List (Nat × List Nat) :=
  let key := word.takeWhile (· != ':')
  let values := (splitAt '+' (word.drop (key.length + 1))).map hexValue
  let gap := key.takeWhile (· != '*')
  let count := match key.drop (gap.length + 1) with
    | [] => 1
    | cs => hexValue cs
  let first := last + hexValue gap
  (first + count - 1,
    (List.range count).map fun i => (first + i, values.map (· + step * i)))

def readTable (step : Nat) (rows : List String) : List (Nat × List Nat) :=
  let words := rows.flatMap fun row => splitAt ' ' row.toList
  (words.foldl (fun (last, out) w =>
    let (last, es) := readEntry step last w
    (last, es.reverse ++ out)) ((0, []) : Nat × List (Nat × List Nat))).2

def decompositions : Std.HashMap Nat (List Nat) := .ofList (readTable 1 NormalTable.decompositions)

def classes : Std.HashMap Nat Nat :=
  .ofList ((readTable 0 NormalTable.combiningClasses).map fun (k, v) => (k, v.headD 0))

def composites : Std.HashMap (Nat × Nat) Nat :=
  .ofList ((readTable 1 NormalTable.composites).filterMap fun (k, v) =>
    match v with
    | [a, b] => some ((a, b), k)
    | _ => none)

def decompose (c : Nat) : List Nat :=
  if 0xac00 ≤ c && c ≤ 0xd7a3 then
    let i := c - 0xac00
    let tail := i % 28
    [0x1100 + i / 588, 0x1161 + i % 588 / 28] ++ (if tail == 0 then [] else [0x11a7 + tail])
  else (decompositions[c]?).getD [c]

def classOf (c : Nat) : Nat := (classes[c]?).getD 0

def insertMark (c : Nat) : List Nat → List Nat
  | [] => [c]
  | d :: ds => if classOf d > classOf c && classOf c != 0 then d :: insertMark c ds else c :: d :: ds

def reorder (cs : List Nat) : List Nat := (cs.foldl (fun out c => insertMark c out) []).reverse

def compose? (a b : Nat) : Option Nat :=
  if 0x1100 ≤ a && a < 0x1113 && 0x1161 ≤ b && b < 0x1176 then
    some (0xac00 + ((a - 0x1100) * 21 + (b - 0x1161)) * 28)
  else if 0xac00 ≤ a && a ≤ 0xd7a3 && (a - 0xac00) % 28 == 0 && 0x11a7 < b && b < 0x11c3 then
    some (a + (b - 0x11a7))
  else composites[(a, b)]?

/-- Joins marks to the last starter where nothing of the same or a higher class stands between. -/
def composeLoop : List Nat → Option Nat → List Nat → Nat → List Nat
  | [], none, held, _ => held.reverse
  | [], some s, held, _ => s :: held.reverse
  | c :: cs, none, held, _ =>
    if classOf c == 0 then held.reverse ++ composeLoop cs (some c) [] 0
    else composeLoop cs none (c :: held) 0
  | c :: cs, some s, held, last =>
    let k := classOf c
    match if held.isEmpty || last < k then compose? s c else none with
    | some d => composeLoop cs (some d) held last
    | none =>
      if k == 0 then s :: held.reverse ++ composeLoop cs (some c) [] 0
      else composeLoop cs (some s) (c :: held) k

/-- The normal form of a name. -/
def name (s : String) : String :=
  if s.toList.all fun c => c.toNat < 128 then s
  else
    let cs := s.toList.flatMap fun c => decompose c.toNat
    String.ofList ((composeLoop (reorder cs) none [] 0).map Char.ofNat)

end Notebook.Text.Normal
