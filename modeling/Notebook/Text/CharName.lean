import Notebook.Text.NameRows.Aliases
import Notebook.Text.NameRows.Alphabets
import Notebook.Text.NameRows.Pictures
import Notebook.Text.NameRows.Scripts
import Notebook.Text.NameRows.Symbols
import Notebook.Text.Runs

set_option autoImplicit false

namespace Notebook.Text.CharName

def wordsOf (s : String) : List String :=
  let (word, out) := s.foldl (fun (word, out) c =>
    if c == ' ' || c == '\n' then
      if word.isEmpty then (word, out) else ([], String.ofList word.reverse :: out)
    else (c :: word, out)) (([], []) : List Char × List String)
  (if word.isEmpty then out else String.ofList word.reverse :: out).reverse

def hexValue (cs : List Char) : Nat := cs.foldl (fun n c => n * 16 + Runs.hexDigit c) 0

def isNamePart (w : String) : Bool :=
  match w.toList with
  | c :: _ => !('a' ≤ c && c ≤ 'z')
  | [] => false

/-- What opens a name: how many words it shares with the name before, and how far the code point is
from the one before. -/
def readMark (w : String) : Nat × Nat :=
  match w.toList with
  | c :: '+' :: ds => (c.toNat - 'a'.toNat, hexValue ds)
  | c :: _ => (c.toNat - 'a'.toNat, 1)
  | [] => (0, 1)

/-- The code point of a name among those of a table; `next` is the code point after that of the name
before, which is `last`. -/
def findIn (target : List String) (table : List String) (next : Nat) (last : List String) :
    Option Nat :=
  match table with
  | [] => none
  | mark :: rest =>
    let (shared, gap) := readMark mark
    let code := next + gap - 1
    let tail := rest.takeWhile isNamePart
    let name := last.take shared ++ tail
    if name == target then some code
    else findIn target (rest.drop tail.length) (code + 1) name
termination_by table.length

def findAlias (target : List String) (table : List String) : Option Nat :=
  match table with
  | [] => none
  | mark :: rest =>
    let name := rest.takeWhile fun w => !w.endsWith ":"
    if name == target then some (hexValue (mark.toList.dropLast))
    else findAlias target (rest.drop name.length)
termination_by table.length

def listed? (name : String) : Option Nat :=
  let target := name.splitOn " "
  let tables := [(NameRows.alphabets, 0), (NameRows.symbols, 0x2000), (NameRows.scripts, 0x10000),
    (NameRows.pictures, 0x14000)]
  match tables.findSome? fun (table, first) => findIn target (wordsOf table) first [] with
  | some n => some n
  | none => findAlias target (wordsOf NameRows.aliases)

def numberedRanges : List (String × List (Nat × Nat)) :=
  [("CJK UNIFIED IDEOGRAPH-",
      [(0x3400, 0x4dbf), (0x4e00, 0x9fff), (0x20000, 0x2a6df), (0x2a700, 0x2b738),
        (0x2b740, 0x2b81d), (0x2b820, 0x2cea1), (0x2ceb0, 0x2ebe0), (0x30000, 0x3134a)]),
    ("CJK COMPATIBILITY IDEOGRAPH-", [(0xf900, 0xfa6d), (0xfa70, 0xfad9), (0x2f800, 0x2fa1d)]),
    ("KHITAN SMALL SCRIPT CHARACTER-", [(0x18b00, 0x18cd5)]),
    ("NUSHU CHARACTER-", [(0x1b170, 0x1b2fb)])]

def isNumberDigit (c : Char) : Bool := ('0' ≤ c && c ≤ '9') || ('A' ≤ c && c ≤ 'F')

def numberDigit (c : Char) : Nat :=
  if c ≤ '9' then c.toNat - '0'.toNat else c.toNat - 'A'.toNat + 10

def numbered? (name : String) : Option Nat :=
  numberedRanges.findSome? fun (start, ranges) =>
    if name.startsWith start then
      let ds := name.toList.drop start.length
      let n := ds.foldl (fun n c => n * 16 + numberDigit c) 0
      if (ds.length == 4 || ds.length == 5) && ds.all isNumberDigit
          && ranges.any (fun (a, b) => a ≤ n && n ≤ b) then some n
      else none
    else none

/-- Sounds at the start, in the middle and at the end of a syllable. -/
def leads : List String :=
  ["G", "GG", "N", "D", "DD", "R", "M", "B", "BB", "S", "SS", "", "J", "JJ", "C", "K", "T", "P", "H"]

def vowels : List String :=
  ["A", "AE", "YA", "YAE", "EO", "E", "YEO", "YE", "O", "WA", "WAE", "OE", "YO", "U", "WEO", "WE",
    "WI", "YU", "EU", "YI", "I"]

def tails : List String :=
  ["", "G", "GG", "GS", "N", "NJ", "NH", "D", "L", "LG", "LM", "LB", "LS", "LT", "LP", "LH", "M",
    "B", "BS", "S", "SS", "NG", "J", "C", "K", "T", "P", "H"]

def takeSound (sounds : List String) (cs : List Char) : Option (Nat × List Char) :=
  let best := sounds.zipIdx.foldl (fun best (s, i) =>
    if s.toList.isPrefixOf cs then
      match best with
      | some (n, _) => if s.length > n then some (s.length, i) else best
      | none => some (s.length, i)
    else best) (none : Option (Nat × Nat))
  best.map fun (n, i) => (i, cs.drop n)

def syllableStart : String := "HANGUL SYLLABLE "

def syllable? (name : String) : Option Nat := do
  let (l, cs) ← takeSound leads (name.toList.drop syllableStart.length)
  let (v, cs) ← takeSound vowels cs
  let (t, cs) ← takeSound tails cs
  if cs.isEmpty then some (0xac00 + (l * vowels.length + v) * tails.length + t) else none

def codeOf? (name : String) : Option Nat :=
  if name.startsWith syllableStart then syllable? name
  else if name.startsWith "CJK UNIFIED IDEOGRAPH-" then numbered? name
  else
    let name := String.ofList (name.toList.map Char.toUpper)
    match numbered? name with
    | some n => some n
    | none => listed? name

end Notebook.Text.CharName
