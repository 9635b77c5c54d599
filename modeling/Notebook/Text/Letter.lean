import Std.Data.HashMap
import Notebook.Text.CaseTable
import Notebook.Text.Class

set_option autoImplicit false

namespace Notebook.Text

/-- The entries of a simple map: every code point of a row with the one that it goes to. -/
def simpleEntries : List Nat → List (Nat × List Nat)
  | first :: count :: step :: image :: rest =>
    ((List.range count).map fun i => (first + i * step, [image + i * step])) ++ simpleEntries rest
  | _ => []

def fullEntries : (fuel : Nat) → List Nat → List (Nat × List Nat)
  | fuel + 1, code :: count :: rest =>
    (code, rest.take count) :: fullEntries fuel (rest.drop count)
  | _, _ => []

abbrev CaseMap := Std.HashMap Nat (List Nat)

def caseMap (simple full : List String) : CaseMap :=
  let numbers (rows : List String) : List Nat := rows.flatMap fun row => Runs.words row.toList none
  let ns := numbers full
  .ofList (simpleEntries (numbers simple) ++ fullEntries ns.length ns)

def upperMap : CaseMap := caseMap CaseTable.upperSimple CaseTable.upperFull

def lowerMap : CaseMap := caseMap CaseTable.lowerSimple CaseTable.lowerFull

def titleMap : CaseMap := caseMap CaseTable.titleSimple CaseTable.titleFull

def foldMap : CaseMap := caseMap CaseTable.foldSimple CaseTable.foldFull

def smallRuns : Runs := Runs.ofLines CaseTable.lowercase

def capitalRuns : Runs := Runs.ofLines CaseTable.uppercase

def titleRuns : Runs := Runs.ofLines CaseTable.titlecase

def ignorableRuns : Runs := Runs.ofLines CaseTable.ignorable

/-- The image of a character by the first of some maps that has one. -/
def mapped (maps : List CaseMap) (c : Char) : List Char :=
  match maps.findSome? fun m => m[c.toNat]? with
  | some ns => ns.map Char.ofNat
  | none => [c]

def upperAll (c : Char) : List Char := mapped [upperMap] c

def lowerAll (c : Char) : List Char := mapped [lowerMap] c

def titleAll (c : Char) : List Char := mapped [titleMap, upperMap] c

def foldAll (c : Char) : List Char := mapped [foldMap, lowerMap] c

def isUpper (c : Char) : Bool :=
  if c.toNat < 128 then 'A' ≤ c && c ≤ 'Z' else capitalRuns.contains c.toNat

def isLower (c : Char) : Bool :=
  if c.toNat < 128 then 'a' ≤ c && c ≤ 'z' else smallRuns.contains c.toNat

def isTitleLetter (c : Char) : Bool := c.toNat ≥ 128 && titleRuns.contains c.toNat

def isCased (c : Char) : Bool := isUpper c || isLower c || isTitleLetter c

def isIgnorable (c : Char) : Bool :=
  if c.toNat < 128 then ['\'', '.', ':', '^', '\x60'].contains c else ignorableRuns.contains c.toNat

def capitalSigma : Char := 'Σ'

def touchesLetter (cs : List Char) : Bool :=
  match cs.dropWhile isIgnorable with
  | [] => false
  | c :: _ => isCased c

/-- A small letter between the characters before it, the nearest first, and those after it: a sigma
at the end of a word has its own form. -/
def lowerIn (before : List Char) (c : Char) (after : List Char) : List Char :=
  if c == capitalSigma then
    if touchesLetter before && !touchesLetter after then ['ς'] else ['σ']
  else lowerAll c

def upper (s : String) : String := String.ofList (s.toList.flatMap upperAll)

def lowerChars : List Char → List Char → List Char
  | _, [] => []
  | before, c :: cs => lowerIn before c cs ++ lowerChars (c :: before) cs

def lower (s : String) : String := String.ofList (lowerChars [] s.toList)

def foldCase (s : String) : String := String.ofList (s.toList.flatMap foldAll)

def titleChars : Bool → List Char → List Char → List Char
  | _, _, [] => []
  | inWord, before, c :: cs =>
    (if inWord then lowerIn before c cs else titleAll c) ++ titleChars (isCased c) (c :: before) cs

def title (s : String) : String := String.ofList (titleChars false [] s.toList)

def capitalize (s : String) : String :=
  match s.toList with
  | [] => ""
  | c :: cs => String.ofList (titleAll c ++ lowerChars [c] cs)

def swapChars : List Char → List Char → List Char
  | _, [] => []
  | before, c :: cs =>
    (if isUpper c then lowerIn before c cs else if isLower c then upperAll c else [c])
      ++ swapChars (c :: before) cs

def swapCase (s : String) : String := String.ofList (swapChars [] s.toList)

/-- Whether letters with case are there, and all of them capitals. -/
def isUpperText (s : String) : Bool :=
  let cs := s.toList
  cs.any isUpper && cs.all fun c => !isLower c && !isTitleLetter c

def isLowerText (s : String) : Bool :=
  let cs := s.toList
  cs.any isLower && cs.all fun c => !isUpper c && !isTitleLetter c

/-- Whether every word starts with a capital and goes on with small letters. -/
def isTitle (s : String) : Bool :=
  let rec go : Bool → List Char → Bool
    | _, [] => true
    | inWord, c :: cs =>
      if isUpper c || isTitleLetter c then !inWord && go true cs
      else if isLower c then inWord && go true cs
      else go false cs
  s.toList.any isCased && go false s.toList

end Notebook.Text
