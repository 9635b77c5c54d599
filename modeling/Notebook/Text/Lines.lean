import Notebook.Text.Class

set_option autoImplicit false

namespace Notebook.Text

def trimLeft (p : Char → Bool) (cs : List Char) : List Char := cs.dropWhile p

def trimRight (p : Char → Bool) (cs : List Char) : List Char := (cs.reverse.dropWhile p).reverse

def trim (s : String) : String := String.ofList (trimRight isBlank (trimLeft isBlank s.toList))

def trimEnd (s : String) : String := String.ofList (trimRight isBlank s.toList)

def isBlankText (s : String) : Bool := s.toList.all isBlank

/-- The lines of a text, each with its line end; a carriage return and a line feed end one line. -/
def linesKept : List Char → List Char → List (List Char)
  | [], [] => []
  | [], acc => [acc.reverse]
  | '\r' :: '\n' :: cs, acc => ('\n' :: '\r' :: acc).reverse :: linesKept cs []
  | c :: cs, acc =>
    if isLineEnd c then (c :: acc).reverse :: linesKept cs [] else linesKept cs (c :: acc)

def linesWithEnds (s : String) : List String := (linesKept s.toList []).map String.ofList

/-- The lines of a text without their line ends. -/
def lines (s : String) : List String :=
  (linesKept s.toList []).map fun l => String.ofList (trimRight isLineEnd l)

def splitAt (sep : Char) : List Char → List (List Char)
  | [] => [[]]
  | c :: cs =>
    if c = sep then [] :: splitAt sep cs
    else match splitAt sep cs with
      | [] => [[c]]
      | p :: ps => (c :: p) :: ps

def dottedParts (s : String) : List String := (splitAt '.' s.toList).map String.ofList

def joinWith (sep : String) : List String → String
  | [] => ""
  | [s] => s
  | s :: t :: rest => s ++ sep ++ joinWith sep (t :: rest)

theorem splitAt_ne_nil (sep : Char) (cs : List Char) : splitAt sep cs ≠ [] := by
  cases cs with
  | nil => simp [splitAt]
  | cons c cs =>
    unfold splitAt
    split
    · simp
    · split <;> simp

def unifyLineEnds : List Char → List Char
  | [] => []
  | '\r' :: '\n' :: cs => '\n' :: unifyLineEnds cs
  | '\r' :: cs => '\n' :: unifyLineEnds cs
  | c :: cs => c :: unifyLineEnds cs

end Notebook.Text
