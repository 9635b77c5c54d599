import Notebook.Display.Shown

set_option autoImplicit false

namespace Notebook.Display

open Notebook.Text

/-- How values are laid out. Widths below zero count as zero. -/
structure Style where
  indentWidth : Int := 2
  inlineWidth : Int := 60

def Style.indent (s : Style) (level : Int) : String :=
  String.ofList (List.replicate (s.indentWidth.toNat * level.toNat) ' ')

def hasLineBreak (s : String) : Bool := s.toList.contains '\n'

/-- Items between two marks: in a row if they fit on a line, else each on a line of its own. -/
def block (s : Style) (level : Int) (opening closing : String) (items : List String) : String :=
  if items.isEmpty then opening ++ closing
  else
    let row := joinWith ", " items
    if !hasLineBreak row && (row.length : Int) ≤ s.inlineWidth then opening ++ row ++ closing
    else
      let lines := items.map fun i => s.indent (level + 1) ++ i ++ ","
      opening ++ "\n" ++ joinWith "\n" lines ++ "\n" ++ s.indent level ++ closing

mutual

/-- The text of a value at a level of indentation. -/
def Shown.layout (s : Style) (level : Int) : Shown → String
  | .list xs => block s level "[" "]" (layoutAll s (level + 1) xs)
  | .tuple [x] => "(" ++ x.layout s (level + 1) ++ ",)"
  | .tuple xs => block s level "(" ")" (layoutAll s (level + 1) xs)
  | .set type [] => type ++ "()"
  | .set _ xs => block s level "\x7b" "\x7d" (layoutAll s (level + 1) xs)
  | .dict es => block s level "\x7b" "\x7d" (layoutEntries s (level + 1) es)
  | .variant _ shape => shape.layout s level
  | .exception type message _ => Shown.named type message
  | .future isTask state => futureText isTask (state.layout s level)
  | .none => "None"
  | .bool b => boolText b
  | .int n => toString n
  | .str t => quote t
  | .opaqueText t => t

def FutureShown.layout (s : Style) (level : Int) : FutureShown → String
  | .pending => "<pending>"
  | .cancelled => "<cancelled>"
  | .rejected type message => "<rejected> " ++ Shown.named type message
  | .fulfilled v => v.layout s level

def layoutAll (s : Style) (level : Int) : List Shown → List String
  | [] => []
  | x :: xs => x.layout s level :: layoutAll s level xs

def layoutEntries (s : Style) (level : Int) : List (Shown × Shown) → List String
  | [] => []
  | (k, v) :: es =>
    (k.layout s level ++ ": " ++ v.layout s level) :: layoutEntries s level es

end

/-- The text of a value as it is displayed. -/
def Shown.text (v : Shown) : String := v.layout {} 0

end Notebook.Display
