import Notebook.Decimal.Shortest
import Notebook.Text.Quoted
import Notebook.Text.Lines

/-! What is shown of a value: its shape as far as it matters to print it, and its text on one line.
-/

set_option autoImplicit false

namespace Notebook.Display

open Notebook.Text

mutual

/-- Values as they are shown. -/
inductive Shown where
  | none
  | bool (b : Bool)
  | int (n : Int)
  | str (s : String)
  /-- A value that prints as a text of its own. -/
  | opaqueText (text : String)
  | list (items : List Shown)
  | tuple (items : List Shown)
  /-- A set; the name of its type shows when it is empty. -/
  | set (type : String) (items : List Shown)
  | dict (entries : List (Shown × Shown))
  /-- A value that is laid out like another, but has a text of its own on one line. -/
  | variant (quoted : String) (shape : Shown)
  /-- An exception with its message and the text that quotes it. -/
  | exception (type message quoted : String)
  | future (isTask : Bool) (state : FutureShown)

inductive FutureShown where
  | pending
  | cancelled
  | rejected (type message : String)
  | fulfilled (value : Shown)

end

instance : Inhabited Shown := ⟨.none⟩

instance : Inhabited FutureShown := ⟨.pending⟩

namespace Shown

def float (x : Float) : Shown := .opaqueText (Decimal.text x)

def module (name : String) : Shown := .opaqueText ("<module " ++ quote name ++ ">")

def coroutine (name : String) : Shown := .opaqueText ("<coroutine " ++ name ++ ">")

def partText (x : Float) : String :=
  let s := Decimal.text x
  if s.endsWith ".0" then String.ofList (s.toList.take (s.length - 2)) else s

def complexText (re im : Float) : String :=
  let imText := partText im ++ "j"
  if re == 0 && re.toBits == 0 then imText
  else
    let sign := if imText.startsWith "-" then "" else "+"
    "(" ++ partText re ++ sign ++ imText ++ ")"

def bytes (bs : List UInt8) : Shown := .opaqueText (quoteBytes bs)

def named (type message : String) : String :=
  if message == "" then type else type ++ ": " ++ message

end Shown

def boolText (b : Bool) : String := if b then "True" else "False"

def futureText (isTask : Bool) (inner : String) : String :=
  (if isTask then "Task" else "Future") ++ " \x7b " ++ inner ++ " \x7d"

mutual

/-- The text of a value on one line. -/
def Shown.quoted : Shown → String
  | .none => "None"
  | .bool b => boolText b
  | .int n => toString n
  | .str s => quote s
  | .opaqueText t => t
  | .list xs => "[" ++ joinWith ", " (quotedAll xs) ++ "]"
  | .tuple [x] => "(" ++ x.quoted ++ ",)"
  | .tuple xs => "(" ++ joinWith ", " (quotedAll xs) ++ ")"
  | .set type [] => type ++ "()"
  | .set type xs =>
    let inner := "\x7b" ++ joinWith ", " (quotedAll xs) ++ "\x7d"
    if type == "set" then inner else type ++ "(" ++ inner ++ ")"
  | .dict es => "\x7b" ++ joinWith ", " (quotedEntries es) ++ "\x7d"
  | .variant q _ => q
  | .exception _ _ q => q
  | .future isTask s => futureText isTask s.quoted

def FutureShown.quoted : FutureShown → String
  | .pending => "<pending>"
  | .cancelled => "<cancelled>"
  | .rejected type message => "<rejected> " ++ Shown.named type message
  | .fulfilled v => v.quoted

def quotedAll : List Shown → List String
  | [] => []
  | x :: xs => x.quoted :: quotedAll xs

def quotedEntries : List (Shown × Shown) → List String
  | [] => []
  | (k, v) :: es => (k.quoted ++ ": " ++ v.quoted) :: quotedEntries es

end

/-- The text of a value itself: a text is not quoted. -/
def Shown.plain : Shown → String
  | .str s => s
  | .exception _ m _ => m
  | v => v.quoted

end Notebook.Display
