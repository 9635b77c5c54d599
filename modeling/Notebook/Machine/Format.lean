import Notebook.Display.Spec
import Notebook.Machine.Item

set_option autoImplicit false

namespace Notebook.Machine

open Notebook.Text Notebook.Display

def specError {α : Type} (e : SpecError) (spec : String) (v : Value) : M α := do
  raise e.kind (e.message spec (← typeName v))

def format (h : Host) (v : Value) (spec : String) : M String := do
  match ← special? v "__format__" with
  | some m =>
    let r ← callSpecial h m v [.str spec]
    match ← core r with
    | .str s => return s
    | _ => typeError s!"__format__ must return a str, not {← typeName r}"
  | none =>
    if spec == "" then return ← str h v
    let w ← core v
    let use (default : Option Char) (f : Spec → Except SpecError String) : M String := do
      match Spec.read default spec >>= f with
      | .ok s => return s
      | .error e => specError e spec v
    let isDecimal := match Spec.read (some 'd') spec with
      | .ok p => p.kind == some 'd' || p.kind == some 'n'
      | .error _ => false
    match w with
    | .str s => use (some 's') fun p => p.text s
    | .int n => do
      let text ← use (some 'd') fun p => p.int n
      if text.length > (← read).digitLimit && isDecimal then discard (intText n)
      return text
    | .bool b => use (some 'd') fun p => p.int (if b then 1 else 0)
    | .float x => use none fun p => p.float x
    | .complex re im => use none fun p => p.complex re im
    | _ => typeError s!"unsupported format string passed to {← typeName v}.__format__"

def converted (h : Host) (conversion : Char) (v : Value) : M String := do
  match conversion with
  | 'r' => repr h v
  | 'a' => do return inAscii (← repr h v)
  | _ => str h v

def formatValue (h : Host) (conversion : Option Char) (v : Value) (spec : String) : M String := do
  match conversion with
  | none => format h v spec
  | some c => format h (.str (← converted h c v)) spec

end Notebook.Machine
