import Notebook.Calendar
import Notebook.Display.Shown

set_option autoImplicit false

namespace Notebook

open Notebook.Display

inductive Datum where
  | none
  | bool (b : Bool)
  | int (n : Int)
  | float (x : Float)
  | str (s : String)
  | list (items : List Datum)
  | dict (entries : List (Datum × Datum))
  | bytes (bs : List UInt8)
  | date (d : Date)
  | moment (m : Moment)
  | set (items : List Datum)
deriving Inhabited

namespace Datum

def typeName : Datum → String
  | .none => "NoneType"
  | .bool _ => "bool"
  | .int _ => "int"
  | .float _ => "float"
  | .str _ => "str"
  | .list _ => "list"
  | .dict _ => "dict"
  | .bytes _ => "bytes"
  | .date _ => "datetime.date"
  | .moment _ => "datetime.datetime"
  | .set _ => "set"

def shortTypeName : Datum → String
  | .date _ => "date"
  | .moment _ => "datetime"
  | d => d.typeName

def isTrue : Datum → Bool
  | .none => false
  | .bool b => b
  | .int n => n != 0
  | .float x => x != 0
  | .str s => s != ""
  | .list xs => !xs.isEmpty
  | .dict es => !es.isEmpty
  | .bytes bs => !bs.isEmpty
  | .set xs => !xs.isEmpty
  | .date _ | .moment _ => true

def number? : Datum → Option (Int ⊕ Float)
  | .bool b => some (.inl (if b then 1 else 0))
  | .int n => some (.inl n)
  | .float x => some (.inr x)
  | _ => Option.none

def sameNumber : Int ⊕ Float → Int ⊕ Float → Bool
  | .inl a, .inl b => a == b
  | .inr x, .inr y => x == y
  | .inl a, .inr x => x == Decimal.ofInt a && Decimal.truncate x == a
  | .inr x, .inl a => x == Decimal.ofInt a && Decimal.truncate x == a

mutual

/-- Equality by value: numbers of different types can be equal, and the order of a dictionary does
not matter. -/
def same : Datum → Datum → Bool
  | .none, .none => true
  | .str a, .str b => a == b
  | .list xs, .list ys => sameAll xs ys
  | .dict es, .dict fs => es.length == fs.length && sameEntries es fs
  | .bytes a, .bytes b => a == b
  | .date a, .date b => a == b
  | .moment a, .moment b => a == b
  | .set xs, .set ys => xs.length == ys.length && sameMembers xs ys
  | a, b =>
    match a.number?, b.number? with
    | some m, some n => sameNumber m n
    | _, _ => false

def sameAll : List Datum → List Datum → Bool
  | [], [] => true
  | x :: xs, y :: ys => same x y && sameAll xs ys
  | _, _ => false

def sameMembers : List Datum → List Datum → Bool
  | [], _ => true
  | x :: xs, ys => ys.any (fun y => same x y) && sameMembers xs ys

def sameEntries : List (Datum × Datum) → List (Datum × Datum) → Bool
  | [], _ => true
  | (k, v) :: es, fs => fs.any (fun f => same k f.1 && same v f.2) && sameEntries es fs

end

mutual

def shown : Datum → Shown
  | .none => .none
  | .bool b => .bool b
  | .int n => .int n
  | .float x => .float x
  | .str s => .str s
  | .list xs => .list (shownAll xs)
  | .dict es => .dict (shownEntries es)
  | .bytes bs => .bytes bs
  | .date d => .opaqueText d.text
  | .moment m => .opaqueText m.text
  | .set xs => .set "set" (shownAll xs)

def shownAll : List Datum → List Shown
  | [] => []
  | x :: xs => shown x :: shownAll xs

def shownEntries : List (Datum × Datum) → List (Shown × Shown)
  | [] => []
  | (k, v) :: es => (shown k, shown v) :: shownEntries es

end

/-- Lists, dictionaries and sets can change, so they are no keys. -/
def isHashable : Datum → Bool
  | .list _ => false
  | .dict _ => false
  | .set _ => false
  | _ => true

/-- The value of a key that is a text. -/
def get? (d : Datum) (key : String) : Option Datum :=
  match d with
  | .dict es => (es.find? fun
    | (.str k, _) => k == key
    | _ => false).map (·.2)
  | _ => Option.none

/-- Sets the value of a key; a key that is there keeps its place. -/
def setEntry (es : List (Datum × Datum)) (k v : Datum) : List (Datum × Datum) :=
  if es.any (fun e => e.1.same k) then es.map fun e => if e.1.same k then (e.1, v) else e
  else es ++ [(k, v)]

end Datum

end Notebook
