import Notebook.Display.Layout
import Notebook.Display.Message
import Notebook.Machine.Attribute
import Notebook.Machine.Number
import Notebook.Text.Codec

/-! Texts of values: the one that quotes a value, the one that is a value's own, and the one that is
displayed. -/

set_option autoImplicit false

namespace Notebook.Machine

open Notebook.Text Notebook.Display

/-- Objects without a text of their own show where they are, which is no fact about them. -/
def address : String := " at 0x?>"

def classText (c : Class) : String :=
  if c.module == "builtins" then "<class '" ++ c.qualifiedName ++ "'>"
  else "<class '" ++ c.module ++ "." ++ c.qualifiedName ++ "'>"

def plainText (v : Value) : M String := do
  match ← class? (← classOf v) with
  | some c =>
    let path := if c.module == "builtins" then c.qualifiedName else c.module ++ "." ++ c.qualifiedName
    return "<" ++ path ++ " object" ++ address
  | none => return "<object" ++ address

def moduleText (r : Ref) (name : String) : M String := do
  let shown ← moduleName (.ref r) name
  match ← own? r "__file__" with
  | some (.str f) => return s!"<module {quote shown} from {quote f}>"
  | _ =>
    let isHost := (← read).hosts.any (·.2 == r)
    if isHost && ["math", "sys"].contains shown then return s!"<module {quote shown} (built-in)>"
    return s!"<module {quote shown}>"

def generatorKind : Code.Flavor → String
  | .coroutine => "coroutine"
  | .asyncGenerator => "async_generator"
  | _ => "generator"

def rangeText (a b c : Int) : String :=
  if c == 1 then s!"range({a}, {b})" else s!"range({a}, {b}, {c})"

def viewName : DictPart → String
  | .keys => "dict_keys"
  | .values => "dict_values"
  | .items => "dict_items"

def dictEntries (r : Ref) : M (List (Value × Value)) := do
  match (← obj r).payload with
  | .dict es => return es.toList
  | _ => return []

def shownArg (text : Value → M String) (v : Value) : M Shown := do
  match v with
  | .none => return .none
  | .int n => return .int n
  | .str s => return .str s
  | .ref r =>
    match (← obj r).payload with
    | .tuple (.str f :: .int l :: _) => return .tuple [.str f, .int l]
    | _ => return .opaqueText (← text v)
  | v => return .opaqueText (← text v)

def nativeName (cls : Ref) : M String := do
  match (← orderOf cls).find? (· < natives.length) with
  | some r => className r
  | none => return "object"

def comma : String := ", "

def typeLabel (inner : Value → M String) (v : Value) : M String := do
  match v, ← asClass v with
  | .none, _ => return "None"
  | .ellipsis, _ => return "..."
  | _, some c => return if c.module == "builtins" then c.qualifiedName
      else c.module ++ "." ++ c.qualifiedName
  | _, none => inner v

/-- The text of a value by what it is; `inner` gives the texts of its parts, and a part that is
under way already is cut short. -/
def nativeRepr (inner : Value → M String) (cut : Ref → Bool) (v : Value) : M String := do
  let all (vs : List Value) : M String := do return joinWith ", " (← vs.mapM inner)
  match v with
  | .none => return "None"
  | .notImplemented => return "NotImplemented"
  | .ellipsis => return "Ellipsis"
  | .bool b => return boolText b
  | .int n => intText n
  | .float x => return Decimal.text x
  | .complex re im => return Shown.complexText re im
  | .str s => return quote s
  | .bytes bs => return quoteBytes bs
  | .builtin n =>
    let last := (dottedParts n).getLastD n
    return if n == "exit" || n == "quit" then s!"Use {n}() or Ctrl-D (i.e. EOF) to exit"
      else if n.startsWith "asyncio." || n.startsWith "pycell." then "<function " ++ last ++ address
      else "<built-in function " ++ last ++ ">"
  | .native c n =>
    return if isSlot n then s!"<slot wrapper {quote n} of {quote c} objects>"
      else s!"<method {quote n} of {quote c} objects>"
  | .bound self f =>
    match f with
    | .native c n =>
      let type ← typeName self
      if isSlot n then return s!"<method-wrapper {quote n} of {type} object at 0x?>"
      if (← asClass self).isSome then return s!"<built-in method {n} of type object at 0x?>"
      if derives c "ExportNamespace" then
        return s!"<bound method {c}.{n} of {← inner self}>"
      return s!"<built-in method {n} of {type} object at 0x?>"
    | .ref r =>
      match (← obj r).payload with
      | .function fn => return s!"<bound method {fn.qualifiedName} of {← inner self}>"
      | _ => return s!"<bound method ? of {← inner self}>"
    | _ => return s!"<bound method ? of {← inner self}>"
  | .ref r =>
    let o ← obj r
    match o.payload with
    | .plain => plainText v
    | .wrapped w => inner w
    | .list items => if cut r then return "[...]" else return "[" ++ (← all items.toList) ++ "]"
    | .tuple [x] => if cut r then return "(...)" else return "(" ++ (← inner x) ++ ",)"
    | .tuple items => if cut r then return "(...)" else return "(" ++ (← all items) ++ ")"
    | .dict es =>
      if cut r then return "\x7b...\x7d"
      let parts ← es.toList.mapM fun (k, x) => do return (← inner k) ++ ": " ++ (← inner x)
      let body := "\x7b" ++ joinWith ", " parts ++ "\x7d"
      if o.cls == nativeRef "OrderedDict" then
        let pairs ← es.toList.mapM fun (k, x) => do return s!"({← inner k}, {← inner x})"
        return if pairs.isEmpty then "OrderedDict()" else "OrderedDict([" ++ joinWith ", " pairs ++ "])"
      return body
    | .set items =>
      if cut r then return (← className o.cls) ++ "(...)"
      let name ← className o.cls
      if items.isEmpty then return name ++ "()"
      let body := "\x7b" ++ (← all items.toList) ++ "\x7d"
      return if name == "set" then body else name ++ "(" ++ body ++ ")"
    | .range a b c => return rangeText a b c
    | .slice a b c => return s!"slice({← inner a}, {← inner b}, {← inner c})"
    | .cell _ => return "<cell" ++ address
    | .class c => return classText c
    | .function f => return "<function " ++ f.qualifiedName ++ address
    | .module name => moduleText r name
    | .generator g => return "<" ++ generatorKind g.flavor ++ " object " ++ g.qualifiedName ++ address
    | .sleep .. => return "<coroutine object sleep" ++ address
    | .exception e =>
      let name ← className o.cls
      match e.args with
      | [a] => return name ++ "(" ++ (← inner a) ++ ")"
      | as => return name ++ "(" ++ (← all as) ++ ")"
    | .future id =>
      let name := if o.cls == nativeRef "Task" then "Task" else "Future"
      match (← read).loops.outcome id with
      | .pending => return s!"<{name} pending>"
      | .cancelled => return s!"<{name} cancelled>"
      | .result x => return s!"<{name} finished result={← inner x}>"
      | .failed x => return s!"<{name} finished exception={← inner x}>"
    | .exports e =>
      let parts ← e.entries.mapM fun (k, x) => do return quote k ++ ": " ++ (← inner x)
      return "ExportNamespace(\x7b" ++ joinWith ", " parts ++ "\x7d)"
    | .loader dir => return s!"<Loader {quote dir}>"
    | .view d part =>
      let parts ← (← dictEntries d).mapM fun (k, x) => do
        match part with
        | .keys => inner k
        | .values => inner x
        | .items => return s!"({← inner k}, {← inner x})"
      return viewName part ++ "([" ++ joinWith ", " parts ++ "])"
    | .alias origin [] => return s!"{← typeLabel inner origin}[()]"
    | .alias origin args =>
      return s!"{← typeLabel inner origin}[{joinWith comma (← args.mapM (typeLabel inner))}]"
    | .union members => return joinWith " | " (← members.mapM (typeLabel inner))
    | .super c self =>
      let ofSelf ← match ← asClass self with
        | some k => pure k.name
        | none => typeName self
      return s!"<super: <class {quote (← className c)}>, <{ofSelf} object>>"
    | .slot name cls => return s!"<attribute {quote name} of {quote cls} objects>"
    | .staticMethod f => return s!"<staticmethod({← inner f})>"
    | .classMethod f => return s!"<classmethod({← inner f})>"
    | _ => plainText v

def expectText (method : String) (v : Value) : M String := do
  match ← core v with
  | .str s => return s
  | w => typeError s!"{method} returned non-string (type {← typeName w})"

def reprFuel (h : Host) : (fuel : Nat) → List Ref → Value → M String
  | 0, _, _ => recursionError " while getting the repr of an object"
  | fuel + 1, seen, v => do
    match ← special? v "__repr__" with
    | some m => expectText "__repr__" (← callSpecial h m v [])
    | none =>
      let seen' := match v with
        | .ref r => r :: seen
        | _ => seen
      nativeRepr (reprFuel h fuel seen') seen.contains v

def repr (h : Host) (v : Value) : M String := reprFuel h nestingLimit [] v

def codecMessage? : List Value → Option String
  | [.str codec, .str text, .int start, .int stop, .str reason] =>
    let c := (text.toList[start.toNat]?).getD ' '
    some (EncodeFault.message ⟨start.toNat, stop.toNat, c, reason, codec⟩)
  | [.str codec, .bytes bs, .int start, .int stop, .str reason] =>
    let b := (bs[start.toNat]?).getD 0
    some (DecodeFault.message ⟨start.toNat, stop.toNat, b, reason, codec⟩)
  | _ => none

def nativeMessage (h : Host) (str : Value → M String) (cls : Ref) (e : Exception) : M String := do
  let type ← nativeName cls
  if derives type "BaseExceptionGroup" then
    let n := e.members.length
    let ending := if n == 1 then "" else "s"
    return s!"{← str (argAt e.args 0)} ({n} sub-exception{ending})"
  match e.args ++ e.files with
  | [] => return messageOf type []
  | [a] =>
    if derives type "KeyError" then repr h a
    else str a
  | as =>
    let ruled := if derives type "UnicodeError" then codecMessage? as else none
    match ruled with
    | some message => return message
    | none => return messageOf type (← as.mapM (shownArg (repr h)))

def strFuel (h : Host) : (fuel : Nat) → Value → M String
  | 0, _ => recursionError
  | fuel + 1, v => do
    match v with
    | .str s => return s
    | _ =>
      match ← special? v "__str__" with
      | some m => expectText "__str__" (← callSpecial h m v [])
      | none =>
        match v with
        | .ref r =>
          let o ← obj r
          match o.payload with
          | .exception e => nativeMessage h (strFuel h fuel) o.cls e
          | .wrapped (.str s) => return s
          | _ => repr h v
        | v => repr h v

def str (h : Host) (v : Value) : M String := strFuel h 300 v

def describe (h : Host) (exc : Value) : M (String × String) := do
  return (← typeName exc, ← str h exc)

def displayFuel (h : Host) : (fuel : Nat) → Value → M Shown
  | 0, _ => recursionError
  | fuel + 1, v => do
    let whole : M Shown := do return .opaqueText (← repr h v)
    match v with
    | .none => return .none
    | .bool b => return .bool b
    | .str s => return .str s
    | .ref r =>
      let o ← obj r
      match o.payload with
      | .module name => return Shown.module (← moduleName v name)
      | .generator g =>
        if g.flavor == .coroutine then return Shown.coroutine g.qualifiedName else whole
      | .sleep .. => return Shown.coroutine "sleep"
      | .exception _ => do
        let (type, message) ← describe h v
        return .exception type message ""
      | .future id =>
        let isTask := o.cls == nativeRef "Task"
        match (← read).loops.outcome id with
        | .pending => return .future isTask .pending
        | .cancelled => return .future isTask .cancelled
        | .result x => return .future isTask (.fulfilled (← displayFuel h fuel x))
        | .failed x =>
          let (type, message) ← describe h x
          return .future isTask (.rejected type message)
      | .dict es => return .dict (← es.toList.mapM fun (k, x) => do
          return (← displayFuel h fuel k, ← displayFuel h fuel x))
      | .exports e => return .dict (← e.entries.mapM fun (k, x) => do
          return (.str k, ← displayFuel h fuel x))
      | .list items => return .list (← items.toList.mapM (displayFuel h fuel))
      | .tuple items => return .tuple (← items.mapM (displayFuel h fuel))
      | .set items =>
        return .set (← className o.cls) (← items.toList.mapM (displayFuel h fuel))
      | _ => whole
    | _ => whole

def displayLimit : Nat := 320

def display (h : Host) (v : Value) : M Shown := displayFuel h displayLimit v

def displayText (h : Host) (v : Value) : M String := do return (← display h v).text

end Notebook.Machine
