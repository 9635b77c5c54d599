import Notebook.Machine.Format

set_option autoImplicit false

namespace Notebook.Machine

open Notebook.Text Notebook.Display

/-- A field of a text: what it names, how it is converted, and its specification. -/
structure Field where
  name : List Char
  conversion : Option Char := none
  spec : List Char := []

/-- The name of a field, the mark that ends it, and what follows. Brackets hide the marks. -/
def fieldName : List Char → (bracket : Bool) → List Char →
    Except String (List Char × Char × List Char)
  | [], _, _ => .error "expected '\x7d' before end of string"
  | c :: cs, true, acc => fieldName cs (c != ']') (c :: acc)
  | c :: cs, false, acc =>
    if c == '\x7b' then .error "unexpected '\x7b' in field name"
    else if c == '\x7d' || c == ':' || c == '!' then .ok (acc.reverse, c, cs)
    else fieldName cs (c == '[') (c :: acc)

def fieldSpec : List Char → Nat → List Char → Except String (List Char × List Char)
  | [], _, _ => .error "unmatched '\x7b' in format spec"
  | '\x7d' :: cs, 0, acc => .ok (acc.reverse, cs)
  | '\x7d' :: cs, n + 1, acc => fieldSpec cs n ('\x7d' :: acc)
  | '\x7b' :: cs, n, acc => fieldSpec cs (n + 1) ('\x7b' :: acc)
  | c :: cs, n, acc => fieldSpec cs n (c :: acc)

def readField (cs : List Char) : Except String (Field × List Char) := do
  let (name, mark, rest) ← fieldName cs false []
  match mark, rest with
  | '\x7d', rest => return ({ name }, rest)
  | '!', [] => .error "end of string while looking for conversion specifier"
  | '!', c :: '\x7d' :: rest => return ({ name, conversion := some c }, rest)
  | '!', c :: ':' :: rest =>
    let (spec, rest) ← fieldSpec rest 0 []
    return ({ name, conversion := some c, spec }, rest)
  | '!', [_] => .error "unmatched '\x7b' in format spec"
  | '!', _ => .error "expected ':' after conversion specifier"
  | _, rest =>
    let (spec, rest) ← fieldSpec rest 0 []
    return ({ name, spec }, rest)

def numberName (cs : List Char) : M (Option Nat) := do
  if cs.isEmpty || !cs.all (fun c => (decimalValue? c).isSome) then return none
  match takeCount cs none with
  | .ok (n, _) => return n
  | .error e => specError e "" .none

def followField (h : Host) : (fuel : Nat) → Value → List Char → M Value
  | 0, v, _ => return v
  | fuel + 1, v, cs =>
    match cs with
    | [] => return v
    | '.' :: rest => do
      let name := rest.takeWhile fun c => c != '.' && c != '['
      if name.isEmpty then valueError "Empty attribute in format string"
      followField h fuel (← getAttr h v (String.ofList name)) (rest.drop name.length)
    | '[' :: rest => do
      let key := rest.takeWhile (· != ']')
      if key.length == rest.length then valueError "Missing ']' in format string"
      let n ← numberName key
      if key.isEmpty then valueError "Empty attribute in format string"
      let k := match n with
        | some n => Value.int n
        | none => .str (String.ofList key)
      followField h fuel (← getItem h v k) (rest.drop (key.length + 1))
    | _ => valueError "Only '.' or '[' may follow ']' in format field specifier"

inductive Numbering where
  | unset
  | automatic (next : Nat)
  | manual

structure Source where
  /-- Values by position; without them every field has a name. -/
  args : Option (List Value)
  named : String → M Value

def Source.positional (s : Source) (i : Nat) : M Value := do
  match s.args with
  | none => valueError "Format string contains positional fields"
  | some vs =>
    match vs[i]? with
    | some v => return v
    | none => raise "IndexError" s!"Replacement index {i} out of range for positional args tuple"

def fieldValue (h : Host) (s : Source) (n : Numbering) (name : List Char) :
    M (Value × Numbering) := do
  let head := name.takeWhile fun c => c != '.' && c != '['
  let (v, n) ← match head, ← numberName head, n with
    | [], _, .manual =>
      valueError "cannot switch from manual field specification to automatic field numbering"
    | [], _, .automatic i => do pure (← s.positional i, .automatic (i + 1))
    | [], _, .unset => do pure (← s.positional 0, .automatic 1)
    | _, some _, .automatic _ =>
      valueError "cannot switch from automatic field numbering to manual field specification"
    | _, some i, _ => do pure (← s.positional i, .manual)
    | cs, none, n => do pure (← s.named (String.ofList cs), n)
  return (← followField h (name.length + 1) v (name.drop head.length), n)

def convertField (h : Host) (conversion : Option Char) (v : Value) : M Value := do
  match conversion with
  | none => return v
  | some c =>
    if c == 'r' || c == 's' || c == 'a' then return .str (← converted h c v)
    let n := point c
    let shown := if 32 < n && n < 127 then String.singleton c
      else String.ofList ('\\' :: 'x' :: Nat.toDigits 16 n)
    valueError s!"Unknown conversion specifier {shown}"

def fillFields (h : Host) (s : Source) : (depth fuel : Nat) → Numbering → List Char → List String →
    M (String × Numbering)
  | 0, _, _, _, _ => valueError "Max string recursion exceeded"
  | _, 0, n, _, acc => return (String.join acc.reverse, n)
  | depth + 1, fuel + 1, n, cs, acc => do
    let plain := cs.takeWhile fun c => c != '\x7b' && c != '\x7d'
    let acc := String.ofList plain :: acc
    match cs.drop plain.length with
    | [] => return (String.join acc.reverse, n)
    | '\x7b' :: '\x7b' :: rest => fillFields h s (depth + 1) fuel n rest ("\x7b" :: acc)
    | '\x7d' :: '\x7d' :: rest => fillFields h s (depth + 1) fuel n rest ("\x7d" :: acc)
    | '\x7d' :: _ => valueError "Single '\x7d' encountered in format string"
    | ['\x7b'] => valueError "Single '\x7b' encountered in format string"
    | _ :: rest =>
      match readField rest with
      | .error e => valueError e
      | .ok (f, rest) =>
        let (v, n) ← fieldValue h s n f.name
        let v ← convertField h f.conversion v
        let (spec, n) ← if f.spec.contains '\x7b' then
            fillFields h s depth (f.spec.length + 1) n f.spec []
          else pure (String.ofList f.spec, n)
        let text ← format h v spec
        fillFields h s (depth + 1) fuel n rest (text :: acc)

def fillTemplate (h : Host) (template : String) (args : List Value) (keywords : Names) : M String := do
  let named (name : String) : M Value :=
    match keywords.lookup name with
    | some v => return v
    | none => noKey (.str name)
  return (← fillFields h ⟨some args, named⟩ 2 (template.length + 1) .unset template.toList []).1

def fillFromMapping (h : Host) (template : String) (mapping : Value) : M String := do
  let named (name : String) : M Value := getItem h mapping (.str name)
  return (← fillFields h ⟨none, named⟩ 2 (template.length + 1) .unset template.toList []).1

end Notebook.Machine
