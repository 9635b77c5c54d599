import Notebook.Datum
import Notebook.Decimal.Read
import Notebook.Text.Letter
import Notebook.Text.Sextet
import Notebook.Yaml.Lex

set_option autoImplicit false

namespace Notebook.Yaml

open Notebook.Decimal Notebook.Text

def standardTag (name : String) : String := "tag:yaml.org,2002:" ++ name

def isDigit (c : Char) : Bool := '0' ≤ c && c ≤ '9'

def isDigitOrLine (c : Char) : Bool := isDigit c || c == '_'

def dropSign : List Char → List Char
  | '+' :: cs => cs
  | '-' :: cs => cs
  | cs => cs

/-- Parts of a number with base sixty after the first, each a colon and one or two digits. -/
def isSixties : Nat → List Char → Bool
  | 0, _ => false
  | _ + 1, [':', a] => isDigit a
  | n + 1, ':' :: a :: b :: cs =>
    if b == ':' then isDigit a && isSixties n (b :: cs)
    else '0' ≤ a && a ≤ '5' && isDigit b && (cs.isEmpty || isSixties n cs)
  | _, _ => false

def isExponent : List Char → Bool
  | e :: s :: d :: cs =>
    (e == 'e' || e == 'E') && (s == '+' || s == '-') && isDigit d && cs.all isDigit
  | _ => false

def isInteger (text : List Char) : Bool :=
  match dropSign text with
  | ['0'] => true
  | '0' :: 'b' :: c :: cs => (c :: cs).all fun c => c == '0' || c == '1' || c == '_'
  | '0' :: 'x' :: c :: cs => (c :: cs).all fun c => (hexValue c).isSome || c == '_'
  | '0' :: cs => cs.all fun c => ('0' ≤ c && c ≤ '7') || c == '_'
  | c :: cs =>
    isDigit c && (let rest := cs.dropWhile isDigitOrLine
                  rest.isEmpty || isSixties rest.length rest)
  | [] => false

def isFloat (text : List Char) : Bool :=
  let bare := dropSign text
  let named := [".inf", ".Inf", ".INF"].any (·.toList == bare)
    || [".nan", ".NaN", ".NAN"].any (·.toList == text)
  let pointFirst := match text with
    | '.' :: c :: cs =>
      isDigit c && (let rest := cs.dropWhile isDigitOrLine
                    rest.isEmpty || isExponent rest)
    | _ => false
  let digitsFirst := match bare with
    | c :: cs =>
      isDigit c && (match cs.dropWhile isDigitOrLine with
        | '.' :: more =>
          let rest := more.dropWhile isDigitOrLine
          rest.isEmpty || isExponent rest
        | ':' :: more =>
          let sixties := (':' :: more).takeWhile (· != '.')
          isSixties sixties.length sixties && (match (':' :: more).drop sixties.length with
            | '.' :: ds => ds.all isDigitOrLine
            | _ => false)
        | _ => false)
    | [] => false
  named || pointFirst || digitsFirst

/-! ### Times -/

def digitsBetween (least most : Nat) (cs : List Char) : Option (Nat × List Char) :=
  let ds := (cs.take most).takeWhile isDigit
  if ds.length < least then none
  else some (ds.foldl (fun n c => n * 10 + (c.toNat - 48)) 0, cs.drop ds.length)

def expectChar (c : Char) : List Char → Option (List Char)
  | d :: cs => if d == c then some cs else none
  | [] => none

def isBlank (c : Char) : Bool := c == ' ' || c == '\t'

structure Clock where
  hour : Nat
  minute : Nat
  second : Nat
  micro : Nat
  /-- How many seconds the zone is ahead of universal time. -/
  zone : Option Int

structure Stamp where
  year : Nat
  month : Nat
  day : Nat
  clock : Option Clock

def zone? (cs : List Char) : Option (Option Int) :=
  match cs.dropWhile isBlank with
  | [] => if cs.isEmpty then some none else none
  | ['Z'] => some (some 0)
  | s :: rest => do
    let sign : Int ← if s == '+' then some 1 else if s == '-' then some (-1) else none
    let (hours, rest) ← digitsBetween 1 2 rest
    if rest.isEmpty then return some (sign * (hours * 3600))
    let (minutes, rest) ← (expectChar ':' rest).bind (digitsBetween 2 2)
    if rest.isEmpty then return some (sign * (hours * 3600 + minutes * 60)) else none

def microseconds (ds : List Char) : Nat :=
  let six := ds.take 6
  six.foldl (fun n c => n * 10 + (c.toNat - 48)) 0 * Nat.pow 10 (6 - six.length)

def clock? (cs : List Char) : Option Clock := do
  let rest ← match cs with
    | 'T' :: r | 't' :: r => some r
    | c :: r => if isBlank c then some (r.dropWhile isBlank) else none
    | [] => none
  let (hour, rest) ← digitsBetween 1 2 rest
  let (minute, rest) ← (expectChar ':' rest).bind (digitsBetween 2 2)
  let (second, rest) ← (expectChar ':' rest).bind (digitsBetween 2 2)
  match rest with
  | '.' :: more =>
    let zone ← zone? (more.dropWhile isDigit)
    return { hour, minute, second, micro := microseconds (more.takeWhile isDigit), zone }
  | _ => return { hour, minute, second, micro := 0, zone := ← zone? rest }

def dropFinalBreak (cs : List Char) : List Char :=
  if cs.getLast? == some '\n' then cs.dropLast else cs

def stamp? (text : List Char) : Option Stamp := do
  let (year, rest) ← digitsBetween 4 4 (dropFinalBreak text)
  let (month, rest) ← (expectChar '-' rest).bind (digitsBetween 1 2)
  let (day, rest) ← (expectChar '-' rest).bind (digitsBetween 1 2)
  if rest.isEmpty then return { year, month, day, clock := none }
  return { year, month, day, clock := some (← clock? rest) }

def isTime (text : List Char) : Bool :=
  match stamp? text with
  | some { clock := some _, .. } => true
  | some _ => text.length == 10
  | none => false

/-! ### Tags -/

def truths : List String := ["yes", "Yes", "YES", "true", "True", "TRUE", "on", "On", "ON"]

def falsehoods : List String := ["no", "No", "NO", "false", "False", "FALSE", "off", "Off", "OFF"]

def impliedTag (text : String) : String :=
  let cs := if 1 < text.length then dropFinalBreak text.toList else text.toList
  let text := String.ofList cs
  standardTag <|
    if truths.contains text || falsehoods.contains text then "bool"
    else if isFloat cs then "float"
    else if isInteger cs then "int"
    else if text == "<<" then "merge"
    else if ["~", "null", "Null", "NULL", ""].contains text then "null"
    else if isTime cs then "timestamp"
    else if text == "=" then "value"
    else if ["!", "&", "*"].contains text then "yaml"
    else "str"

/-! ### Data -/

def sixtyFold (parts : List Float) : Float :=
  (parts.reverse.foldl (fun (acc : Float × Float) x => (acc.1 + x * acc.2, acc.2 * 60)) (0, 1)).1

def splitColons (cs : List Char) : List String :=
  (String.ofList cs).splitOn ":"

def natural (cs : List Char) : Except Error Int :=
  let read (base : Nat) (cs : List Char) : Except Error Int :=
    match readInt? (String.ofList cs) base with
    | some n => .ok n
    | none => .error (.badInt base (String.ofList cs))
  match cs with
  | [] => .error .emptyNumber
  | ['0'] => .ok 0
  | '0' :: 'b' :: ds => read 2 ds
  | '0' :: 'x' :: ds => read 16 ds
  | '0' :: _ => read 8 cs
  | _ =>
    if cs.contains ':' then do
      let parts ← (splitColons cs).mapM fun p => read 10 p.toList
      return parts.foldl (fun n p => n * 60 + p) 0
    else read 10 cs

def integer (text : String) : Except Error Datum := do
  let cs := text.toList.filter (· != '_')
  let n ← natural (dropSign cs)
  return .int (if cs.head? == some '-' then -n else n)

def infinity : Float := 1 / 0

def floating (text : String) : Except Error Datum := do
  let cs := (lower text).toList.filter (· != '_')
  if cs.isEmpty then throw .emptyNumber
  let bare := String.ofList (dropSign cs)
  let sign : Float := if cs.head? == some '-' then -1 else 1
  let read (s : String) : Except Error Float :=
    match readFloat? s with
    | some x => .ok x
    | none => .error (.badFloat s)
  if bare == ".inf" then return .float (sign * infinity)
  else if bare == ".nan" then return .float (0 / 0)
  else if bare.toList.contains ':' then
    let parts ← (splitColons bare.toList).mapM read
    return .float (sign * sixtyFold parts)
  else return .float (sign * (← read bare))

def truth (text : String) : Except Error Datum :=
  let low := lower text
  if truths.contains low then .ok (.bool true)
  else if falsehoods.contains low then .ok (.bool false)
  else .error (.badBool low)

def time (text : String) : Except Error Datum :=
  match stamp? text.toList with
  | none => .error .badTime
  | some { year, month, day, clock := none } =>
    match Date.of year month day with
    | .ok d => .ok (.date d)
    | .error f => .error (.calendar f)
  | some { year, month, day, clock := some c } =>
    match Moment.of year month day c.hour c.minute c.second c.micro c.zone with
    | .ok m => .ok (.moment m)
    | .error f => .error (.calendar f)

def binary (text : String) : Except Error Datum :=
  if text.toList.any fun c => 128 ≤ c.toNat then .error .constructor
  else match decodeSextets {} text.toList with
    | some bs => .ok (.bytes bs)
    | none => .error .constructor

end Notebook.Yaml
