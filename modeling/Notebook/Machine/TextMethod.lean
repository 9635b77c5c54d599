import Notebook.Machine.Args
import Notebook.Machine.Field
import Notebook.Text.Codec
import Notebook.Text.Letter

set_option autoImplicit false

namespace Notebook.Machine

open Notebook.Text

def textArg (name : String) (v : Value) : M String := do
  match ← core v with
  | .str s => return s
  | w => typeError s!"{name}() argument must be str, not {← typeName w}"

def findChars (needle : List Char) : List Char → Nat → Option Nat
  | [], i => if needle.isEmpty then some i else none
  | c :: cs, i => if needle.isPrefixOf (c :: cs) then some i else findChars needle cs (i + 1)

def findLast (needle hay : List Char) : Option Nat :=
  (findChars needle.reverse hay.reverse 0).map fun i => hay.length - i - needle.length

def splitText (sep : List Char) : (fuel : Nat) → Option Nat → List Char → List (List Char)
  | 0, _, cs => [cs]
  | fuel + 1, limit, cs =>
    if limit == some 0 then [cs]
    else match findChars sep cs 0 with
      | none => [cs]
      | some i => cs.take i :: splitText sep fuel (limit.map (· - 1)) (cs.drop (i + sep.length))

/-- Splits at blanks, which belong to no part, but the part that a limit leaves over keeps those at
its end. -/
def splitBlanks : (fuel : Nat) → Option Nat → List Char → List (List Char)
  | 0, _, _ => []
  | fuel + 1, limit, cs =>
    match cs.dropWhile isBlank with
    | [] => []
    | cs =>
      if limit == some 0 then [cs]
      else
        let word := cs.takeWhile fun c => !isBlank c
        word :: splitBlanks fuel (limit.map (· - 1)) (cs.drop word.length)

def asTexts (parts : List (List Char)) : List Value := parts.map fun p => .str (String.ofList p)

def splitLimit (n : Int) : Option Nat := if n < 0 then none else some n.toNat

def replaceText (old new : List Char) (cs : List Char) (limit : Option Nat) : List Char :=
  if old.isEmpty then
    let rec weave : List Char → Option Nat → List Char
      | cs, some 0 => cs
      | [], _ => new
      | c :: cs, n => new ++ c :: weave cs (n.map (· - 1))
    weave cs limit
  else
    match splitText old (cs.length + 1) limit cs with
    | [] => []
    | p :: ps => p ++ (ps.flatMap fun q => new ++ q)

/-- The arguments of a search: what is looked for, and optional bounds. -/
def finderArgs (name : String) (args : List Value) : M (List Value) := do
  let n := args.length
  if n < 1 then typeError s!"{name}() takes at least 1 argument ({n} given)"
  if n > 3 then typeError s!"{name}() takes at most 3 arguments ({n} given)"
  return args

/-- The part of a text that optional bounds choose, and where it starts; none where they leave less
than nothing. -/
def bounded (h : Host) (s : String) (bounds : List Value) : M (Option (List Char × Nat)) := do
  let size : Int := s.length
  let fromEnd (n : Int) : Int := if n < 0 then max (n + size) 0 else n
  let start := fromEnd ((← sliceBound h (argAt bounds 0)).getD 0)
  let stop := min (fromEnd ((← sliceBound h (argAt bounds 1)).getD size)) size
  if stop < start then return none
  return some ((s.toList.drop start.toNat).take (stop - start).toNat, start.toNat)

def countText (needle : List Char) : (fuel : Nat) → List Char → Nat
  | 0, _ => 0
  | fuel + 1, cs =>
    match findChars needle cs 0 with
    | none => 0
    | some i => countText needle fuel (cs.drop (i + needle.length)) + 1

def padText (s : String) (width : Int) (fill : Char) (left right : Nat → Nat) : String :=
  let n := (width - s.length).toNat
  String.ofList (List.replicate (left n) fill) ++ s ++ String.ofList (List.replicate (right n) fill)

def fillChar (v : Value) : M Char := do
  match ← core v with
  | .str s =>
    match s.toList with
    | [c] => return c
    | _ => typeError "The fill character must be exactly one character long"
  | w => typeError s!"The fill character must be a unicode character, not {← typeName w}"

def stripSet (name : String) (args : List Value) : M (Char → Bool) := do
  match args with
  | [] => return isBlank
  | [.none] => return isBlank
  | [v] =>
    match ← core v with
    | .str s => return fun c => s.toList.contains c
    | _ => typeError s!"{name} arg must be None or str"
  | vs => typeError s!"{name} expected at most 1 argument, got {vs.length}"

/-- Whether a part of a text starts or ends with a text or with one of several. -/
def hasAffix (h : Host) (name : String) (s : String) (args : List Value) : M Bool := do
  let args ← finderArgs name args
  let part ← bounded h s (args.drop 1)
  let test (t : String) : Bool :=
    match part with
    | none => false
    | some (cs, _) =>
      if name == "startswith" then t.toList.isPrefixOf cs else t.toList.isSuffixOf cs
  let rec any : List Value → M Bool
    | [] => return false
    | v :: vs => do
      match ← core v with
      | .str t => if test t then return true else any vs
      | w => typeError s!"tuple for {name} must only contain str, not {← typeName w}"
  match ← core (argAt args 0) with
  | .str t => return test t
  | w =>
    match ← payload w with
    | .tuple items => any items
    | _ => typeError s!"{name} first arg must be str or a tuple of str, not {← typeName w}"

def zeroFill (s : String) (width : Int) : String :=
  let n := (width - s.length).toNat
  let zeros := String.ofList (List.replicate n '0')
  match s.toList with
  | c :: cs => if c == '+' || c == '-' then String.singleton c ++ zeros ++ String.ofList cs
      else zeros ++ s
  | [] => zeros

/-- The encoding and the policy that a conversion between texts and bytes is asked for. -/
def codecArgs (method : String) (args : List Value) (keywords : Names) : M (String × String) := do
  let n := args.length + keywords.length
  if n > 2 then typeError s!"{method}() takes at most 2 arguments ({n} given)"
  knownKeywords method ["encoding", "errors"] keywords
  let text (i : Nat) (name default : String) : M String := do
    match args[i]? <|> keywords.lookup name with
    | none => return default
    | some v =>
      match ← core v with
      | .str s => return s
      | w => typeError s!"{method}() argument {quote name} must be str, not {← typeName w}"
  return (← text 0 "encoding" "utf-8", ← text 1 "errors" "strict")

def encodingNamed (name : String) : M Encoding := do
  match Encoding.named? name with
  | some e => return e
  | none => raise "LookupError" s!"unknown encoding: {name}"

def encodeText (s : String) (encoding errors : String) : M Value := do
  let e ← encodingNamed encoding
  match encode e ((Policy.named? errors).getD .strict) s with
  | .ok bs => return .bytes bs
  | .error f =>
    if (Policy.named? errors).isNone then
      raise "LookupError" s!"unknown error handler name {quote errors}"
    throwExc (← newException "UnicodeEncodeError"
      [.str f.codec, .str s, .int f.start, .int f.stop, .str f.reason])

def decodeBytes (bs : List UInt8) (encoding errors : String) : M Value := do
  let e ← encodingNamed encoding
  match decode e ((Policy.named? errors).getD .strict) bs with
  | .ok cs => return .str (String.ofList cs)
  | .error f =>
    if (Policy.named? errors).isNone then
      raise "LookupError" s!"unknown error handler name {quote errors}"
    throwExc (← newException "UnicodeDecodeError"
      [.str f.codec, .bytes bs, .int f.start, .int f.stop, .str f.reason])

def expandTabs (size : Nat) : List Char → Nat → List Char
  | [], _ => []
  | '\t' :: cs, col =>
    let n := if size == 0 then 0 else size - col % size
    List.replicate n ' ' ++ expandTabs size cs (col + n)
  | c :: cs, col => c :: expandTabs size cs (if c == '\n' || c == '\r' then 0 else col + 1)

def optional (args : List Value) (keywords : Names) (i : Nat) (name : String) (default : Value) : Value :=
  (args[i]? <|> keywords.lookup name).getD default

def textTest (name : String) (s : String) : Option Bool :=
  let cs := s.toList
  let every (p : Char → Bool) : Option Bool := some (!cs.isEmpty && cs.all p)
  match name with
  | "isalpha" => every isLetter
  | "isalnum" => every isAlnum
  | "isdigit" => every isDigit
  | "isdecimal" => every fun c => (decimalValue? c).isSome
  | "isnumeric" => every isNumeral
  | "isspace" => every isBlank
  | "isascii" => some (cs.all (·.toNat < 128))
  | "isprintable" => some (cs.all isVisible)
  | "isidentifier" => some (isName cs)
  | "isupper" => some (isUpperText s)
  | "islower" => some (isLowerText s)
  | "istitle" => some (isTitle s)
  | _ => none

def textChange (name : String) (s : String) : Option String :=
  match name with
  | "upper" => some (upper s)
  | "lower" => some (lower s)
  | "casefold" => some (foldCase s)
  | "title" => some (title s)
  | "capitalize" => some (capitalize s)
  | "swapcase" => some (swapCase s)
  | _ => none

/-- Splits a text around the first or last occurrence of a separator. -/
def partition (name : String) (s : String) (args : List Value) : M Value := do
  let sep ← match ← core (← oneArg ("str." ++ name) args) with
    | .str t => pure t
    | w => typeError s!"must be str, not {← typeName w}"
  if sep == "" then valueError "empty separator"
  let cs := s.toList
  let found := if name == "partition" then findChars sep.toList cs 0 else findLast sep.toList cs
  match found with
  | some i =>
    newTuple [.str (String.ofList (cs.take i)), .str sep,
      .str (String.ofList (cs.drop (i + sep.length)))]
  | none =>
    if name == "partition" then newTuple [.str s, .str "", .str ""]
    else newTuple [.str "", .str "", .str s]

def searchText (h : Host) (name : String) (s : String) (args : List Value) : M Value := do
  let args ← finderArgs name args
  let part ← bounded h s (args.drop 1)
  let needle ← match ← core (argAt args 0) with
    | .str t => pure t.toList
    | w => typeError s!"must be str, not {← typeName w}"
  let found := part.bind fun (cs, start) =>
    (if name == "find" || name == "index" then findChars needle cs 0 else findLast needle cs).map
      (· + start)
  match name, found with
  | "count", _ =>
    match part with
    | none => return .int 0
    | some (cs, _) =>
      if needle.isEmpty then return .int (cs.length + 1)
      return .int (countText needle (cs.length + 1) cs)
  | _, some i => return .int i
  | "find", none => return .int (-1)
  | "rfind", none => return .int (-1)
  | _, none => valueError "substring not found"

/-- A text with its characters replaced by the items of a table under their code points. -/
def translateText (h : Host) (s : String) (table : Value) : M Value := do
  let parts ← s.toList.mapM fun c => do
    match ← attempt (getItem h table (.int (point c))) with
    | .error e =>
      if ← isError e "LookupError" then return [c] else throw (.raised e)
    | .ok v =>
      match ← core v with
      | .none => return []
      | .str t => return t.toList
      | .int n =>
        if n < 0 || n ≥ 0x110000 then valueError "character mapping must be in range(0x110000)"
        return [ofPoint n.toNat]
      | .bool b => return [Char.ofNat (if b then 1 else 0)]
      | _ => typeError "character mapping must return integer, None or str"
  return .str (String.ofList parts.flatten)

def makeTable (h : Host) (args : List Value) : M Value := do
  let args ← someArgs "maketrans" 1 3 args
  let text (i : Nat) : M (List Char) := do
    match ← core (argAt args i) with
    | .str t => return t.toList
    | w => typeError s!"maketrans() argument {i + 1} must be str, not {← typeName w}"
  let code (c : Char) : Value := .int (point c)
  match args with
  | [v] =>
    match ← payload v with
    | .dict es =>
      makeDict h (← es.toList.mapM fun (k, x) => do
        match ← core k with
        | .str t =>
          match t.toList with
          | [c] => return (code c, x)
          | _ => valueError "string keys in translate table must be of length 1"
        | .int _ | .bool _ => return (k, x)
        | _ => typeError "keys in translate table must be strings or integers")
    | _ => typeError "if you give only one argument to maketrans it must be a dict"
  | v :: rest =>
    let targets ← text 1
    let removed ← if rest.length == 2 then text 2 else pure []
    match ← core v with
    | .str t =>
      if t.length != targets.length then
        valueError "the first two maketrans arguments must have equal length"
      makeDict h ((t.toList.zip targets).map (fun (a, b) => (code a, code b))
        ++ removed.map fun c => (code c, .none))
    | _ => typeError "first maketrans argument must be a string if there is a second argument"
  | [] => return .none

def splitMethod (h : Host) (name : String) (s : String) (args : List Value) (keywords : Names) :
    M Value := do
  let n := args.length + keywords.length
  if n > 2 then typeError s!"{name}() takes at most 2 arguments ({n} given)"
  knownKeywords name ["sep", "maxsplit"] keywords
  let limit := splitLimit (← intArg h (optional args keywords 1 "maxsplit" (.int (-1))))
  let cs := s.toList
  let flip (parts : List (List Char)) : List (List Char) := (parts.map List.reverse).reverse
  match ← core (optional args keywords 0 "sep" .none) with
  | .none =>
    if name == "split" then newList (asTexts (splitBlanks (cs.length + 1) limit cs))
    else newList (asTexts (flip (splitBlanks (cs.length + 1) limit cs.reverse)))
  | .str sep =>
    if sep == "" then valueError "empty separator"
    if name == "split" then newList (asTexts (splitText sep.toList (cs.length + 1) limit cs))
    else newList (asTexts (flip (splitText sep.toList.reverse (cs.length + 1) limit cs.reverse)))
  | w => typeError s!"must be str or None, not {← typeName w}"

def joinMethod (h : Host) (s : String) (args : List Value) : M Value := do
  let items ← match ← attempt (itemsOf h (← oneArg "str.join" args)) with
    | .ok items => pure items
    | .error e =>
      if ← isError e "TypeError" then typeError "can only join an iterable" else throw (.raised e)
  let texts ← items.zipIdx.mapM fun (v, i) => do
    match ← core v with
    | .str t => return t
    | w => typeError s!"sequence item {i}: expected str instance, {← typeName w} found"
  return .str (joinWith s texts)

def takesKeywords : List String :=
  ["split", "rsplit", "splitlines", "expandtabs", "encode", "format"]

def textMethod (h : Host) (s : String) (name : String) (args : List Value) (keywords : Names) :
    M Value := do
  if !takesKeywords.contains name then refuseKeywords ("str." ++ name) keywords
  match textTest name s, textChange name s with
  | some b, _ =>
    zeroArgs ("str." ++ name) args
    return .bool b
  | _, some t =>
    zeroArgs ("str." ++ name) args
    return .str t
  | none, none =>
    match name with
    | "join" => joinMethod h s args
    | "split" | "rsplit" => splitMethod h name s args keywords
    | "splitlines" =>
      let n := args.length + keywords.length
      if n > 1 then typeError s!"splitlines() takes at most 1 argument ({n} given)"
      knownKeywords name ["keepends"] keywords
      let keep := (← intArg h (optional args keywords 0 "keepends" (.bool false))) != 0
      newList ((if keep then linesWithEnds s else lines s).map .str)
    | "strip" =>
      let p ← stripSet name args
      return .str (String.ofList (trimRight p (trimLeft p s.toList)))
    | "lstrip" => return .str (String.ofList (trimLeft (← stripSet name args) s.toList))
    | "rstrip" => return .str (String.ofList (trimRight (← stripSet name args) s.toList))
    | "startswith" | "endswith" => return .bool (← hasAffix h name s args)
    | "find" | "rfind" | "index" | "rindex" | "count" => searchText h name s args
    | "replace" =>
      let args ← someArgs name 2 3 args
      let piece (i : Nat) : M String := do
        match ← core (argAt args i) with
        | .str t => return t
        | w => typeError s!"replace() argument {i + 1} must be str, not {← typeName w}"
      let old ← piece 0
      let new ← piece 1
      let limit ← if args.length == 3 then do pure (splitLimit (← intArg h (argAt args 2))) else pure none
      return .str (String.ofList (replaceText old.toList new.toList s.toList limit))
    | "partition" | "rpartition" => partition name s args
    | "ljust" | "rjust" | "center" =>
      let args ← someArgs name 1 2 args
      let width ← intArg h (argAt args 0)
      let fill ← if args.length == 2 then fillChar (argAt args 1) else pure ' '
      return .str <| match name with
        | "ljust" => padText s width fill (fun _ => 0) id
        | "rjust" => padText s width fill id (fun _ => 0)
        | _ =>
          let odd := width.toNat % 2
          padText s width fill (fun n => n / 2 + (if n % 2 == 1 && odd == 1 then 1 else 0))
            (fun n => n - (n / 2 + (if n % 2 == 1 && odd == 1 then 1 else 0)))
    | "zfill" => return .str (zeroFill s (← intArg h (← oneArg "str.zfill" args)))
    | "format" => return .str (← fillTemplate h s args keywords)
    | "format_map" => return .str (← fillFromMapping h s (← oneArg "str.format_map" args))
    | "translate" => translateText h s (← oneArg "str.translate" args)
    | "removeprefix" =>
      let p ← textArg "removeprefix" (← oneArg "str.removeprefix" args)
      return .str (if s.startsWith p then String.ofList (s.toList.drop p.length) else s)
    | "removesuffix" =>
      let p ← textArg "removesuffix" (← oneArg "str.removesuffix" args)
      return .str (if p != "" && s.endsWith p then String.ofList (s.toList.take (s.length - p.length))
        else s)
    | "encode" =>
      let (encoding, errors) ← codecArgs name args keywords
      encodeText s encoding errors
    | "expandtabs" =>
      let n := args.length + keywords.length
      if n > 1 then typeError s!"expandtabs() takes at most 1 argument ({n} given)"
      knownKeywords name ["tabsize"] keywords
      let size ← intArg h (optional args keywords 0 "tabsize" (.int 8))
      return .str (String.ofList (expandTabs size.toNat s.toList 0))
    | _ => raise "AttributeError" s!"'str' object has no attribute {quote name}"

end Notebook.Machine
