import Notebook.Machine.Operate

set_option autoImplicit false

namespace Notebook.Machine

open Notebook.Text

def plural (n : Nat) : String := if n == 1 then "" else "s"

def oneArg (name : String) (args : List Value) : M Value := do
  match args with
  | [v] => return v
  | vs => typeError s!"{name}() takes exactly one argument ({vs.length} given)"

def zeroArgs (name : String) (args : List Value) : M Unit := do
  if !args.isEmpty then typeError s!"{name}() takes no arguments ({args.length} given)"

def someArgs (name : String) (low high : Nat) (args : List Value) : M (List Value) := do
  let n := args.length
  if low == high && n != low then
    typeError s!"{name} expected {low} argument{plural low}, got {n}"
  if n < low then typeError s!"{name} expected at least {low} argument{plural low}, got {n}"
  if n > high then typeError s!"{name} expected at most {high} argument{plural high}, got {n}"
  return args

def refuseKeywords (name : String) (keywords : Names) : M Unit := do
  if !keywords.isEmpty then typeError s!"{name}() takes no keyword arguments"

def knownKeywords (name : String) (known : List String) (keywords : Names) : M Unit := do
  match keywords.find? fun k => !known.contains k.1 with
  | some k => typeError s!"{quote k.1} is an invalid keyword argument for {name}()"
  | none => return

def intArg (h : Host) (v : Value) : M Int := do
  match ← index? h v with
  | some n => return n
  | none => typeError s!"{quote (← typeName v)} object cannot be interpreted as an integer"

/-! Functions of programs. -/

def enumeration : List String → String
  | [] => ""
  | [a] => quote a
  | [a, b] => quote a ++ " and " ++ quote b
  | as => joinWith ", " (as.dropLast.map quote) ++ ", and " ++ quote (as.getLastD "")

def missingArgs {α : Type} (f : Function) (kind : String) (names : List String) : M α :=
  typeError
    (s!"{f.qualifiedName}() missing {names.length} required {kind} argument{plural names.length}: " ++
      enumeration names)

def tooMany {α : Type} (f : Function) (given keywordGiven : Nat) : M α := do
  let takes := f.code.positional
  let defaults := f.defaults.length
  let sig := if defaults > 0 then s!"from {takes - defaults} to {takes}" else toString takes
  let ending := if defaults > 0 || takes != 1 then "s" else ""
  let extra := if keywordGiven > 0 then
      s!" positional argument{plural given} (and {keywordGiven} " ++
        s!"keyword-only argument{plural keywordGiven})"
    else ""
  let verb := if given == 1 && keywordGiven == 0 then "was" else "were"
  typeError
    s!"{f.qualifiedName}() takes {sig} positional argument{ending} but {given}{extra} {verb} given"

def placeKeyword (f : Function) (positionalOnlyGiven : List String) (slots : Array (Option Value))
    (others : Names) (k : String × Value) : M (Array (Option Value) × Names) := do
  let c := f.code
  let named := c.positional + c.keywordOnly
  let found := ((List.range named).drop c.positionalOnly).find? fun i => c.slots[i]? == some k.1
  match found with
  | some i =>
    if (slots.getD i none).isSome then
      typeError s!"{f.qualifiedName}() got multiple values for argument {quote k.1}"
    return (slots.setIfInBounds i (some k.2), others)
  | none =>
    if c.hasDoubleStar then return (slots, others ++ [k])
    if !positionalOnlyGiven.isEmpty then
      let names := joinWith ", " positionalOnlyGiven
      typeError
        s!"{f.qualifiedName}() got some positional-only arguments passed as keyword arguments: '{names}'"
    typeError s!"{f.qualifiedName}() got an unexpected keyword argument {quote k.1}"

def placeKeywords (f : Function) (positionalOnlyGiven : List String) :
    Array (Option Value) → Names → Names → M (Array (Option Value) × Names)
  | slots, others, [] => return (slots, others)
  | slots, others, k :: ks => do
    let (slots, others) ← placeKeyword f positionalOnlyGiven slots others k
    placeKeywords f positionalOnlyGiven slots others ks

/-- The slots of a call: every parameter has its argument or its default. -/
def bindArgs (f : Function) (args : List Value) (keywords : Names) : M (Array (Option Value)) := do
  let c := f.code
  let slots : Array (Option Value) := Array.replicate c.slots.size none
  let slots := (args.take c.positional).zipIdx.foldl (fun s (v, i) => s.setIfInBounds i (some v)) slots
  let only := c.slots.toList.take c.positionalOnly
  let onlyGiven := only.filter fun n => keywords.any (·.1 == n)
  let (slots, others) ← placeKeywords f onlyGiven slots [] keywords
  let keywordRange := (List.range (c.positional + c.keywordOnly)).drop c.positional
  if args.length > c.positional && !c.hasStar then
    tooMany f args.length (keywordRange.filter fun i => (slots.getD i none).isSome).length
  -- defaults belong to the last parameters
  let first := c.positional - f.defaults.length
  let missing := (List.range first).filter fun i => (slots.getD i none).isNone
  if !missing.isEmpty then
    missingArgs f "positional" (missing.map fun i => c.slots.getD i "")
  let slots := f.defaults.zipIdx.foldl (fun s (v, i) =>
    if (s.getD (first + i) none).isNone then s.setIfInBounds (first + i) (some v) else s) slots
  let (slots, absent) := keywordRange.foldl (fun (s, absent) i =>
    if (s.getD i none).isSome then (s, absent)
    else match f.keywordDefaults.lookup (c.slots.getD i "") with
      | some v => (s.setIfInBounds i (some v), absent)
      | none => (s, absent ++ [c.slots.getD i ""])) (slots, [])
  if !absent.isEmpty then missingArgs f "keyword-only" absent
  let at_ := c.positional + c.keywordOnly
  let slots ← if c.hasStar then do
      pure (slots.setIfInBounds at_ (some (← newTuple (args.drop c.positional))))
    else pure slots
  if c.hasDoubleStar then
    let i := if c.hasStar then at_ + 1 else at_
    return slots.setIfInBounds i (some (← namesDict others))
  return slots

def makeFrame (f : Function) (slots : Array (Option Value)) : M Frame := do
  let c := f.code
  let own ← c.cells.toList.mapM fun name => do
    let i := c.slots.toList.idxOf name
    let v := if i < c.positional + c.keywordOnly + (if c.hasStar then 1 else 0)
        + (if c.hasDoubleStar then 1 else 0) then slots.getD i none else none
    alloc { cls := nativeRef "cell", payload := .cell v }
  return { program := f.program, code := c, slots, cells := (own ++ f.captured).toArray
           globals := f.globals }

/-- Starts a function of a program in its frame; one that suspends gives an object for its execution.
-/
def startFrame (h : Host) (f : Function) (frame : Frame) : M Value := do
  let suspended : Generator :=
    { name := f.name, qualifiedName := f.qualifiedName, flavor := f.code.flavor, frame := some frame }
  match f.code.flavor with
  | .plain =>
    match ← h.enter frame none with
    | .returned v => return v
    | .yielded .. => return .none
  | .generator => newOf "generator" (.generator suspended)
  | .coroutine => newOf "coroutine" (.generator suspended)
  | .asyncGenerator => newOf "async_generator" (.generator suspended)

def callFunction (h : Host) (f : Function) (args : List Value) (keywords : Names) : M Value := do
  startFrame h f (← makeFrame f (← bindArgs f args keywords))

end Notebook.Machine
