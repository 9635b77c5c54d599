import Notebook.Machine.Value

set_option autoImplicit false

namespace Notebook.Machine

namespace Names

def put (ns : Names) (name : String) (v : Value) : Names := Module.setKey name v ns

def drop (ns : Names) (name : String) : Names := Module.dropKey name ns

end Names

def nativeRef (name : String) : Ref := (nativeIndex.lookup name).getD 0

def firstHeap : Array Obj :=
  (natives.map fun n =>
    { cls := nativeRef "type"
      payload := .class
        { name := n.name, qualifiedName := n.name, module := n.module
          bases := n.bases.map nativeRef, order := (ancestors n.name).map nativeRef } }).toArray

/-- The world before anything has run. -/
def World.start (cache : Module.Cache Ref) : World := { heap := firstHeap, cache }

theorem getD_push (heap : Array Obj) (o : Obj) (r : Ref) :
    (heap.push o).getD r default = if r = heap.size then o else heap.getD r default := by
  rw [Array.getD_eq_getD_getElem?, Array.getElem?_push, Array.getD_eq_getD_getElem?]
  split <;> rfl

def World.push (w : World) (o : Obj) : World := { w with heap := w.heap.push { o with record := none } }

theorem World.Leads.push (w : World) (o : Obj) : w.Leads (w.push o) := by
  refine .ofHeap rfl ?_ (fun r hr => ?_) (fun linked r d => ?_) rfl
  · simp [World.push]
  · rw [World.push, getD_push, if_neg (Nat.ne_of_lt hr)]
    exact .refl r _
  · rw [World.push, getD_push, Array.size_push]
    split
    · exact fun h => by cases h
    · exact fun h => Nat.lt_succ_of_lt (linked r d h)

def alloc (o : Obj) : M Ref where
  run w := .ok w.heap.size (w.push o)
  leads w := .push w o
  loops := World.sameLoops

def newOf (cls : String) (p : Payload) : M Value := do
  return .ref (← alloc { cls := nativeRef cls, payload := p })

def newList (items : List Value) : M Value := newOf "list" (.list items.toArray)

def newTuple (items : List Value) : M Value := newOf "tuple" (.tuple items)

def newDict (entries : List (Value × Value)) : M Value := newOf "dict" (.dict entries.toArray)

def newIter (cls : String) (it : Iter) : M Value := newOf cls (.iter it)

def obj (r : Ref) : M Obj := do return (← read).heap.getD r default

/-- An object after a change, which leaves it its class and its dictionary, and a native class what it
is. -/
def Obj.changed (r : Ref) (f : Obj → Obj) (o : Obj) : Obj :=
  if r < natives.length then
    { f o with cls := o.cls, attrs := o.attrs, payload := o.payload, record := o.record }
  else
    { f o with cls := o.cls, payload := o.payload.changed (f o).payload, record := o.record }

theorem Obj.changed_record (r : Ref) (f : Obj → Obj) (o : Obj) : (o.changed r f).record = o.record := by
  unfold changed
  split <;> rfl

theorem Payload.changed_exports {p : Payload} (h : p.isExports = true) (q : Payload) :
    (p.changed q).isExports = true := by
  cases p <;> cases h
  cases q <;> rfl

theorem Payload.changed_class (c : Class) (q : Payload) :
    ∃ c', (Payload.class c).changed q = .class c' ∧ c'.order = c.order := by
  cases q
  case «class» d => exact ⟨{ d with order := c.order }, rfl, rfl⟩
  all_goals exact ⟨c, rfl, rfl⟩

theorem Obj.changed_keeps (r : Ref) (f : Obj → Obj) (o : Obj) : o.Keeps r (o.changed r f) := by
  unfold changed
  split
  next =>
    refine Like.keeps ?_ r
    exact ⟨rfl, rfl, rfl⟩
  next hr =>
    refine ⟨rfl, fun h => absurd h hr, fun h => Payload.changed_exports h _, fun c hc => ?_⟩
    rw [hc]
    exact Payload.changed_class c _

theorem getD_modify (heap : Array Obj) (r : Ref) (f : Obj → Obj) (s : Ref) :
    (heap.modify r f).getD s default
      = if r = s ∧ s < heap.size then f (heap.getD s default) else heap.getD s default := by
  by_cases hs : s < heap.size
  · simp [Array.getD, hs, Array.getElem_modify]
  · simp [Array.getD, hs]

def modifyObj (r : Ref) (f : Obj → Obj) : M Unit where
  run w := .ok () { w with heap := w.heap.modify r (Obj.changed r f) }
  leads w := by
    refine .ofHeap rfl ?_ (fun s hs => ?_) (fun linked s d => ?_) rfl
    · simp [worldAfter]
    · rw [worldAfter, getD_modify]
      split
      next h =>
        rw [h.1]
        exact Obj.changed_keeps s f _
      next => exact .refl s _
    · rw [worldAfter, getD_modify, Array.size_modify]
      split
      · rw [Obj.changed_record]
        exact linked s d
      · exact linked s d
  loops := World.sameLoops

/-- Gives an object the dictionary of its attributes, if that is an object there is. -/
def linkRecord (r d : Ref) : M Unit where
  run w := .ok () { w with heap := w.heap.modify r fun o =>
    { o with record := if d < w.heap.size then some d else o.record } }
  leads w := by
    refine .ofHeap rfl ?_ (fun s hs => ?_) (fun linked s k => ?_) rfl
    · simp [worldAfter]
    · rw [worldAfter, getD_modify]
      split
      · refine Obj.Like.keeps ?_ s
        exact ⟨rfl, rfl, rfl⟩
      · exact .refl s _
    · rw [worldAfter, getD_modify, Array.size_modify]
      split
      · dsimp only
        split
        next hd =>
          intro h
          cases h
          exact hd
        next => exact linked s k
      · exact linked s k
  loops := World.sameLoops

def namedEntries (es : Array (Value × Value)) : Names :=
  es.toList.filterMap fun
    | (.str name, v) => some (name, v)
    | _ => none

/-- Changes what an object is; a dictionary of attributes passes the change on. -/
def setPayload (r : Ref) (p : Payload) : M Unit := do
  modifyObj r fun o => { o with payload := p }
  match (← obj r).recordOf, p with
  | some owner, .dict es => modifyObj owner fun o => { o with attrs := namedEntries es }
  | _, _ => return

def placeOf (gaps : List Nat) (i : Nat) : Nat :=
  gaps.foldl (fun place gap => if gap ≤ place then place + 1 else place) i

def entriesBefore (gaps : List Nat) (place : Nat) : Nat :=
  place - gaps.countP (· < place)

def dropEntry (r : Ref) (es : Array (Value × Value)) (i : Nat) : M Unit := do
  let gap := placeOf (← obj r).gaps i
  modifyObj r fun o =>
    { o with gaps := o.gaps.takeWhile (· < gap) ++ gap :: o.gaps.dropWhile (· < gap) }
  setPayload r (.dict (es.toList.eraseIdx i).toArray)

def dropLast (r : Ref) (es : Array (Value × Value)) : M Unit := do
  let place := placeOf (← obj r).gaps (es.size - 1)
  modifyObj r fun o => { o with gaps := o.gaps.filter (· < place) }
  setPayload r (.dict es.pop)

/-- A table of `2 ^ k` slots, at least eight, has places for two thirds of that many entries. -/
def isFullTable (places : Nat) : Bool :=
  let slots := Nat.nextPowerOfTwo (places + 1)
  slots ≥ 8 && places == slots * 2 / 3

/-- Replaces the entries of a dictionary by as many or more; a full table is packed first. -/
def putEntries (r : Ref) (es : Array (Value × Value)) : M Unit := do
  match (← obj r).payload with
  | .dict was =>
    let o ← obj r
    if was.size < es.size && isFullTable (was.size + o.gaps.length) then
      modifyObj r fun o => { o with gaps := [] }
  | _ => pure ()
  setPayload r (.dict es)

def clearEntries (r : Ref) : M Unit := do
  modifyObj r fun o => { o with gaps := [] }
  setPayload r (.dict #[])

def entriesOfNames (ns : Names) : Array (Value × Value) :=
  (ns.map fun n => (Value.str n.1, n.2)).toArray

/-- Changes the attributes of an object, also in the dictionary of them that a program has. -/
def changeOwn (r : Ref) (f : Names → Names) : M Unit := do
  modifyObj r fun o => { o with attrs := f o.attrs }
  match (← obj r).record with
  | some d =>
    let es := entriesOfNames (← obj r).attrs
    modifyObj d fun o => { o with payload := .dict es }
  | none => return

def setOwn (r : Ref) (name : String) (v : Value) : M Unit := changeOwn r (·.put name v)

def dropOwn (r : Ref) (name : String) : M Unit := changeOwn r (·.drop name)

def recordOf (r : Ref) : M Value := do
  match (← obj r).record with
  | some d => return .ref d
  | none =>
    let es := entriesOfNames (← obj r).attrs
    let d ← alloc { cls := nativeRef "dict", payload := .dict es, recordOf := some r }
    linkRecord r d
    return .ref d

def own? (r : Ref) (name : String) : M (Option Value) := do return (← obj r).attrs.lookup name

def payload : Value → M Payload
  | .ref r => do return (← obj r).payload
  | v => return .wrapped v

def core (v : Value) : M Value := do
  match v with
  | .ref r =>
    match (← obj r).payload with
    | .wrapped w => return w
    | _ => return v
  | v => return v

def Value.immediateClass : Value → String
  | .none => "NoneType"
  | .notImplemented => "NotImplementedType"
  | .ellipsis => "ellipsis"
  | .bool _ => "bool"
  | .int _ => "int"
  | .float _ => "float"
  | .complex .. => "complex"
  | .str _ => "str"
  | .bytes _ => "bytes"
  | .builtin _ => "builtin_function_or_method"
  | .native .. => "method_descriptor"
  | .bound _ f =>
    match f with
    | .native .. => "builtin_function_or_method"
    | _ => "method"
  | .ref _ => "object"

def classOf : Value → M Ref
  | .ref r => do return (← obj r).cls
  | v => return nativeRef v.immediateClass

def class? (r : Ref) : M (Option Class) := do
  match (← obj r).payload with
  | .class c => return some c
  | _ => return none

def orderOf (cls : Ref) : M (List Ref) := do return ((← class? cls).map (·.order)).getD []

def className (cls : Ref) : M String := do return ((← class? cls).map (·.name)).getD "object"

def typeName (v : Value) : M String := do className (← classOf v)

def isSubclass (cls base : Ref) : M Bool := do return (← orderOf cls).contains base

def isA (v : Value) (cls : String) : M Bool := do
  isSubclass (← classOf v) (nativeRef cls)

def asClass (v : Value) : M (Option Class) :=
  match v with
  | .ref r => class? r
  | _ => return none

def Value.is : Value → Value → Bool
  | .none, .none => true
  | .notImplemented, .notImplemented => true
  | .ellipsis, .ellipsis => true
  | .bool a, .bool b => a == b
  | .int a, .int b => a == b
  | .float a, .float b => a.toBits == b.toBits
  | .complex a b, .complex c d => a.toBits == c.toBits && b.toBits == d.toBits
  | .str a, .str b => a == b
  | .bytes a, .bytes b => a == b
  | .builtin a, .builtin b => a == b
  | .native a b, .native c d => a == c && b == d
  | .ref a, .ref b => a == b
  | _, _ => false

/-! Errors. -/

/-- Raises an exception; the one being handled becomes its context. -/
def throwExc {α : Type} (exc : Value) : M α := do
  let w ← read
  match exc with
  | .ref r =>
    if !w.handled.is exc && !w.handled.is .none then
      modifyObj r fun o =>
        match o.payload with
        | .exception e => { o with payload := .exception { e with context := w.handled } }
        | _ => o
  | _ => pure ()
  throw (.raised exc)

def newException (cls : String) (args : List Value) : M Value :=
  newOf cls (.exception { args })

def raise {α : Type} (cls message : String) : M α := do
  throwExc (← newException cls [.str message])

def typeError {α : Type} (message : String) : M α := raise "TypeError" message

def valueError {α : Type} (message : String) : M α := raise "ValueError" message

/-- Runs something and gives the exception that it raised, if any. -/
def attempt {α : Type} (x : M α) : M (Except Value α) :=
  tryCatch (do return .ok (← x)) fun
    | .raised e => return .error e
    | .exhausted => throw .exhausted

def isError (exc : Value) (cls : String) : M Bool := isA exc cls

/-- Runs something; exceptions of a native class are handed to `other`. -/
def onError {α : Type} (cls : String) (x : M α) (other : Value → M α) : M α := do
  match ← attempt x with
  | .ok v => return v
  | .error e => if ← isError e cls then other e else throw (.raised e)

/-- How many values may lie inside each other where they are compared or quoted. -/
def nestingLimit : Nat := 960

def recursionError {α : Type} (act : String := "") : M α :=
  raise "RecursionError" ("maximum recursion depth exceeded" ++ act)

/-! Resolution order of classes. -/

def pickHead (lists : List (List Ref)) : Option Ref :=
  (lists.filterMap (·.head?)).find? fun h => !lists.any fun l => l.tail.contains h

def mergeOrders : (fuel : Nat) → List (List Ref) → Option (List Ref)
  | 0, lists => if lists.all (·.isEmpty) then some [] else none
  | fuel + 1, lists =>
    let lists := lists.filter (!·.isEmpty)
    if lists.isEmpty then some []
    else do
      let h ← pickHead lists
      let rest ← mergeOrders fuel (lists.map fun l => l.filter (· != h))
      return h :: rest

def resolutionOrder (cls : Ref) (bases : List Ref) : M (Option (List Ref)) := do
  let orders ← bases.mapM orderOf
  let total := orders.flatten.length + bases.length + 1
  return (mergeOrders total (orders ++ [bases])).map (cls :: ·)

/-! Text output. -/

def writeOut (s : String) : M Unit :=
  .change fun w => { w with streams := { w.streams with out := w.streams.out ++ s } }

def writeErr (s : String) : M Unit :=
  .change fun w => { w with streams := { w.streams with err := w.streams.err ++ s } }

def remember (file : String) (lines : List String) : M Unit :=
  .change fun w => { w with sources := Module.setKey file lines w.sources }

end Notebook.Machine
