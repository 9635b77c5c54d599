import Notebook.Code.Instr
import Notebook.Scope.Basic

set_option autoImplicit false

namespace Notebook.Code

open Notebook.Source Notebook.Tree Notebook.Scope

inductive UnitKind where
  | module
  | «class»
  | function
  | asyncFunction
  | lambda
  | comprehension
deriving DecidableEq, Repr

structure Setting where
  file : String
  scope : Resolved
  kind : UnitKind
  qualifiedName : String := ""
  /-- The class whose private names are kept apart. -/
  owner : Option String := none
  /-- Whether the text itself may suspend. -/
  topAwait : Bool := false
  /-- Whether annotations are kept as text. -/
  deferred : Bool := false
  /-- The line of the last import of language features that stands where it may. -/
  featureLine : Option Nat := none

/-- The unit as far as it is written, and the units that are finished. -/
structure Draft where
  instrs : Array Instr := #[]
  lines : Array Nat := #[]
  /-- The positions that labels stand for, once they are placed. -/
  labels : Array (Option Nat) := #[]
  slots : Array String := #[]
  /-- The place that faults are reported at. -/
  place : Option Pos := none
  line : Nat := 0
  units : Array Code.Unit := #[]

/-- What all writing keeps of a draft: the instructions, slots and units there are, and the positions
of the labels that are placed. -/
structure Draft.Leads (d d' : Draft) : Prop where
  instrs : d.instrs.toList <+: d'.instrs.toList
  slots : d.slots.toList <+: d'.slots.toList
  units : d.units.toList <+: d'.units.toList
  labels : ∀ l p : Nat, d.labels[l]? = some (some p) → d'.labels[l]? = some (some p)

namespace Draft.Leads

variable {d d' d'' : Draft}

theorem refl (d : Draft) : d.Leads d :=
  ⟨List.prefix_rfl, List.prefix_rfl, List.prefix_rfl, fun _ _ h => h⟩

theorem trans (h : d.Leads d') (h' : d'.Leads d'') : d.Leads d'' where
  instrs := h.instrs.trans h'.instrs
  slots := h.slots.trans h'.slots
  units := h.units.trans h'.units
  labels l p hp := h'.labels l p (h.labels l p hp)

end Draft.Leads

/-- Writing: what it makes of every draft, or the fault that stops it, and that the draft leads to the
one after it. -/
structure Gen (α : Type) where
  run : Setting → Draft → Except Fault (α × Draft)
  leads : ∀ (s : Setting) (d : Draft) (r : α × Draft), run s d = .ok r → d.Leads r.2

namespace Gen

variable {α β : Type}

@[always_inline, inline]
protected def pure (a : α) : Gen α where
  run _ d := .ok (a, d)
  leads _ d r h := by
    cases h
    exact .refl d

@[always_inline, inline]
protected def bind (x : Gen α) (f : α → Gen β) : Gen β where
  run s d := match x.run s d with
    | .ok (a, d) => (f a).run s d
    | .error e => .error e
  leads s d r h := by
    split at h
    next a d' hx => exact (x.leads s d (a, d') hx).trans ((f a).leads s d' r h)
    next => cases h

@[always_inline]
instance : Monad Gen where
  pure := Gen.pure
  bind := Gen.bind

@[always_inline]
instance : MonadReaderOf Setting Gen where
  read := ⟨fun s d => .ok (s, d), fun _ d _ h => by cases h; exact .refl d⟩

@[inline]
def draft : Gen Draft := ⟨fun _ d => .ok (d, d), fun _ d _ h => by cases h; exact .refl d⟩

@[inline]
protected def throw (e : Fault) : Gen α := ⟨fun _ _ => .error e, fun _ _ _ h => by cases h⟩

instance : Inhabited (Gen α) := ⟨.throw { message := "", line := 0, offset := 0 }⟩

@[inline]
def changeGet (f : Draft → α × Draft) (h : ∀ d : Draft, d.Leads (f d).2) : Gen α where
  run _ d := .ok (f d)
  leads _ d r hr := by
    cases hr
    exact h d

@[inline]
def change (f : Draft → Draft) (h : ∀ d : Draft, d.Leads (f d)) : Gen PUnit :=
  changeGet (fun d => (⟨⟩, f d)) h

end Gen

open Gen (draft)

def fault {α : Type} (message : String) : Gen α := do
  match (← draft).place with
  | some p => .throw { message, line := p.line, offset := p.col + 1 }
  | none => .throw { message, line := 0, offset := 0 }

def moveTo (place : Option Pos) (line : Nat) : Gen PUnit :=
  .change (fun d => { d with place, line }) fun d => { Draft.Leads.refl d with }

def setPlace (p : Pos) : Gen PUnit := moveTo (some p) p.line

def clearPlace : Gen PUnit := do moveTo none (← draft).line

def atPlace (p : Pos) (body : Gen PUnit) : Gen PUnit := do
  let before ← draft
  setPlace p
  body
  moveTo before.place before.line

def setAttrPlace (p attr : Pos) : Gen PUnit := do
  if attr.line != p.line then setPlace attr

def Draft.add (d : Draft) (i : Instr) : Draft :=
  { d with instrs := d.instrs.push i, lines := d.lines.push d.line }

def emit (i : Instr) : Gen PUnit :=
  .change (·.add i) fun d => { Draft.Leads.refl d with instrs := by simp [Draft.add] }

def newLabel : Gen Nat :=
  .changeGet (fun d => (d.labels.size, { d with labels := d.labels.push none })) fun d =>
    { Draft.Leads.refl d with
      labels := fun l p h => by
        obtain ⟨hl, hp⟩ := Array.getElem?_eq_some_iff.mp h
        simp [Array.getElem?_push, Nat.ne_of_lt hl, h] }

def placeLabel (l : Nat) : Gen PUnit :=
  .change (fun d => { d with labels := d.labels.modify l (·.or (some d.instrs.size)) }) fun d =>
    { Draft.Leads.refl d with
      labels := fun k p h => by
        simp only [Array.getElem?_modify, h]
        split <;> rfl }

def newSlot : Gen Nat :=
  .changeGet (fun d => (d.slots.size, { d with slots := d.slots.push "" })) fun d =>
    { Draft.Leads.refl d with slots := by simp }

def cellNames (r : Resolved) : List String :=
  r.names .cell ++ if r.needsClass then ["__class__"] else []

def cellIndex (r : Resolved) (name : String) : Nat :=
  (cellNames r ++ r.closure).idxOf name

def forbidName (name : String) (ctx : Ctx) : Gen PUnit := do
  if name == "__debug__" then
    match ctx with
    | .store => fault "cannot assign to __debug__"
    | .del => fault "cannot delete __debug__"
    | .load => return

def cellInstr (isClass : Bool) (cell : Nat) (key : String) : Ctx → Instr
  | .load => if isClass then .loadClassCell cell key else .loadCell cell
  | .store => .storeCell cell
  | .del => .deleteCell cell

def slotInstr (slot : Nat) : Ctx → Instr
  | .load => .loadFast slot
  | .store => .storeFast slot
  | .del => .deleteFast slot

def globalInstr (key : String) : Ctx → Instr
  | .load => .loadGlobal key
  | .store => .storeGlobal key
  | .del => .deleteGlobal key

def namedInstr (key : String) : Ctx → Instr
  | .load => .loadName key
  | .store => .storeName key
  | .del => .deleteName key

def nameInstr (r : Resolved) (slots : Array String) (key : String) (ctx : Ctx) : Instr :=
  let isFunction := r.info.kind == .function
  match r.binding key with
  | .cell | .free => cellInstr (r.info.kind == .class) (cellIndex r key) key ctx
  | .local => if isFunction then slotInstr (slots.idxOf key) ctx else namedInstr key ctx
  | .globalDeclared => globalInstr key ctx
  | .global => if isFunction then globalInstr key ctx else namedInstr key ctx

def nameOp (name : String) (ctx : Ctx) : Gen PUnit := do
  forbidName name ctx
  let s ← read
  emit (nameInstr s.scope (← draft).slots (mangle s.owner name) ctx)

/-- The qualified name of a unit inside one with a setting. A function or class that is declared
global is named as if it stood at the top. -/
def innerName (s : Setting) (name : String) (isNamed : Bool) : String :=
  if s.kind == .module then name
  else if isNamed && s.scope.binding (mangle s.owner name) == .globalDeclared then name
  else match s.kind with
    | .function | .asyncFunction | .lambda => s.qualifiedName ++ ".<locals>." ++ name
    | _ => s.qualifiedName ++ "." ++ name

def flavorOf (i : Info) : Flavor :=
  if i.kind != .function then .plain
  else match i.yields, i.suspends with
    | false, false => .plain
    | true, false => .generator
    | false, true => .coroutine
    | true, true => .asyncGenerator

structure Heading where
  name : String
  isNamed : Bool
  kind : UnitKind
  firstLine : Nat
  doc : Option String := none
  positionalOnly : Nat := 0
  positional : Nat := 0
  keywordOnly : Nat := 0
  hasStar : Bool := false
  hasDoubleStar : Bool := false

def slotsOf (r : Resolved) (params : List String) : Array String :=
  if r.info.kind == .function then
    (params ++ (r.names .local).filter fun n => !params.contains n).toArray
  else #[]

/-- The draft of a unit before anything is written. -/
def Draft.start (h : Heading) (scope : Resolved) (params : List String) (units : Array Code.Unit) :
    Draft :=
  { slots := slotsOf scope params, place := some ⟨h.firstLine, 0⟩, line := h.firstLine, units }

/-- The unit that a draft is finished to: positions stand in place of labels. -/
def Draft.unit (d : Draft) (h : Heading) (scope : Resolved) (qualifiedName file : String) :
    Code.Unit :=
  { name := h.name, qualifiedName, file, firstLine := h.firstLine, doc := h.doc
    positionalOnly := h.positionalOnly, positional := h.positional
    keywordOnly := h.keywordOnly, hasStar := h.hasStar, hasDoubleStar := h.hasDoubleStar
    isFunction := scope.info.kind == .function, flavor := flavorOf scope.info
    slots := d.slots, cells := (cellNames scope).toArray, free := scope.closure.toArray
    instrs := d.instrs.map (·.mapTarget fun l => (d.labels.getD l none).getD 0), lines := d.lines }

/-- Writes a unit inside the current one and gives its number. Parameters are in the order in which
arguments are laid out. -/
def inUnit (h : Heading) (scope : Resolved) (owner : Option String) (params : List String)
    (body : Gen PUnit) : Gen Nat where
  run s outer :=
    let qualifiedName := innerName s h.name h.isNamed
    let inner : Setting := { s with scope, kind := h.kind, qualifiedName, owner }
    match body.run inner (.start h scope params outer.units) with
    | .error e => .error e
    | .ok (_, d) =>
      .ok (d.units.size, { outer with units := d.units.push (d.unit h scope qualifiedName s.file) })
  leads s outer r hr := by
    dsimp only at hr
    split at hr
    next => cases hr
    next d hd =>
      cases hr
      have inner : outer.units.toList <+: d.units.toList := (body.leads _ _ _ hd).units
      exact { Draft.Leads.refl outer with units := inner.trans (by simp) }

/-- Where the variables that a unit takes from outside are found in the current unit. -/
def capturesOf (inner : Resolved) : Gen (List Nat) := do
  let s ← read
  return inner.closure.map (cellIndex s.scope)

/-- A statement that control is inside of, as seen by the statements that leave it. -/
inductive Region where
  | whileLoop (again exit : Nat)
  | forLoop (again exit : Nat)
  | tryBody
  /-- A body with a final part, which is written anew wherever it is left; the flag tells whether a
  value waits on the stack meanwhile. -/
  | finallyBody (write : Bool → Gen PUnit)
  | finallyEnd
  | with (isAsync : Bool) (pos : Pos)
  | handler (name : Option String)
  | handlers
  | groupHandlers
  | asyncClause
  | pendingValue

def enter (r : Region) (rs : List Region) : Gen (List Region) := do
  if rs.length ≥ 20 then fault "too many statically nested blocks"
  return r :: rs

def await : Gen PUnit := do
  emit .getAwaitable
  emit (.const .none)
  emit .delegate

/-- Writes what is due when a region is left; with `keep` the top of the stack is a value to keep.
-/
def leave (keep : Bool) : Region → Gen PUnit
  | .whileLoop .. | .handlers | .groupHandlers | .asyncClause => return
  | .forLoop .. | .pendingValue => do
    if keep then emit (.swap 2)
    emit .pop
  | .tryBody => emit .endRegion
  | .finallyBody write => do
    emit .endRegion
    write keep
    clearPlace
  | .finallyEnd => do
    if keep then emit (.swap 2)
    emit .pop
    if keep then emit (.swap 2)
    emit .endRegion
    emit .leaveHandler
  | .with isAsync pos => do
    setPlace pos
    emit .endRegion
    if keep then emit (.swap 2)
    emit .callExit
    if isAsync then await
    emit .pop
    clearPlace
  | .handler name => do
    if name.isSome then emit .endRegion
    if keep then emit (.swap 2)
    emit .endRegion
    emit .leaveHandler
    match name with
    | some n =>
      emit (.const .none)
      nameOp n .store
      nameOp n .del
    | none => return

def refuseInGroup : Gen PUnit :=
  fault "'break', 'continue' and 'return' cannot appear in an except* block"

def leaveAll (keep : Bool) : List Region → Gen PUnit
  | [] => return
  | .groupHandlers :: _ => refuseInGroup
  | r :: rs => do
    leave keep r
    leaveAll keep rs

def leaveToLoop : List Region → Gen (Option Region)
  | [] => return none
  | .groupHandlers :: _ => do
    refuseInGroup
    return none
  | .whileLoop a e :: _ => return some (.whileLoop a e)
  | .forLoop a e :: _ => return some (.forLoop a e)
  | r :: rs => do
    leave false r
    leaveToLoop rs

end Notebook.Code
