import Notebook.Proofs.Body
import Notebook.Proofs.Fetch

/-! How the realm comes to a body: the function of the body is made in its globals and called, and takes
names over from the namespace before anything else. -/

set_option autoImplicit false

namespace Notebook.Machine

open Notebook.Code Notebook.Tree Notebook.Realm

/-! New objects. -/

/-- An object as it is when it is new. -/
def Obj.new (o : Obj) : Obj := { o with record := none }

def World.pushAll (w : World) (os : List Obj) : World :=
  { w with heap := w.heap ++ (os.map Obj.new).toArray }

theorem alloc_all {α : Type} (make : α → Obj) (xs : List α) (w : World) :
    (xs.mapM fun x => alloc (make x)).run w
      = .ok (List.range' w.heap.size xs.length) (w.pushAll (xs.map make)) := by
  have loop (xs : List α) : ∀ (acc : List Ref) (w : World),
      (List.mapM.loop (fun x => alloc (make x)) xs acc).run w
        = .ok (acc.reverse ++ List.range' w.heap.size xs.length) (w.pushAll (xs.map make)) := by
    induction xs with
    | nil =>
      intro acc w
      simp [List.mapM.loop, M.run_pure, World.pushAll]
    | cons x xs ih =>
      intro acc w
      have first : (alloc (make x)).run w = .ok w.heap.size (w.push (make x)) := rfl
      rw [List.mapM.loop, M.run_bind_ok first, ih]
      simp [World.push, World.pushAll, Obj.new, List.range'_succ]
  exact loop xs [] w

theorem World.pushAll_old (w : World) (os : List Obj) {r : Ref} (hr : r < w.heap.size) :
    (w.pushAll os).heap.getD r default = w.heap.getD r default := by
  simp [pushAll, Array.getD_eq_getD_getElem?, Array.getElem?_append, hr]

theorem World.pushAll_new (w : World) (os : List Obj) (i : Nat) :
    (w.pushAll os).heap.getD (w.heap.size + i) default = ((os[i]?).map Obj.new).getD default := by
  have past : ¬w.heap.size + i < w.heap.size := Nat.not_lt.mpr (Nat.le_add_right _ _)
  simp [pushAll, Array.getD_eq_getD_getElem?, Array.getElem?_append, past]

/-! Frames of functions that capture nothing. -/

def paramCount (c : Code.Unit) : Nat :=
  c.positional + c.keywordOnly + (if c.hasStar then 1 else 0) + (if c.hasDoubleStar then 1 else 0)

/-- The variable of a new frame that is kept in an object of its own; a parameter has its argument. -/
def cellObj (fn : Function) (slots : Array (Option Value)) (name : String) : Obj :=
  let i := fn.code.slots.toList.idxOf name
  { cls := nativeRef "cell"
    payload := .cell (if i < paramCount fn.code then slots.getD i none else none) }

/-- The new frame of a function that captures nothing, made in a world with a heap of some size. -/
def newFrame (fn : Function) (slots : Array (Option Value)) (size : Nat) : Frame :=
  { program := fn.program, code := fn.code, slots
    cells := (List.range' size fn.code.cells.size).toArray, globals := fn.globals }

theorem makeFrame_run {fn : Function} (none : fn.captured = []) (slots : Array (Option Value)) (w : World) :
    (makeFrame fn slots).run w = .ok (newFrame fn slots w.heap.size)
      (w.pushAll (fn.code.cells.toList.map (cellObj fn slots))) := by
  unfold makeFrame
  dsimp only
  refine (M.run_bind_ok (alloc_all (cellObj fn slots) fn.code.cells.toList w)).trans ?_
  rw [none, List.append_nil, Array.length_toList]
  rfl

section

variable {fn : Function} {slots : Array (Option Value)} {w : World} {ns : Ref}

theorem newFrame_cellRef {i : Nat} (hi : i < fn.code.cells.size) :
    cellRef (newFrame fn slots w.heap.size) i = w.heap.size + i := by
  simp [cellRef, newFrame, Array.getD_eq_getD_getElem?, hi]

theorem newFrame_cell {i : Nat} (hi : i < fn.code.cells.size) :
    (w.pushAll (fn.code.cells.toList.map (cellObj fn slots))).heap.getD (w.heap.size + i) default
      = cellObj fn slots (fn.code.cells.toList.getD i "") := by
  rw [World.pushAll_new]
  simp [hi]
  rfl

theorem newFrame_apart (room : natives.length ≤ w.heap.size) (inside : ns < w.heap.size)
    (size : slots.size = fn.code.slots.size) :
    (newFrame fn slots w.heap.size).Apart (w.pushAll (fn.code.cells.toList.map (cellObj fn slots))) ns where
  slots := size
  cells := by simp [newFrame]
  nodup := by simpa [newFrame] using List.nodup_range'
  own r hr := by
    simp only [newFrame, List.mem_range'_1] at hr
    obtain ⟨i, rfl⟩ := Nat.exists_eq_add_of_le hr.1
    have hi : i < fn.code.cells.size := by
      have := hr.2
      omega
    have apart : w.heap.size + i ≠ ns := Nat.ne_of_gt (Nat.lt_of_lt_of_le inside hr.1)
    refine ⟨Nat.le_trans room hr.1, by simpa [World.pushAll] using hi, apart, ?_⟩
    rw [newFrame_cell hi]
    rfl

theorem newFrame_local? (few : ∀ i, slots.getD i none ≠ none → i < paramCount fn.code)
    (n : String) :
    (newFrame fn slots w.heap.size).local? (w.pushAll (fn.code.cells.toList.map (cellObj fn slots))) n
      = if n ∈ fn.code.cells.toList ∨ n ∈ fn.code.slots.toList
        then slots.getD (fn.code.slots.toList.idxOf n) none else none := by
  unfold Frame.local?
  change (spot? fn.code n).bind _ = _
  unfold spot?
  by_cases cell : n ∈ fn.code.cells.toList
  · have hi : fn.code.cells.toList.idxOf n < fn.code.cells.size := by
      simpa using List.idxOf_lt_length_of_mem cell
    have name : fn.code.cells.toList.getD (fn.code.cells.toList.idxOf n) "" = n := by
      rw [List.getD_eq_getElem?_getD, List.getElem?_eq_getElem (by simpa using hi), List.getElem_idxOf]
      rfl
    rw [if_pos cell, if_pos (.inl cell), Option.bind_some]
    unfold Frame.valueAt
    dsimp only
    rw [newFrame_cellRef hi, newFrame_cell hi, name]
    unfold cellObj
    dsimp only
    split
    next => rfl
    next past =>
      refine Classical.byContradiction fun other => ?_
      exact past (few _ fun unbound => other unbound.symm)
  · rw [if_neg cell]
    by_cases slot : n ∈ fn.code.slots.toList
    · rw [if_pos slot, if_pos (.inr slot)]
      rfl
    · rw [if_neg slot, if_neg (by simp [cell, slot])]
      rfl

end

/-! Calls of the function of a body. -/

/-- A function of two parameters that captures nothing and runs when it is called. -/
structure TakesTwo (fn : Function) : Prop where
  positional : fn.code.positional = 2
  positionalOnly : fn.code.positionalOnly = 0
  keywordOnly : fn.code.keywordOnly = 0
  noStar : fn.code.hasStar = false
  noDoubleStar : fn.code.hasDoubleStar = false
  noDefaults : fn.defaults = []
  captured : fn.captured = []
  enough : 2 ≤ fn.code.slots.size

def twoSlots (size : Nat) (a b : Value) : Array (Option Value) :=
  ((Array.replicate size none).setIfInBounds 0 (some a)).setIfInBounds 1 (some b)

theorem twoSlots_getD {size : Nat} (enough : 2 ≤ size) (a b : Value) (i : Nat) :
    (twoSlots size a b).getD i none = if i = 0 then some a else if i = 1 then some b else none := by
  unfold twoSlots
  rw [Array.getD_eq_getD_getElem?, Array.getElem?_setIfInBounds, Array.getElem?_setIfInBounds]
  by_cases first : i = 0
  · subst first
    simp [show 0 < size by omega]
  · by_cases second : i = 1
    · subst second
      simp [show 1 < size by omega]
    · rw [if_neg (Ne.symm second), if_neg (Ne.symm first), if_neg first, if_neg second,
        Array.getElem?_replicate]
      split <;> rfl

theorem bindArgs_two {fn : Function} (h : TakesTwo fn) (a b : Value) (w : World) :
    (bindArgs fn [a, b] []).run w = .ok (twoSlots fn.code.slots.size a b) w := by
  have present : (List.range 2).filter
      (fun i => ((twoSlots fn.code.slots.size a b).getD i none).isNone) = [] := by
    simp [List.range_succ, twoSlots_getD h.enough]
  unfold bindArgs
  simp only [h.positional, h.positionalOnly, h.keywordOnly, h.noStar, h.noDoubleStar, h.noDefaults]
  change (if (!((List.range 2).filter
    fun i => ((twoSlots fn.code.slots.size a b).getD i none).isNone).isEmpty) = true then _ else _ : M _).run w = _
  rw [present]
  rfl

theorem callFunction_two {fn : Function} (h : TakesTwo fn) (plain : fn.code.flavor = .plain) (k : Nat)
    (a b : Value) (w : World) :
    let f := newFrame fn (twoSlots fn.code.slots.size a b) w.heap.size
    (callFunction (hostAt (k + 1)) fn [a, b] []).run w
      = (execute (hostAt k) f.patience f >>= fun
          | .returned v => (pure v : M Value)
          | .yielded .. => pure .none).run
        (w.pushAll (fn.code.cells.toList.map (cellObj fn (twoSlots fn.code.slots.size a b)))) := by
  intro f
  unfold callFunction
  rw [M.run_bind_ok (bindArgs_two h a b w), M.run_bind_ok (makeFrame_run h.captured _ w)]
  unfold startFrame
  rw [plain]
  rfl

/-! Attributes of an object. -/

theorem Payload.changed_self (p : Payload) : p.changed p = p := by cases p <;> rfl

theorem Payload.changed_dict {p : Payload} (h : p.isExports = true) (es : Array (Value × Value)) :
    p.changed (.dict es) = p := by
  cases p with
  | exports e => rfl
  | _ => cases h

theorem World.put_class (w : World) (r s : Ref) (f : Obj → Obj) :
    ((w.put r f).heap.getD s default).cls = (w.heap.getD s default).cls := by
  by_cases same : r = s
  · subst same
    by_cases inside : r < w.heap.size
    · rw [World.put_same inside]
      unfold Obj.changed
      split <;> rfl
    · simp [World.put, Array.getD, inside]
  · rw [World.put_other w same]

/-- What a change of the attributes of an object leaves of a world: the classes of all objects, the
attributes of the others, and what all objects are but for a dictionary of the attributes. -/
structure Attributed (r : Ref) (f : Names → Names) (w w' : World) : Prop where
  size : w'.heap.size = w.heap.size
  changed : (w'.heap.getD r default).attrs = f (w.heap.getD r default).attrs
  record : (w'.heap.getD r default).record = (w.heap.getD r default).record
  cls : ∀ s, (w'.heap.getD s default).cls = (w.heap.getD s default).cls
  others : ∀ s, s ≠ r → (w'.heap.getD s default).attrs = (w.heap.getD s default).attrs
  payload : ∀ s, (w.heap.getD r default).record ≠ some s ∨ (w.heap.getD s default).payload.isExports = true →
    (w'.heap.getD s default).payload = (w.heap.getD s default).payload

/-- A change of what an object is that leaves its attributes, and leaves namespaces what they are. -/
theorem World.put_payload (w : World) (d s : Ref) (es : Array (Value × Value)) :
    let w' := w.put d fun o => { o with payload := .dict es }
    (w'.heap.getD s default).attrs = (w.heap.getD s default).attrs ∧
      (w'.heap.getD s default).record = (w.heap.getD s default).record ∧
      (d ≠ s ∨ (w.heap.getD s default).payload.isExports = true →
        (w'.heap.getD s default).payload = (w.heap.getD s default).payload) := by
  intro w'
  by_cases same : d = s
  · subst same
    by_cases inside : d < w.heap.size
    · simp only [w', World.put_same inside]
      unfold Obj.changed
      split
      next => exact ⟨rfl, rfl, fun _ => rfl⟩
      next =>
        exact ⟨rfl, rfl, fun h => Payload.changed_dict (h.resolve_left fun apart => apart rfl) es⟩
    · have nothing : w'.heap.getD d default = w.heap.getD d default := by
        simp [w', World.put, Array.getD, inside]
      rw [nothing]
      exact ⟨rfl, rfl, fun _ => rfl⟩
  · simp [w', World.put_other w same]

theorem changeOwn_run {r : Ref} {w : World} (foreign : natives.length ≤ r) (inside : r < w.heap.size)
    (f : Names → Names) : ∃ w', (changeOwn r f).run w = .ok () w' ∧ Attributed r f w w' := by
  let w₁ := w.put r fun o => { o with attrs := f o.attrs }
  have here : w₁.heap.getD r default = { w.heap.getD r default with attrs := f (w.heap.getD r default).attrs } := by
    rw [World.put_same inside]
    unfold Obj.changed
    rw [if_neg (Nat.not_lt.mpr foreign)]
    dsimp only
    rw [Payload.changed_self]
  have there {s : Ref} (hs : s ≠ r) : w₁.heap.getD s default = w.heap.getD s default :=
    World.put_other w hs.symm _
  have first : Attributed r f w w₁ := by
    refine ⟨World.put_size .., here ▸ rfl, here ▸ rfl, fun s => World.put_class .., fun s hs => ?_,
      fun s _ => ?_⟩
    · rw [there hs]
    · by_cases hs : s = r
      · subst hs
        rw [here]
      · rw [there hs]
  have ran : (modifyObj r fun o => { o with attrs := f o.attrs }).run w = .ok () w₁ := rfl
  unfold changeOwn
  rw [M.run_bind_ok ran, M.run_bind_ok (obj_run r w₁)]
  cases recorded : (w₁.heap.getD r default).record with
  | none => exact ⟨w₁, rfl, first⟩
  | some d =>
    dsimp only
    rw [M.run_bind_ok (obj_run r w₁)]
    refine ⟨_, rfl, ?_⟩
    have second (s : Ref) := World.put_payload w₁ d s (entriesOfNames (w₁.heap.getD r default).attrs)
    refine ⟨(World.put_size ..).trans first.size, (second r).1.trans first.changed,
      (second r).2.1.trans first.record, fun s => (World.put_class ..).trans (first.cls s),
      fun s hs => (second s).1.trans (first.others s hs), fun s h => ?_⟩
    refine ((second s).2.2 ?_).trans (first.payload s h)
    rw [first.payload s h]
    refine h.imp_left fun apart same => apart ?_
    rw [← first.record, recorded, same]

/-! Worlds in which a namespace stays as it is. -/

section

variable {w w' : World} {ns : Ref} {e : Exports Value}

theorem World.Native.leads (h : w.Native) (room : natives.length ≤ w.heap.size) (l : w.Leads w') : w'.Native :=
  fun r hr => (h r hr).trans ((l.objects r (Nat.lt_of_lt_of_le hr room)).native hr)

theorem IsNamespace.room (h : IsNamespace w ns e) (native : w.Native) : natives.length ≤ w.heap.size :=
  Nat.le_trans (h.foreign native) (Nat.le_of_lt h.inside)

theorem IsNamespace.attributed {r : Ref} {f : Names → Names} (h : IsNamespace w ns e)
    (change : Attributed r f w w') (apart : ns ≠ r) : IsNamespace w' ns e where
  cls := (change.cls ns).trans h.cls
  payload := by
    rw [change.payload ns (.inr (by rw [h.payload]; rfl)), h.payload]
  own m hm := by
    rw [change.others ns apart]
    exact h.own m hm

end

/-! The function of a body. -/

def bodyFunction (program : Program) (c : Code.Unit) (globals : Ref) : Function :=
  { program, code := c, name := c.name, qualifiedName := c.qualifiedName, globals }

def textFrame (program : Program) (main : Code.Unit) (globals : Ref) : Frame :=
  { program, code := main, slots := Array.replicate main.slots.size none, cells := #[]
    globals, names := some globals }

section

variable {file : String} {body : List Stmt} {isAsync : Bool} {program : Program}

theorem store_setOwn (h : Host) {f : Frame} {i : Instr} {globals : Ref} {v : Value}
    (stores : i = .storeName cellFunction ∨ i = .storeGlobal cellFunction) (named : f.names = some globals)
    (own : f.globals = globals) {w w' : World} (set_ : (setOwn globals cellFunction v).run w = .ok () w') :
    (step h (f.push v) i).run w = .ok (.go f) w' := by
  rcases stores with rfl | rfl
  · have stored : (stepAccess h (f.push v) (.storeName cellFunction)).run w = .ok (some f) w' := by
      change (setOwn (f.names.getD f.globals) cellFunction v >>= _).run w = _
      rw [named]
      exact M.run_bind_ok set_
    exact M.run_bind_ok stored
  · have stored : (stepAccess h (f.push v) (.storeGlobal cellFunction)).run w = .ok (some f) w' := by
      change (setOwn f.globals cellFunction v >>= _).run w = _
      rw [own]
      exact M.run_bind_ok set_
    exact M.run_bind_ok stored

theorem runIn_wrapped (x : Wrapped file body isAsync program) (k : Nat) {globals : Ref} {w : World}
    (foreign : natives.length ≤ globals) (inside : globals < w.heap.size) :
    let w₁ := w.push { cls := nativeRef "function", payload := .function (bodyFunction program x.code globals) }
    ∃ w', (runIn (hostAt (k + 1)) globals program).run w = .ok () w' ∧
      Attributed globals (·.put cellFunction (.ref w.heap.size)) w₁ w' := by
  intro w₁
  have within : globals < w₁.heap.size := by
    simpa [w₁, World.push] using Nat.lt_succ_of_lt inside
  obtain ⟨w', stored, change⟩ := changeOwn_run foreign within (·.put cellFunction (.ref w.heap.size))
  refine ⟨w', ?_, change⟩
  have main : program.units.getD program.main default = x.main := by
    rw [Array.getD_eq_getD_getElem?, x.isMain]
    rfl
  let f := textFrame program x.main globals
  have at_ (i : Nat) : f.code.instrs[i]?
      = [Instr.makeFunction x.unit 0 [] [] [], x.store, .const .none, .return][i]? := by
    change x.main.instrs[i]? = _
    rw [x.mainInstrs]
    simp
  have made : Goes (hostAt k) 1 f w ({ f with pc := 1 }.push (.ref w.heap.size)) w₁ := by
    have unit : program.units.getD x.unit default = x.code := by
      rw [Array.getD_eq_getD_getElem?, x.function]
      rfl
    have new : (newFunction { f with pc := 1 } x.unit [] [] [] []).run w = .ok (.ref w.heap.size) w₁ := by
      unfold newFunction
      change (pure [] >>= _ : M Value).run w = _
      rw [show ({ f with pc := 1 } : Frame).program.units.getD x.unit default = x.code from unit]
      rfl
    have defined : (stepDefine (hostAt k) { f with pc := 1 } (.makeFunction x.unit 0 [] [] [])).run w
        = .ok (some ({ f with pc := 1 }.push (.ref w.heap.size))) w₁ := M.run_bind_ok new
    exact .step (at_ 0) (M.run_bind_ok defined)
  have named : Goes (hostAt k) 1 ({ f with pc := 1 }.push (.ref w.heap.size)) w₁ { f with pc := 2 } w' :=
    .step (at_ 1) (store_setOwn _ (f := { f with pc := 2 }) x.stores rfl rfl stored)
  have nothing : Goes (hostAt k) 1 { f with pc := 2 } w' ({ f with pc := 3 }.push .none) w' :=
    .step (at_ 2) rfl
  have all := (made.trans named).trans nothing
  have patience : f.patience = Machine.patience + 1 + 3 := by
    change Machine.patience + x.main.instrs.size = _
    rw [x.mainInstrs]
    rfl
  have returned : (execute (hostAt k) f.patience f).run w = .ok (.returned .none) w' := by
    rw [patience, all, execute]
    simp only [Frame.push, at_ 3]
    rfl
  unfold runIn mainFrame
  rw [main]
  exact M.run_bind_ok returned

end

end Notebook.Machine

namespace Notebook.Realm

open Notebook.Machine Notebook.Code Notebook.Scope Notebook.Tree

namespace Wrapped

variable {file : String} {body : List Stmt} {isAsync : Bool} {program : Program}

theorem slots (x : Wrapped file body isAsync program) :
    ∃ rest, x.code.slots.toList = "__exports__" :: "__require__" :: rest := by
  obtain ⟨rest, whole⟩ := x.houses.slots
  have base : (Code.slotsOf x.scope params).toList = params ++ (x.scope.names .local).filter
      fun n => !params.contains n := by simp [Code.slotsOf, x.top.kind]
  rw [← whole, base]
  exact ⟨_, rfl⟩

theorem takesTwo (x : Wrapped file body isAsync program) (globals : Ref) :
    TakesTwo (bodyFunction program x.code globals) := by
  refine ⟨rfl, rfl, rfl, rfl, rfl, rfl, rfl, ?_⟩
  obtain ⟨rest, slots⟩ := x.slots
  change 2 ≤ x.code.slots.size
  rw [← Array.length_toList, slots]
  exact Nat.le_add_left 2 _

def firstValues (a b : Value) (n : String) : Option Value :=
  if n = "__exports__" then some a else if n = "__require__" then some b else none

theorem newFrame_values (x : Wrapped file body isAsync program) (globals : Ref) (a b : Value) (w : World)
    (n : String) :
    let fn := bodyFunction program x.code globals
    (newFrame fn (twoSlots x.code.slots.size a b) w.heap.size).local?
      (w.pushAll (x.code.cells.toList.map (cellObj fn (twoSlots x.code.slots.size a b)))) n
      = firstValues a b n := by
  intro fn
  have enough : 2 ≤ x.code.slots.size := (x.takesTwo globals).enough
  have few (i : Nat) (hi : (twoSlots x.code.slots.size a b).getD i none ≠ none) : i < paramCount fn.code := by
    rw [twoSlots_getD enough] at hi
    have count : paramCount fn.code = 2 := rfl
    rw [count]
    by_cases first : i = 0
    · omega
    · by_cases second : i = 1
      · omega
      · simp [first, second] at hi
  refine Eq.trans (newFrame_local? few n) ?_
  obtain ⟨rest, slots⟩ := x.slots
  change (if n ∈ x.code.cells.toList ∨ n ∈ x.code.slots.toList
    then (twoSlots x.code.slots.size a b).getD (x.code.slots.toList.idxOf n) none else none) = _
  rw [twoSlots_getD enough, slots]
  unfold firstValues
  by_cases first : n = "__exports__"
  · subst first
    simp
  · by_cases second : n = "__require__"
    · subst second
      have at_ : ("__exports__" :: "__require__" :: rest).idxOf "__require__" = 1 := by
        rw [List.idxOf_cons, List.idxOf_cons_self]
        rfl
      simp [at_]
    · have apart : ("__exports__" == n) = false ∧ ("__require__" == n) = false := by
        simp [Ne.symm first, Ne.symm second]
      simp [List.idxOf_cons, apart, first, second]

end Wrapped

def valueOf : Exit → M Value
  | .returned v => return v
  | .yielded .. => return .none

/-- A realm whose globals are an object of their own. -/
structure Apart (r : Realm) (ns : Ref) (w : World) : Prop where
  foreign : natives.length ≤ r.globals
  inside : r.globals < w.heap.size
  apart : ns ≠ r.globals
  linked : w.Linked

/-- A function at a place that is not the dictionary of the globals. -/
structure Holds (fn : Function) (place globals : Ref) (w : World) : Prop where
  payload : (w.heap.getD place default).payload = .function fn
  unrecorded : (w.heap.getD globals default).record ≠ some place

theorem Holds.attributed {fn : Function} {place globals : Ref} {f : Names → Names} {w w' : World}
    (h : Holds fn place globals w) (change : Attributed globals f w w') : Holds fn place globals w' where
  payload := (change.payload _ (.inl h.unrecorded)).trans h.payload
  unrecorded := change.record ▸ h.unrecorded

theorem Holds.push {fn : Function} {globals : Ref} {w : World} (inside : globals < w.heap.size)
    (linked : w.Linked) :
    Holds fn w.heap.size globals (w.push { cls := nativeRef "function", payload := .function fn }) where
  payload := by rw [World.push, getD_push, if_pos rfl]
  unrecorded := by
    rw [World.push, getD_push, if_neg (Nat.ne_of_lt inside)]
    exact fun recorded => Nat.lt_irrefl _ (linked _ _ recorded)

def enter (r : Realm) (text : String) (exports require : Value) : M Frame := do
  remember r.fileName (Text.linesWithEnds text)
  let stmts ← statements r.fileName text
  let program ← orFault r.fileName (Code.compile { file := r.fileName } [wrap stmts false])
  runIn host r.globals program
  match ← own? r.globals cellFunction with
  | some (.ref place) =>
    dropOwn r.globals cellFunction
    match (← obj place).payload with
    | .function fn => makeFrame fn (← bindArgs fn [exports, require] [])
    | _ => typeError "no function"
  | _ => typeError "no function"

/-- A frame of the function of a body at its start, with nothing but its parameters. -/
structure Entered {file : String} {body : List Stmt} {isAsync : Bool} {program : Program}
    (x : Wrapped file body isAsync program) (ns : Ref) (require : Value) (e : Exports Value) (f : Frame)
    (w : World) : Prop where
  inBody : InBody x ns e f w
  pc : f.pc = 0
  stack : f.stack = []
  guards : f.guards = []
  values : ∀ n, f.local? w n = Wrapped.firstValues (.ref ns) require n

/-- Running a body executes the frame of its function from its start, in a world with the namespace as
it was before. -/
theorem run_enters {r : Realm} {text : String} {body : List Stmt} {program : Program}
    (parsed : Cell.parseText text = .ok body)
    (x : Wrapped r.fileName body false program) (plain : x.code.flavor = .plain)
    (compiled : Code.compile { file := r.fileName } [wrap body false] = .ok program)
    {ns : Ref} {e : Exports Value} {w : World} (native : w.Native) (he : IsNamespace w ns e)
    (own : r.Apart ns w) (require : Value) :
    ∃ f w', (r.enter text (.ref ns) require).run w = .ok f w' ∧
      (r.run text (.ref ns) require false).run w
        = (execute (hostAt 1958) f.patience f >>= valueOf).run w' ∧
      Entered x ns require e f w' := by
  obtain ⟨foreign, inside, apart, linked⟩ := own
  -- The text of the body is noted, then the text around it makes the function.
  let w₀ : World := { w with sources := Module.setKey r.fileName (Text.linesWithEnds text) w.sources }
  have noted : (remember r.fileName (Text.linesWithEnds text)).run w = .ok () w₀ := rfl
  have read_ : (statements r.fileName text).run w₀ = .ok body w₀ := by
    unfold statements
    rw [parsed]
    rfl
  have made : (orFault r.fileName (Code.compile { file := r.fileName } [wrap body false])).run w₀
      = .ok program w₀ := by
    rw [compiled]
    rfl
  have he₀ : IsNamespace w₀ ns e := he.same rfl
  have native₀ : w₀.Native := native.leads (he.room native) (M.leads_of_ok noted)
  let fn := bodyFunction program x.code r.globals
  obtain ⟨w₁, ran, change⟩ := runIn_wrapped x 1959 foreign (show r.globals < w₀.heap.size from inside)
  have stored : (runIn host r.globals program).run w₀ = .ok () w₁ := ran
  have he₁ : IsNamespace w₁ ns e :=
    (he₀.same (by rw [World.push, getD_push, if_neg (Nat.ne_of_lt he₀.inside)])).attributed change apart
  have native₁ : w₁.Native := native₀.leads (he₀.room native₀) (M.leads_of_ok stored)
  have holds₁ : Holds fn w₀.heap.size r.globals w₁ :=
    (Holds.push (show r.globals < w₀.heap.size from inside) linked).attributed change
  have inside₁ : r.globals < w₁.heap.size := by
    rw [change.size]
    simpa [World.push] using Nat.lt_succ_of_lt inside
  have found : (own? r.globals cellFunction).run w₁ = .ok (some (.ref w₀.heap.size)) w₁ := by
    rw [own?_run, change.changed, Names.put, Module.lookup_setKey, if_pos rfl]
  -- The function is dropped from the globals before it is called.
  obtain ⟨w₂, ran, change'⟩ := changeOwn_run foreign inside₁ (·.drop cellFunction)
  have dropped : (dropOwn r.globals cellFunction).run w₁ = .ok () w₂ := ran
  have he₂ : IsNamespace w₂ ns e := he₁.attributed change' apart
  have native₂ : w₂.Native := native₁.leads (he₁.room native₁) (M.leads_of_ok dropped)
  have called : (host.call (.ref w₀.heap.size) [.ref ns, require] []).run w₂
      = (callFunction (hostAt 1959) fn [.ref ns, require] []).run w₂ := by
    change (obj _ >>= _ : M Value).run w₂ = _
    rw [M.run_bind_ok (obj_run _ w₂), (holds₁.attributed change').payload]
  let slots := twoSlots x.code.slots.size (.ref ns) require
  have entered := callFunction_two (x.takesTwo r.globals) plain 1958 (.ref ns) require w₂
  refine ⟨newFrame fn slots w₂.heap.size, w₂.pushAll (x.code.cells.toList.map (cellObj fn slots)), ?_, ?_,
    ⟨⟨rfl, ?_, ?_, ?_, ?_⟩, rfl, rfl, rfl, x.newFrame_values r.globals (.ref ns) require w₂⟩⟩
  · have there : (obj w₀.heap.size).run w₂ = .ok (w₂.heap.getD w₀.heap.size default) w₂ := rfl
    unfold enter
    rw [M.run_bind_ok noted, M.run_bind_ok read_, M.run_bind_ok made, M.run_bind_ok stored,
      M.run_bind_ok found]
    dsimp only
    rw [M.run_bind_ok dropped, M.run_bind_ok there, (holds₁.attributed change').payload]
    dsimp only
    rw [M.run_bind_ok (bindArgs_two (x.takesTwo r.globals) (.ref ns) require w₂)]
    exact makeFrame_run (x.takesTwo r.globals).captured slots w₂
  · unfold Realm.run
    dsimp only
    rw [M.run_bind_ok noted, M.run_bind_ok read_, M.run_bind_ok made, M.run_bind_ok stored,
      M.run_bind_ok found]
    dsimp only
    rw [M.run_bind_ok dropped, called]
    exact entered
  · exact newFrame_apart (he₂.room native₂) he₂.inside (by simp [slots, twoSlots, fn, bodyFunction])
  · exact native₂.leads (he₂.room native₂) (M.leads_of_ok (makeFrame_run (x.takesTwo r.globals).captured slots w₂))
  · exact he₂.same (World.pushAll_old _ _ he₂.inside)
  · rw [x.newFrame_values r.globals (.ref ns) require w₂]
    rfl

theorem exports_not_fetched (body : List Stmt) : "__exports__" ∉ fetched body := by
  induction body with
  | nil => simp [fetched]
  | cons s body ih =>
    rw [fetched]
    split
    next n named => exact fun h => (List.mem_cons.mp h).elim (fun same => (fetchedName_some named).1 same.symm) ih
    next => simp

end Notebook.Realm

namespace Notebook.Session

open Notebook.Machine Notebook.Loop Notebook.Cell Notebook.Code Notebook.Realm Notebook.Tree

end Notebook.Session
