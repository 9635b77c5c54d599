import Notebook.Proofs.Namespace
import Notebook.Proofs.Wrapped

/-! What the function of a body finds in its variables when it comes to its own statements. -/

set_option autoImplicit false

namespace Notebook.Machine

open Notebook.Code Notebook.Scope Notebook.Tree Notebook.Realm

/-! Changes of single objects. -/

def World.put (w : World) (r : Ref) (f : Obj → Obj) : World :=
  { w with heap := w.heap.modify r (Obj.changed r f) }

theorem World.put_size (w : World) (r : Ref) (f : Obj → Obj) :
    (w.put r f).heap.size = w.heap.size := by
  simp [put]

theorem World.put_same {w : World} {r : Ref} (hr : r < w.heap.size) (f : Obj → Obj) :
    (w.put r f).heap.getD r default = Obj.changed r f (w.heap.getD r default) := by
  simp [put, Array.getD, hr, Array.getElem_modify]

def Payload.isCell : Payload → Bool
  | .cell _ => true
  | _ => false

theorem World.put_cell {w : World} {r : Ref} (foreign : natives.length ≤ r) (hr : r < w.heap.size)
    (cell : (w.heap.getD r default).payload.isCell = true) (f : Obj → Obj) :
    ((w.put r f).heap.getD r default).payload = (f (w.heap.getD r default)).payload := by
  rw [World.put_same hr]
  unfold Obj.changed
  rw [if_neg (Nat.not_lt.mpr foreign)]
  generalize (w.heap.getD r default).payload = p at cell
  cases p <;> cases cell
  rfl

theorem World.put_other (w : World) {r s : Ref} (h : r ≠ s) (f : Obj → Obj) :
    (w.put r f).heap.getD s default = w.heap.getD s default := by
  by_cases hs : s < w.heap.size
  · simp [put, Array.getD, hs, Array.getElem_modify, h]
  · simp [put, Array.getD, hs]

theorem World.Native.put {w : World} (h : w.Native) {r : Ref} (hr : natives.length ≤ r) (f : Obj → Obj) :
    (w.put r f).Native := by
  intro s hs
  rw [World.put_other w (Nat.ne_of_gt (Nat.lt_of_lt_of_le hs hr)) f]
  exact h s hs

theorem IsNamespace.put {w : World} {r s : Ref} {e : Exports Value} (h : IsNamespace w s e)
    (hr : r ≠ s) (f : Obj → Obj) : IsNamespace (w.put r f) s e := h.same (World.put_other w hr f)

theorem setPayload_run {r : Ref} {p : Payload} (plain : ∀ es, p ≠ .dict es) (w : World) :
    (setPayload r p).run w = .ok () (w.put r fun o => { o with payload := p }) := by
  unfold setPayload
  rw [M.run_bind_ok (show (modifyObj r _).run w = .ok () (w.put r _) from rfl),
    M.run_bind_ok (obj_run r _)]
  split
  next es _ => exact absurd rfl (plain _)
  next => rfl

/-! Variables of a frame. -/

inductive Spot where
  | cell (i : Nat)
  | slot (i : Nat)
deriving DecidableEq

namespace Spot

def load : Spot → Instr
  | .cell i => .loadCell i
  | .slot i => .loadFast i

def store : Spot → Instr
  | .cell i => .storeCell i
  | .slot i => .storeFast i

def delete : Spot → Instr
  | .cell i => .deleteCell i
  | .slot i => .deleteFast i

end Spot

/-- Where frames of a unit keep the variable of a name, if it is one. -/
def spot? (c : Code.Unit) (n : String) : Option Spot :=
  if n ∈ c.cells.toList then some (.cell (c.cells.toList.idxOf n))
  else if n ∈ c.slots.toList then some (.slot (c.slots.toList.idxOf n))
  else none

theorem eq_of_idxOf_eq {l : List String} {m n : String} (hm : m ∈ l) (hn : n ∈ l)
    (h : l.idxOf m = l.idxOf n) : m = n := by
  have first := List.getElem_idxOf (List.idxOf_lt_length_of_mem hm)
  have second := List.getElem_idxOf (List.idxOf_lt_length_of_mem hn)
  rw [← first, ← second]
  simp only [h]

theorem spot?_inj {c : Code.Unit} {m n : String} {p : Spot} (hm : spot? c m = some p)
    (hn : spot? c n = some p) : m = n := by
  unfold spot? at hm hn
  by_cases cellM : m ∈ c.cells.toList
  · rw [if_pos cellM] at hm
    by_cases cellN : n ∈ c.cells.toList
    · rw [if_pos cellN, ← hm] at hn
      exact (eq_of_idxOf_eq cellN cellM (by simpa using hn)).symm
    · rw [if_neg cellN, ← hm] at hn
      split at hn <;> simp at hn
  · rw [if_neg cellM] at hm
    by_cases slotM : m ∈ c.slots.toList
    · rw [if_pos slotM] at hm
      rw [← hm] at hn
      split at hn
      · simp at hn
      · split at hn
        next slotN => exact (eq_of_idxOf_eq slotN slotM (by simpa using hn)).symm
        next => cases hn
    · rw [if_neg slotM] at hm
      cases hm

def Frame.valueAt (f : Frame) (w : World) : Spot → Option Value
  | .cell i =>
    match (w.heap.getD (cellRef f i) default).payload with
    | .cell v => v
    | _ => none
  | .slot i => f.slots.getD i none

/-- The value of a variable of a frame, if it is one and is bound. -/
def Frame.local? (f : Frame) (w : World) (n : String) : Option Value :=
  (spot? f.code n).bind (f.valueAt w)

/-- A frame that keeps its variables where nothing else is kept, the namespace least of all. -/
structure Frame.Apart (f : Frame) (w : World) (ns : Ref) : Prop where
  slots : f.slots.size = f.code.slots.size
  cells : f.cells.size = f.code.cells.size
  nodup : f.cells.toList.Nodup
  own : ∀ r ∈ f.cells.toList, natives.length ≤ r ∧ r < w.heap.size ∧ r ≠ ns ∧
    (w.heap.getD r default).payload.isCell = true

/-- A spot that frames of a unit have. -/
def Spot.Within (c : Code.Unit) : Spot → Prop
  | .cell i => i < c.cells.size
  | .slot i => i < c.slots.size

theorem spot?_within {c : Code.Unit} {n : String} {p : Spot} (h : spot? c n = some p) :
    p.Within c := by
  unfold spot? at h
  split at h
  next mem =>
    cases h
    simpa [Spot.Within] using List.idxOf_lt_length_of_mem mem
  next =>
    split at h
    next mem =>
      cases h
      simpa [Spot.Within] using List.idxOf_lt_length_of_mem mem
    next => cases h

namespace Frame

variable {f : Frame} {w : World} {ns : Ref} {p q : Spot} {v : Value}

def stored (f : Frame) : Spot → Option Value → Frame
  | .cell _, _ => f
  | .slot i, v => f.setSlot i v

def worldStored (f : Frame) (w : World) : Spot → Option Value → World
  | .cell i, v => w.put (cellRef f i) fun o => { o with payload := .cell v }
  | .slot _, _ => w

@[simp] theorem stored_code (f : Frame) (p : Spot) (v : Option Value) : (f.stored p v).code = f.code := by
  cases p <;> rfl

@[simp] theorem stored_pc (f : Frame) (p : Spot) (v : Option Value) : (f.stored p v).pc = f.pc := by
  cases p <;> rfl

@[simp] theorem stored_stack (f : Frame) (p : Spot) (v : Option Value) : (f.stored p v).stack = f.stack := by
  cases p <;> rfl

theorem cellValue?_run (f : Frame) (i : Nat) (w : World) :
    (cellValue? f i).run w = .ok (f.valueAt w (.cell i)) w := by
  unfold cellValue? valueAt
  rw [M.run_bind_ok (obj_run _ w)]
  dsimp only
  cases (w.heap.getD (cellRef f i) default).payload <;> rfl

theorem load_run (h : Host) (hv : f.valueAt w p = some v) :
    (step h f p.load).run w = .ok (.go (f.push v)) w := by
  cases p with
  | cell i =>
    have read_ : (cellValue? f i).run w = .ok (some v) w := hv ▸ f.cellValue?_run i w
    have loaded : (loadCell f i).run w = .ok v w := M.run_bind_ok read_
    have accessed : (stepAccess h f (.loadCell i)).run w = .ok (some (f.push v)) w :=
      M.run_bind_ok loaded
    exact M.run_bind_ok accessed
  | slot i =>
    have loaded : (loadFast f i).run w = .ok v w := by
      unfold loadFast
      rw [show f.slots.getD i none = some v from hv]
      rfl
    have accessed : (stepAccess h f (.loadFast i)).run w = .ok (some (f.push v)) w :=
      M.run_bind_ok loaded
    exact M.run_bind_ok accessed

theorem store_run (h : Host) (f : Frame) (w : World) (p : Spot) (v : Value) :
    (step h (f.push v) p.store).run w = .ok (.go (f.stored p (some v))) (f.worldStored w p (some v)) := by
  cases p with
  | cell i =>
    have stored : (setPayload (cellRef f i) (.cell (some v))).run w
        = .ok () (f.worldStored w (.cell i) (some v)) := setPayload_run (fun _ => by simp) w
    have accessed : (stepAccess h (f.push v) (.storeCell i)).run w
        = .ok (some f) (f.worldStored w (.cell i) (some v)) := M.run_bind_ok stored
    exact M.run_bind_ok accessed
  | slot i => rfl

theorem delete_run (h : Host) (hv : f.valueAt w p = some v) :
    (step h f p.delete).run w = .ok (.go (f.stored p none)) (f.worldStored w p none) := by
  cases p with
  | cell i =>
    have read_ : (cellValue? f i).run w = .ok (some v) w := hv ▸ f.cellValue?_run i w
    have loaded : (loadCell f i).run w = .ok v w := M.run_bind_ok read_
    have cleared : (setPayload (cellRef f i) (.cell none)).run w
        = .ok () (f.worldStored w (.cell i) none) := setPayload_run (fun _ => by simp) w
    have accessed : (stepAccess h f (.deleteCell i)).run w
        = .ok (some f) (f.worldStored w (.cell i) none) :=
      (M.run_bind_ok (M.run_bind_ok loaded)).trans (M.run_bind_ok cleared)
    exact M.run_bind_ok accessed
  | slot i =>
    have loaded : (loadFast f i).run w = .ok v w := by
      unfold loadFast
      rw [show f.slots.getD i none = some v from hv]
      rfl
    have accessed : (stepAccess h f (.deleteFast i)).run w = .ok (some (f.setSlot i none)) w :=
      M.run_bind_ok (M.run_bind_ok loaded)
    exact M.run_bind_ok accessed

end Frame

namespace Frame.Apart

variable {f : Frame} {w : World} {ns : Ref} {p q : Spot}

theorem cellRef_mem (h : f.Apart w ns) {i : Nat} (hi : i < f.code.cells.size) :
    cellRef f i ∈ f.cells.toList := by
  rw [← h.cells] at hi
  simp [cellRef, Array.getD, hi]

theorem cellRef_inj (h : f.Apart w ns) {i j : Nat} (hi : i < f.code.cells.size)
    (hj : j < f.code.cells.size) (same : cellRef f i = cellRef f j) : i = j := by
  rw [← h.cells] at hi hj
  have same' : f.cells.toList.getD i 0 = f.cells.toList.getD j 0 := by
    simpa [cellRef] using same
  exact (List.getD_inj (by simpa using hi) (by simpa using hj) h.nodup).mp same'

theorem valueAt_same (h : f.Apart w ns) (hp : p.Within f.code) (v : Option Value) :
    (f.stored p v).valueAt (f.worldStored w p v) p = v := by
  cases p with
  | cell i =>
    obtain ⟨foreign, inside, -, plain⟩ := h.own _ (h.cellRef_mem hp)
    have now : ((f.worldStored w (.cell i) v).heap.getD (cellRef f i) default).payload
        = .cell v := by
      rw [worldStored, World.put_cell foreign inside plain]
    change (match ((f.worldStored w (.cell i) v).heap.getD (cellRef f i) default).payload with
      | .cell v => v
      | _ => none) = _
    rw [now]
  | slot i =>
    have inside : i < f.slots.size := h.slots ▸ hp
    simp [stored, setSlot, valueAt, Array.getD, inside]

theorem valueAt_other (h : f.Apart w ns) (hp : p.Within f.code) (hq : q.Within f.code) (other : p ≠ q)
    (v : Option Value) : (f.stored p v).valueAt (f.worldStored w p v) q = f.valueAt w q := by
  cases p with
  | cell i =>
    cases q with
    | cell j =>
      have apart : cellRef f i ≠ cellRef f j := fun same => other (h.cellRef_inj hp hq same ▸ rfl)
      simp only [stored, worldStored, valueAt, World.put_other w apart]
    | slot j => rfl
  | slot i =>
    cases q with
    | cell j => rfl
    | slot j =>
      have apart : i ≠ j := fun same => other (same ▸ rfl)
      simp [stored, setSlot, valueAt, Array.getD_eq_getD_getElem?, Array.getElem?_setIfInBounds_ne apart]

theorem stored (h : f.Apart w ns) (hp : p.Within f.code) (v : Option Value) :
    (f.stored p v).Apart (f.worldStored w p v) ns := by
  cases p with
  | slot i => exact ⟨by simp [Frame.stored, setSlot, h.slots], h.cells, h.nodup, h.own⟩
  | cell i =>
    refine ⟨h.slots, h.cells, h.nodup, fun r hr => ?_⟩
    obtain ⟨foreign, inside, outside, plain⟩ := h.own r hr
    refine ⟨foreign, by simpa [worldStored, World.put_size] using inside, outside, ?_⟩
    by_cases same : cellRef f i = r
    · subst same
      rw [worldStored, World.put_cell foreign inside plain]
      rfl
    · rw [worldStored, World.put_other w same]
      exact plain

theorem isNamespace (h : f.Apart w ns) (hp : p.Within f.code) (v : Option Value) {e : Exports Value}
    (he : IsNamespace w ns e) : IsNamespace (f.worldStored w p v) ns e := by
  cases p with
  | slot i => exact he
  | cell i => exact he.put (h.own _ (h.cellRef_mem hp)).2.2.1 _

theorem native (h : f.Apart w ns) (hp : p.Within f.code) (v : Option Value) (hw : w.Native) :
    (f.worldStored w p v).Native := by
  cases p with
  | slot i => exact hw
  | cell i => exact hw.put (h.own _ (h.cellRef_mem hp)).1 _

/-- Storing a value binds one variable, leaving nothing unbinds it; the others are as they were. -/
theorem local? (h : f.Apart w ns) {m : String} (hp : spot? f.code m = some p) (v : Option Value)
    (n : String) : (f.stored p v).local? (f.worldStored w p v) n
      = if n = m then v else f.local? w n := by
  unfold Frame.local?
  rw [stored_code]
  split
  next same =>
    subst same
    rw [hp]
    exact h.valueAt_same (spot?_within hp) v
  next other =>
    cases hq : spot? f.code n with
    | none => rfl
    | some q =>
      have apart : p ≠ q := fun same => other (spot?_inj hq (same ▸ hp))
      exact h.valueAt_other (spot?_within hp) (spot?_within hq) apart v

end Frame.Apart

theorem idxOf_eq_of_isPrefix {l m : List String} (h : l <+: m) {n : String} (hn : n ∈ l) :
    m.idxOf n = l.idxOf n := by
  obtain ⟨rest, rfl⟩ := h
  rw [List.idxOf_append, if_pos hn]

theorem nameInstr_spot {r : Resolved} (top : r.TopFunction) {params : List String} {c : Code.Unit}
    (cells : c.cells = (cellNames r).toArray) {slots : Array String}
    (base : (Code.slotsOf r params).toList <+: slots.toList) (within : slots.toList <+: c.slots.toList)
    {n : String} (hn : r.binding n = .local ∨ r.binding n = .cell) :
    ∃ p, spot? c n = some p ∧ nameInstr r slots n .load = p.load ∧
      nameInstr r slots n .store = p.store ∧ nameInstr r slots n .del = p.delete := by
  have shared : c.cells.toList = r.names .cell := by simp [cells, cellNames, top.needsClass]
  unfold spot? nameInstr
  rw [shared, top.kind]
  have inCell := top.mem_names (n := n) (b := .cell) (by decide)
  rcases hn with hn | hn
  · have mem : n ∈ slots.toList := by
      have own : n ∈ r.names .local := (top.mem_names (by decide)).mpr hn
      refine base.mem ?_
      simp only [Code.slotsOf, top.kind, beq_self_eq_true, if_true, List.mem_append, List.mem_filter]
      by_cases param : n ∈ params
      · exact .inl param
      · exact .inr ⟨own, by simpa using param⟩
    have place : c.slots.toList.idxOf n = slots.idxOf n := by
      rw [idxOf_eq_of_isPrefix within mem, ← List.idxOf_toArray, Array.toArray_toList]
    rw [hn] at inCell ⊢
    rw [if_neg (fun h => by cases inCell.mp h), if_pos (within.mem mem), place]
    exact ⟨_, rfl, rfl, rfl, rfl⟩
  · rw [hn, if_pos (inCell.mpr hn)]
    refine ⟨_, rfl, ?_, ?_, ?_⟩ <;>
      simp [cellInstr, cellIndex, cellNames, top.needsClass, top.closure, Spot.load, Spot.store, Spot.delete]

/-! Fetching. -/

theorem exportsMethod_get (h : Host) (r : Ref) (e : Exports Value) (n : String) (w : World) :
    (exportsMethod h r e "get" [.str n] []).run w = .ok ((e.get? n).getD .none) w := rfl

theorem loadAttr_run {h : Host} {v a : Value} {name : String} {w w' : World} (f : Frame)
    (found : (getAttr h v name).run w = .ok a w') :
    (step h (f.push v) (.loadAttr name)).run w = .ok (.go (f.push a)) w' := by
  have accessed : (stepAccess h (f.push v) (.loadAttr name)).run w = .ok (some (f.push a)) w' :=
    M.run_bind_ok found
  exact M.run_bind_ok accessed

theorem call_run {h : Host} {callee a : Value} {args : List Value} {w w' : World} (f : Frame)
    (some_ : args ≠ []) (called : (h.call callee args []).run w = .ok a w') :
    (step h (f.pushAll (args.reverse ++ [callee])) (.call args.length [])).run w
      = .ok (.go (f.push a)) w' := by
  have here : (callHere h f callee args []).run w = .ok a w' := by
    unfold callHere
    rw [List.isEmpty_eq_false_iff.mpr some_, Bool.false_and, if_neg Bool.false_ne_true]
    exact called
  have defined : (stepDefine h (f.pushAll (args.reverse ++ [callee])) (.call args.length [])).run w
      = .ok (some (f.push a)) w' := by
    have popped : (f.pushAll (args.reverse ++ [callee])).popMany args.length
        = (args, f.push callee) := by
      simp [Frame.pushAll, Frame.popMany, Frame.push]
    have callee_ : (f.push callee).pop = (callee, f) := rfl
    unfold stepDefine
    simp only [popped, callee_, List.length_nil, Nat.sub_zero, List.take_length, List.zip_nil_left]
    exact M.run_bind_ok here
  exact M.run_bind_ok defined

theorem method_goes {k : Nat} {f : Frame} {w : World} {ns : Ref} {e : Exports Value}
    (native : w.Native) (he : IsNamespace w ns e) {m : String} (hm : m ∈ bodyMethods) {q : Spot}
    {n : String} {kind : Bool} (here : f.valueAt w q = some (.ref ns))
    (stands : Stands f.code f.pc [q.load, .loadAttr m, .const (.str n kind)]) :
    Goes (hostAt k) 3 f w ({ f with pc := f.pc + 3 }.pushAll
      [.str n, .bound (.ref ns) (.native "ExportNamespace" m)]) w := by
  have loaded : Goes (hostAt k) 1 f w ({ f with pc := f.pc + 1 }.push (.ref ns)) w :=
    .step stands.head (Frame.load_run _ here)
  have method : Goes (hostAt k) 1 ({ f with pc := f.pc + 1 }.push (.ref ns)) w
     ({ f with pc := f.pc + 2 }.push (.bound (.ref ns) (.native "ExportNamespace" m))) w := by
    refine .step stands.tail.head ?_
    exact loadAttr_run { f with pc := f.pc + 2 } (he.getAttr native _ (spaceMethods_of_body hm) (he.own m hm))
  have text : Goes (hostAt k) 1
     ({ f with pc := f.pc + 2 }.push (.bound (.ref ns) (.native "ExportNamespace" m))) w
     ({ f with pc := f.pc + 3 }.pushAll [.str n, .bound (.ref ns) (.native "ExportNamespace" m)]) w :=
    .step stands.tail.tail.head rfl
  exact (loaded.trans method).trans text

theorem fetch_goes {k : Nat} {f : Frame} {w : World} {ns : Ref} {e : Exports Value}
    (native : w.Native) (he : IsNamespace w ns e) {q p : Spot} {n : String} {kind : Bool}
    (here : f.valueAt w q = some (.ref ns))
    (stands : Stands f.code f.pc
      [q.load, .loadAttr "get", .const (.str n kind), .call 1 [], p.store]) :
    Goes (hostAt (k + 1)) 5 f w ({ f with pc := f.pc + 5 }.stored p (some ((e.get? n).getD .none)))
      (f.worldStored w p (some ((e.get? n).getD .none))) := by
  have ready := method_goes (k := k + 1) native he (show "get" ∈ bodyMethods by decide) here
    (stands.front [_, _, _])
  have called : Goes (hostAt (k + 1)) 1
     ({ f with pc := f.pc + 3 }.pushAll [.str n, .bound (.ref ns) (.native "ExportNamespace" "get")]) w
     ({ f with pc := f.pc + 4 }.push ((e.get? n).getD .none)) w := by
    refine .step stands.tail.tail.tail.head ?_
    have got := (he.call native k (show "get" ∈ spaceMethods by decide) [.str n] []).trans (exportsMethod_get _ ns e n w)
    have ran := call_run { f with pc := f.pc + 4 } (List.cons_ne_nil _ _) got
    exact ran
  have stored : Goes (hostAt (k + 1)) 1 ({ f with pc := f.pc + 4 }.push ((e.get? n).getD .none)) w
     ({ f with pc := f.pc + 5 }.stored p (some ((e.get? n).getD .none)))
     (f.worldStored w p (some ((e.get? n).getD .none))) :=
    .step stands.tail.tail.tail.tail.head (Frame.store_run _ { f with pc := f.pc + 5 } w p _)
  exact (ready.trans called).trans stored

/-- What a frame comes to that takes names over from a namespace and does nothing else. -/
structure HasFetched (names : List String) (ns : Ref) (e : Exports Value) (f : Frame) (w : World)
    (g : Frame) (w' : World) : Prop where
  frame : ∃ slots, g = { f with pc := f.pc + 5 * names.length, slots }
  apart : g.Apart w' ns
  native : w'.Native
  isNamespace : IsNamespace w' ns e
  values : ∀ n, g.local? w' n
    = if n ∈ names then some ((e.get? n).getD .none) else f.local? w n

namespace HasFetched

variable {names more : List String} {ns : Ref} {e : Exports Value} {f g k : Frame} {w w' w'' : World}

theorem code (h : HasFetched names ns e f w g w') : g.code = f.code := by
  obtain ⟨slots, rfl⟩ := h.frame
  rfl

theorem pc (h : HasFetched names ns e f w g w') : g.pc = f.pc + 5 * names.length := by
  obtain ⟨slots, rfl⟩ := h.frame
  rfl

theorem trans (h : HasFetched names ns e f w g w') (h' : HasFetched more ns e g w' k w'') :
    HasFetched (names ++ more) ns e f w k w'' where
  frame := by
    obtain ⟨slots, rfl⟩ := h.frame
    obtain ⟨slots', rfl⟩ := h'.frame
    refine ⟨slots', ?_⟩
    rw [List.length_append, Nat.mul_add, Nat.add_assoc]
  apart := h'.apart
  native := h'.native
  isNamespace := h'.isNamespace
  values n := by
    rw [h'.values, h.values]
    by_cases first : n ∈ names
    · simp [first]
    · simp [first]

end HasFetched

structure Houses (c : Code.Unit) (r : Resolved) (params : List String) : Prop where
  top : r.TopFunction
  cells : c.cells = (cellNames r).toArray
  slots : (Code.slotsOf r params).toList <+: c.slots.toList

section

variable {f : Frame} {w : World} {ns : Ref} {e : Exports Value}

theorem fetch_one (k : Nat) (apart : f.Apart w ns) (native : w.Native) (he : IsNamespace w ns e)
    {q p : Spot} {n : String} {kind : Bool} (here : f.valueAt w q = some (.ref ns))
    (hp : spot? f.code n = some p)
    (stands : Stands f.code f.pc
      [q.load, .loadAttr "get", .const (.str n kind), .call 1 [], p.store]) :
    ∃ g w', Goes (hostAt (k + 1)) 5 f w g w' ∧ HasFetched [n] ns e f w g w' := by
  let f' : Frame := { f with pc := f.pc + 5 }
  let v := (e.get? n).getD .none
  have moved : f'.Apart w ns := ⟨apart.slots, apart.cells, apart.nodup, apart.own⟩
  have inside := spot?_within hp
  refine ⟨f'.stored p (some v), f'.worldStored w p (some v), fetch_goes native he here stands, ?_,
    moved.stored inside _, moved.native inside _ native, moved.isNamespace inside _ he, fun m => ?_⟩
  · cases p with
    | cell i => exact ⟨f.slots, rfl⟩
    | slot i => exact ⟨_, rfl⟩
  · rw [moved.local? hp]
    by_cases same : m = n
    · subst same
      simp [v]
    · rw [if_neg same, if_neg (by simpa using same)]
      rfl

theorem fetching_goes {r : Resolved} {params names : List String} {is : List Instr} (k : Nat)
    (fetching : Fetching r (Code.slotsOf r params) names is)
    (own : ∀ n ∈ "__exports__" :: names, r.binding n = .local ∨ r.binding n = .cell)
    (other : "__exports__" ∉ names) (houses : Houses f.code r params)
    (apart : f.Apart w ns) (native : w.Native) (he : IsNamespace w ns e)
    (here : f.local? w "__exports__" = some (.ref ns)) (stands : Stands f.code f.pc is) :
    ∃ g w', Goes (hostAt (k + 1)) (5 * names.length) f w g w' ∧ HasFetched names ns e f w g w' := by
  induction fetching generalizing f w with
  | nil => exact ⟨f, w, .refl _ f w, ⟨f.slots, rfl⟩, apart, native, he, fun n => by simp⟩
  | @cons n kind later is rest ih =>
    have spots {m : String} (hm : m ∈ "__exports__" :: n :: later) :=
      nameInstr_spot houses.top houses.cells List.prefix_rfl houses.slots (own m hm)
    obtain ⟨q, hq, load, -⟩ := spots List.mem_cons_self
    obtain ⟨p, hp, -, store, -⟩ := spots (List.mem_cons_of_mem _ List.mem_cons_self)
    rw [load, store] at stands
    have value : f.valueAt w q = some (.ref ns) := by simpa [Frame.local?, hq] using here
    have front := stands.front [q.load, .loadAttr "get", .const (.str n kind), .call 1 [], p.store]
    obtain ⟨g, w', first, fetched⟩ := fetch_one k apart native he value hp front
    rw [List.mem_cons, not_or] at other
    have still : g.local? w' "__exports__" = some (.ref ns) := by
      rw [fetched.values, if_neg (by simpa using other.1), here]
    have ahead : Stands g.code g.pc is := by
      rw [fetched.code, fetched.pc]
      exact stands.tail.tail.tail.tail.tail
    obtain ⟨g', w'', second, all⟩ := ih (fun m hm => own m (by grind)) other.2 (fetched.code ▸ houses)
      fetched.apart fetched.native fetched.isNamespace still ahead
    refine ⟨g', w'', ?_, fetched.trans all⟩
    have both := first.trans second
    rwa [List.length_cons, Nat.mul_succ]

end

end Notebook.Machine
