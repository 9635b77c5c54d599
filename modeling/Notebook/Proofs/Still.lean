import Notebook.Proofs.Kinds

/-! Executions in which nothing happens to modules: new objects come in and exceptions are raised, while
modules, loaders and what is recorded of them stay as they are. -/

set_option autoImplicit false

namespace Notebook.Machine

def World.object (w : World) (r : Ref) : Obj := w.heap.getD r default

def Payload.isDict : Payload → Bool
  | .dict _ => true
  | _ => false

/-- What stays of an object: its class, and what it is if it is a module, a loader or a dictionary. -/
structure Obj.Stays (o o' : Obj) : Prop where
  cls : o'.cls = o.cls
  module : ∀ n, o.payload = .module n → o'.payload = .module n
  loader : ∀ d, o.payload = .loader d → o'.payload = .loader d
  dict : o.payload.isDict = true → o'.payload.isDict = true

structure Obj.Rests (o o' : Obj) : Prop extends Stays o o' where
  attrs : o'.attrs = o.attrs

namespace Obj

variable {o o' o'' : Obj}

theorem Stays.refl (o : Obj) : o.Stays o := ⟨rfl, fun _ h => h, fun _ h => h, id⟩

theorem Stays.trans (h : o.Stays o') (h' : o'.Stays o'') : o.Stays o'' where
  cls := h'.cls.trans h.cls
  module n hn := h'.module n (h.module n hn)
  loader d hd := h'.loader d (h.loader d hd)
  dict := h'.dict ∘ h.dict

theorem Stays.ofSame (cls : o'.cls = o.cls) (payload : o'.payload = o.payload) : o.Stays o' := by
  refine ⟨cls, ?_, ?_, ?_⟩ <;> simp [payload]

theorem Rests.refl (o : Obj) : o.Rests o := ⟨.refl o, rfl⟩

theorem Rests.trans (h : o.Rests o') (h' : o'.Rests o'') : o.Rests o'' :=
  ⟨h.toStays.trans h'.toStays, h'.attrs.trans h.attrs⟩

end Obj

/-- A world in which the dictionary of the attributes of an object is a dictionary. -/
def World.Recorded (w : World) : Prop :=
  ∀ r d, (w.object r).record = some d → (w.object d).payload.isDict = true

structure World.Still (w w' : World) : Prop where
  cache : w'.cache = w.cache
  hosts : w'.hosts = w.hosts
  size : w.heap.size ≤ w'.heap.size
  objects : ∀ r, r < w.heap.size → (w.object r).Rests (w'.object r)
  records : w.Recorded → w'.Recorded

theorem World.object_push (w : World) (o : Obj) (r : Ref) :
    (w.push o).object r = if r = w.heap.size then { o with record := none } else w.object r :=
  getD_push ..

theorem World.object_out {w : World} {r : Ref} (out : w.heap.size ≤ r) : w.object r = default := by
  rw [World.object, Array.getD_eq_getD_getElem?, Array.getElem?_eq_none out]
  rfl

def World.alter (w : World) (r : Ref) (f : Obj → Obj) : World := { w with heap := w.heap.modify r f }

theorem World.object_alter (w : World) (r s : Ref) (f : Obj → Obj) :
    (w.alter r f).object s = if r = s ∧ s < w.heap.size then f (w.object s) else w.object s :=
  getD_modify ..

theorem World.size_alter (w : World) (r : Ref) (f : Obj → Obj) :
    (w.alter r f).heap.size = w.heap.size := by simp [alter]

theorem World.Recorded.alter {w : World} {r : Ref} {f : Obj → Obj} (h : w.Recorded)
    (record : (f (w.object r)).record = (w.object r).record)
    (dict : (w.object r).payload.isDict = true → (f (w.object r)).payload.isDict = true) :
    (w.alter r f).Recorded := by
  have records (s : Ref) : ((w.alter r f).object s).record = (w.object s).record := by
    rw [World.object_alter]
    split
    next e =>
      obtain ⟨rfl, -⟩ := e
      exact record
    next => rfl
  have dicts (s : Ref) (hs : (w.object s).payload.isDict = true) :
      ((w.alter r f).object s).payload.isDict = true := by
    rw [World.object_alter]
    split
    next e =>
      obtain ⟨rfl, -⟩ := e
      exact dict hs
    next => exact hs
  intro s d hd
  rw [records] at hd
  exact dicts d (h s d hd)

namespace World.Still

variable {w w' w'' : World} {r : Ref} {f : Obj → Obj}

theorem refl (w : World) : w.Still w := ⟨rfl, rfl, Nat.le_refl _, fun _ _ => .refl _, id⟩

theorem trans (h : w.Still w') (h' : w'.Still w'') : w.Still w'' where
  cache := h'.cache.trans h.cache
  hosts := h'.hosts.trans h.hosts
  size := Nat.le_trans h.size h'.size
  objects r hr := (h.objects r hr).trans (h'.objects r (Nat.lt_of_lt_of_le hr h.size))
  records := h'.records ∘ h.records

theorem aside (heap : w'.heap = w.heap) (cache : w'.cache = w.cache) (hosts : w'.hosts = w.hosts) :
    w.Still w' := by
  have same (r : Ref) : w'.object r = w.object r := by rw [World.object, heap, World.object]
  refine ⟨cache, hosts, Nat.le_of_eq (congrArg Array.size heap.symm), fun r _ => ?_, fun h r d => ?_⟩
  · rw [same]
    exact .refl _
  · rw [same, same]
    exact h r d

theorem push (w : World) (o : Obj) : w.Still (w.push o) := by
  refine ⟨rfl, rfl, by simp [World.push], fun r hr => ?_, fun h r d hd => ?_⟩
  · rw [World.object_push, if_neg (Nat.ne_of_lt hr)]
    exact .refl _
  · rw [World.object_push] at hd ⊢
    split at hd
    · cases hd
    · have dict := h r d hd
      split
      next e =>
        rw [World.object_out (Nat.le_of_eq e.symm)] at dict
        cases dict
      next => exact dict

theorem fresh (h : w.Still w') (new : w.heap.size ≤ r)
    (record : (f (w'.object r)).record = (w'.object r).record)
    (dict : (w'.object r).payload.isDict = true → (f (w'.object r)).payload.isDict = true) :
    w.Still (w'.alter r f) where
  cache := h.cache
  hosts := h.hosts
  size := by
    rw [World.size_alter]
    exact h.size
  objects s hs := by
    rw [World.object_alter, if_neg fun (e : r = s ∧ _) => Nat.not_lt.mpr new (e.1 ▸ hs)]
    exact h.objects s hs
  records first := (h.records first).alter record dict

theorem alter (w : World) (rests : (w.object r).Rests (f (w.object r)))
    (record : (f (w.object r)).record = (w.object r).record) : w.Still (w.alter r f) where
  cache := rfl
  hosts := rfl
  size := Nat.le_of_eq (World.size_alter ..).symm
  objects s _ := by
    rw [World.object_alter]
    split
    next e =>
      obtain ⟨rfl, -⟩ := e
      exact rests
    next => exact .refl _
  records before := before.alter record rests.dict

end World.Still

theorem M.leads_of_error {α : Type} {x : M α} {e : Stop} {w w' : World} (h : x.run w = .error e w') :
    w.Leads w' := by
  have leads := x.leads w
  rwa [h] at leads

def M.IsStill {α : Type} (x : M α) : Prop := ∀ w : World, w.Still (worldAfter (x.run w))

namespace M.IsStill

variable {α β : Type}

theorem ofOk {x : M α} {a : α} {w w' : World} (h : x.IsStill) (ran : x.run w = .ok a w') : w.Still w' := by
  have after := h w
  rwa [ran] at after

theorem ofError {x : M α} {e : Stop} {w w' : World} (h : x.IsStill) (ran : x.run w = .error e w') :
    w.Still w' := by
  have after := h w
  rwa [ran] at after

theorem pure (a : α) : (pure a : M α).IsStill := World.Still.refl

theorem throw (e : Stop) : (throw e : M α).IsStill := World.Still.refl

theorem bind {x : M α} {f : α → M β} (hx : x.IsStill) (hf : ∀ a, (f a).IsStill) : (x >>= f).IsStill := by
  intro w
  have first := hx w
  cases ran : x.run w with
  | ok a w₁ =>
    rw [ran] at first
    rw [M.run_bind_ok ran]
    exact first.trans (hf a w₁)
  | error e w₁ =>
    rw [ran] at first
    rwa [M.run_bind_error ran]

theorem ite {c : Prop} [Decidable c] {x y : M α} (hx : x.IsStill) (hy : y.IsStill) :
    (if c then x else y).IsStill := by
  split
  · exact hx
  · exact hy

theorem mapM {f : α → M β} (hf : ∀ a, (f a).IsStill) (as : List α) : (as.mapM f).IsStill := by
  have loop (done : List β) : (List.mapM.loop f as done).IsStill := by
    induction as generalizing done with
    | nil => exact .pure _
    | cons a as ih => exact .bind (hf a) fun b => ih (b :: done)
  exact loop []

theorem read : (read : M World).IsStill := World.Still.refl

theorem alloc (o : Obj) : (alloc o).IsStill := fun w => .push w o

theorem newOf (cls : String) (p : Payload) : (newOf cls p).IsStill := .bind (.alloc _) fun _ => .pure _

theorem change {f : World → World} {heap cache loops hosts} (same : ∀ w, (f w).hosts = w.hosts) :
    (M.change f heap cache loops hosts).IsStill := fun w => .aside (heap w) (cache w) (same w)

end M.IsStill

theorem isStill_modifyException (r : Ref) (f : Exception → Exception) :
    (modifyObj r fun o => match o.payload with
      | .exception e => { o with payload := .exception (f e) }
      | _ => o).IsStill := by
  intro w
  refine .alter w ?_ (Obj.changed_record ..)
  generalize w.object r = o
  obtain ⟨cls, attrs, payload, digest, gaps, record, recordOf⟩ := o
  unfold Obj.changed
  split
  · exact ⟨.ofSame rfl rfl, rfl⟩
  · cases payload
    case exception e =>
      refine ⟨⟨rfl, ?_, ?_, ?_⟩, rfl⟩ <;> intros <;> contradiction
    all_goals exact ⟨.ofSame rfl rfl, rfl⟩

theorem isStill_throwExc {α : Type} (exc : Value) : (throwExc exc : M α).IsStill := by
  unfold throwExc
  refine .bind .read fun w => ?_
  cases exc with
  | ref r =>
    refine .ite (.bind ?_ fun _ => .throw _) (.bind (.pure _) fun _ => .throw _)
    exact isStill_modifyException r fun e => { e with context := w.handled }
  | _ => exact .bind (.pure _) fun _ => .throw _

theorem isStill_raise {α : Type} (cls message : String) : (raise cls message : M α).IsStill :=
  .bind (.newOf _ _) fun _ => isStill_throwExc _

theorem isStill_addTrace (f : Frame) (exc : Value) : (addTrace f exc).IsStill := by
  cases exc with
  | ref r => exact isStill_modifyException r fun e => { e with traces := _ :: e.traces }
  | _ => exact .pure _

end Notebook.Machine
