import Notebook.Proofs.Namespace
import Notebook.Realm

/-! Kinds of errors: an object keeps its class and a class its order, so what is of a kind stays of that
kind. -/

set_option autoImplicit false

namespace Notebook.Machine

def Payload.class? : Payload → Option Class
  | .class c => some c
  | _ => none

def Obj.order (o : Obj) : List Ref := (o.payload.class?.map (·.order)).getD []

def World.classOf (w : World) : Value → Ref
  | .ref r => (w.heap.getD r default).cls
  | v => nativeRef v.immediateClass

/-- Whether a value is of a native class. -/
def World.isKind (w : World) (v : Value) (cls : String) : Bool :=
  (w.heap.getD (w.classOf v) default).order.contains (nativeRef cls)

theorem orderOf_run (c : Ref) (w : World) : (orderOf c).run w = .ok (w.heap.getD c default).order w := by
  have asked : (class? c).run w = .ok (w.heap.getD c default).payload.class? w := by
    unfold Machine.class?
    rw [M.run_bind_ok (obj_run c w)]
    cases (w.heap.getD c default).payload <;> rfl
  exact M.run_bind_ok asked

theorem isError_run (v : Value) (cls : String) (w : World) :
    (isError v cls).run w = .ok (w.isKind v cls) w := by
  have found : (Machine.classOf v).run w = .ok (w.classOf v) w := by cases v <;> rfl
  unfold isError isA isSubclass
  rw [M.run_bind_ok found, M.run_bind_ok (orderOf_run _ w)]
  rfl

theorem Obj.Keeps.of_mem_order {r c : Ref} {o o' : Obj} (h : o.Keeps r o') (member : c ∈ o.order) :
    c ∈ o'.order := by
  unfold Obj.order at member ⊢
  cases payload : o.payload with
  | «class» d =>
    obtain ⟨d', payload', same⟩ := h.order d payload
    rw [payload] at member
    rw [payload']
    change c ∈ d'.order
    rw [same]
    exact member
  | _ =>
    rw [payload] at member
    cases member

/-! Worlds in which native classes are in place. -/

structure World.Sane (w : World) : Prop where
  native : w.Native
  size : natives.length ≤ w.heap.size

namespace World.Sane

variable {w w' : World}

theorem start (cache : Module.Cache Ref) : (World.start cache).Sane :=
  ⟨fun _ _ => .refl _, by simp [World.start, firstHeap]⟩

theorem leads (h : w.Sane) (leads : w.Leads w') : w'.Sane where
  native r hr := (h.native r hr).trans ((leads.objects r (Nat.lt_of_lt_of_le hr h.size)).native hr)
  size := Nat.le_trans h.size leads.size

theorem order (h : w.Sane) {r : Ref} (hr : r < natives.length) :
    (w.heap.getD r default).order = (firstHeap.getD r default).order := by
  rw [Obj.order, (h.native r hr).payload, Obj.order]

end World.Sane

def Special (cls : String) : Prop := nativeRef cls ∉ (firstHeap.getD 0 default).order

theorem World.Leads.isKind {w w' : World} (leads : w.Leads w') (sane : w.Sane) {v : Value} {cls : String}
    (special : Special cls) (kind : w.isKind v cls = true) : w'.isKind v cls = true := by
  have natural : 0 < natives.length := Nat.zero_lt_of_lt object_lt
  unfold World.isKind at kind ⊢
  rw [List.contains_iff_mem] at kind ⊢
  have classes : w'.classOf v = w.classOf v := by
    cases v with
    | ref r =>
      by_cases there : r < w.heap.size
      · exact (leads.objects r there).cls
      · have none : w.classOf (.ref r) = 0 := by
          change (w.heap.getD r default).cls = 0
          rw [Array.getD_eq_getD_getElem?, Array.getElem?_eq_none (Nat.not_lt.mp there)]
          rfl
        rw [none, sane.order natural] at kind
        exact absurd kind special
    | _ => rfl
  rw [classes]
  by_cases there : w.classOf v < w.heap.size
  · exact (leads.objects _ there).of_mem_order kind
  · rw [Array.getD_eq_getD_getElem?, Array.getElem?_eq_none (Nat.not_lt.mp there)] at kind
    cases kind

/-- A change that leaves native classes in place and everything of its kind. -/
structure World.Firm (w w' : World) : Prop where
  sane : w.Sane → w'.Sane
  kinds : w.Sane → ∀ {v cls}, Special cls → w.isKind v cls = true → w'.isKind v cls = true

namespace World.Firm

variable {w w' w'' : World}

theorem ofLeads (leads : w.Leads w') : w.Firm w' :=
  ⟨fun sane => sane.leads leads, fun sane _ _ => leads.isKind sane⟩

theorem ofHeap (same : w'.heap = w.heap) : w.Firm w' := by
  have firm : w.Firm { w' with cache := w.cache, hosts := w.hosts } := .ofLeads (.aside same rfl)
  exact ⟨fun sane => ⟨(firm.sane sane).native, (firm.sane sane).size⟩, firm.kinds⟩

theorem trans (h : w.Firm w') (h' : w'.Firm w'') : w.Firm w'' :=
  ⟨fun sane => h'.sane (h.sane sane),
    fun sane _ _ special kind => h'.kinds (h.sane sane) special (h.kinds sane special kind)⟩

end World.Firm

set_option maxRecDepth 100000 in
theorem special_exception : Special "Exception" := by unfold Special; decide +kernel

set_option maxRecDepth 100000 in
theorem special_keyboardInterrupt : Special "KeyboardInterrupt" := by unfold Special; decide +kernel

/-! New errors. -/

def NativeKind (cls kind : String) : Prop :=
  nativeRef cls < natives.length ∧ nativeRef kind ∈ (firstHeap.getD (nativeRef cls) default).order

theorem isKind_newException {cls kind : String} (h : NativeKind cls kind) (args : List Value) {w : World}
    (sane : w.Sane) :
    ∃ v w', (newException cls args).run w = .ok v w' ∧ w'.isKind v kind = true := by
  let o : Obj := { cls := nativeRef cls, payload := .exception { args } }
  refine ⟨.ref w.heap.size, w.push o, rfl, ?_⟩
  have class_ : (w.push o).classOf (.ref w.heap.size) = nativeRef cls := by
    unfold World.classOf World.push
    dsimp only
    rw [getD_push, if_pos rfl]
  have pushed : (w.push o).Sane := sane.leads (.push w o)
  unfold World.isKind
  rw [List.contains_iff_mem, class_, pushed.order h.1]
  exact h.2

set_option maxRecDepth 100000 in
/-- The order of the classes is computed once for all the errors that are made anew. -/
theorem nativeKinds : ∀ p ∈ [("Interrupted", "Exception"), ("CellError", "Exception"), ("RecursionError", "Exception"),
    ("CancelledError", "CancelledError"), ("NameError", "NameError"), ("UnboundLocalError", "NameError"),
    ("NameError", "BaseException")], NativeKind p.1 p.2 := by
  unfold NativeKind
  decide +kernel

/-! Data as values: nothing of it fails. -/

def M.Returns {α : Type} (x : M α) : Prop := ∀ w, ∃ a w', x.run w = .ok a w'

theorem M.Returns.bind {α β : Type} {x : M α} {f : α → M β} (hx : x.Returns) (hf : ∀ a, (f a).Returns) :
    (x >>= f).Returns := by
  intro w
  obtain ⟨a, w₁, first⟩ := hx w
  obtain ⟨b, w₂, second⟩ := hf a w₁
  exact ⟨b, w₂, (M.run_bind_ok first).trans second⟩

theorem M.Returns.pure {α : Type} (a : α) : (pure a : M α).Returns := fun w => ⟨a, w, rfl⟩

theorem M.Returns.newOf (cls : String) (p : Payload) : (newOf cls p).Returns :=
  fun w => ⟨.ref w.heap.size, w.push { cls := nativeRef cls, payload := p }, rfl⟩

/-- A value is made, and nothing happens to the objects that are there. -/
def M.Makes {α : Type} (x : M α) : Prop := ∀ w, ∃ a w', x.run w = .ok a w' ∧ w.Grows w'

theorem M.Makes.bind {α β : Type} {x : M α} {f : α → M β} (hx : x.Makes) (hf : ∀ a, (f a).Makes) :
    (x >>= f).Makes := by
  intro w
  obtain ⟨a, w₁, first, grows⟩ := hx w
  obtain ⟨b, w₂, second, grows'⟩ := hf a w₁
  exact ⟨b, w₂, (M.run_bind_ok first).trans second, grows.trans grows'⟩

theorem M.Makes.pure {α : Type} (a : α) : (pure a : M α).Makes := fun w => ⟨a, w, rfl, .refl w⟩

theorem M.Makes.newOf (cls : String) (p : Payload) : (newOf cls p).Makes :=
  fun w => ⟨_, _, rfl, .push w rfl⟩

mutual

theorem makes_ofDatum : ∀ d : Datum, (ofDatum d).Makes
  | .none | .bool _ | .int _ | .float _ | .str _ | .bytes _ | .set _ | .date _ | .moment _ => by
    unfold ofDatum
    exact .pure _
  | .list xs => by
    unfold ofDatum
    exact .bind (makes_ofData xs) fun _ => .newOf _ _
  | .dict es => by
    unfold ofDatum
    exact .bind (makes_ofEntries es) fun _ => .newOf _ _

theorem makes_ofData : ∀ xs : List Datum, (ofData xs).Makes
  | [] => by
    unfold ofData
    exact .pure _
  | x :: xs => by
    unfold ofData
    exact .bind (makes_ofDatum x) fun _ => .bind (makes_ofData xs) fun _ => .pure _

theorem makes_ofEntries : ∀ es : List (Datum × Datum), (ofEntries es).Makes
  | [] => by
    unfold ofEntries
    exact .pure _
  | (k, x) :: es => by
    unfold ofEntries
    exact .bind (makes_ofDatum k) fun _ =>
      .bind (makes_ofDatum x) fun _ => .bind (makes_ofEntries es) fun _ => .pure _

end

end Notebook.Machine
