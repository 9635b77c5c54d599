import Notebook.Proofs.Execution

/-! The namespace of exports as programs see it: an object of a native class whose methods read and
write its names. -/

set_option autoImplicit false

namespace Notebook.Machine

/-! Native classes. -/

theorem firstHeap_attrs (r : Ref) : (firstHeap.getD r default).attrs = [] := by
  unfold firstHeap
  rw [Array.getD_eq_getD_getElem?, List.getElem?_toArray, List.getElem?_map]
  cases natives[r]? with
  | none => rfl
  | some n => rfl

def World.Native (w : World) : Prop :=
  ∀ r, r < natives.length → (firstHeap.getD r default).Like (w.heap.getD r default)

theorem World.Native.attrs {w : World} (h : w.Native) {r : Ref} (hr : r < natives.length) :
    (w.heap.getD r default).attrs = [] := (h r hr).attrs.trans (firstHeap_attrs r)

theorem World.Native.orderOf {w : World} (h : w.Native) {r : Ref} (hr : r < natives.length)
    {c : Class} (hc : (firstHeap.getD r default).payload = .class c) :
    (orderOf r).run w = .ok c.order w := by
  have payload := (h r hr).payload.trans hc
  have class_ : (class? r).run w = .ok (some c) w := by
    unfold class?
    rw [M.run_bind_ok (obj_run r w)]
    simp only [payload]
    rfl
  exact M.run_bind_ok class_

theorem findDefined_native {w : World} (h : w.Native) (name : String) {order : List Ref}
    (ho : ∀ r ∈ order, r < natives.length) : (findDefined name order).run w = .ok none w := by
  induction order with
  | nil => rfl
  | cons c cs ih =>
    unfold findDefined
    rw [M.run_bind_ok (obj_run c w), h.attrs (ho c List.mem_cons_self)]
    exact ih fun r hr => ho r (List.mem_cons_of_mem _ hr)

/-! The namespace. -/

def exportsClass : Ref := nativeRef "ExportNamespace"

def exportsInfo : Class :=
  { name := "ExportNamespace", qualifiedName := "ExportNamespace", module := "pycell.cell_namespace"
    bases := [nativeRef "object"], order := [exportsClass, nativeRef "object"] }

set_option maxRecDepth 100000 in
theorem exportsClass_lt : exportsClass < natives.length := by decide +kernel

set_option maxRecDepth 100000 in
theorem object_lt : nativeRef "object" < natives.length := by decide +kernel

set_option maxRecDepth 100000 in
theorem exportsClass_payload : (firstHeap.getD exportsClass default).payload = .class exportsInfo := by
  rfl

def bodyMethods : List String := ["get", "assign", "remove"]

def spaceMethods : List String :=
  bodyMethods ++ ["snapshot", "clear", "pop", "popitem", "setdefault", "update"]

theorem spaceMethods_of_body {m : String} (hm : m ∈ bodyMethods) : m ∈ spaceMethods :=
  List.mem_append_left _ hm

@[elab_as_elim]
theorem spaceMethods_cases {P : String → Prop} {m : String} (hm : m ∈ spaceMethods) (get : P "get")
    (assign : P "assign") (remove : P "remove") (snapshot : P "snapshot") (clear : P "clear")
    (pop : P "pop") (popitem : P "popitem") (setdefault : P "setdefault") (update : P "update") : P m := by
  simp only [spaceMethods, bodyMethods, List.cons_append, List.nil_append, List.mem_cons,
    List.not_mem_nil, or_false] at hm
  rcases hm with rfl | rfl | rfl | rfl | rfl | rfl | rfl | rfl | rfl <;> assumption

/-- A namespace at a place of the heap, with the methods of its class. -/
structure IsNamespace (w : World) (r : Ref) (e : Exports Value) : Prop where
  cls : (w.heap.getD r default).cls = exportsClass
  payload : (w.heap.getD r default).payload = .exports e
  own : ∀ m ∈ bodyMethods, (w.heap.getD r default).attrs.lookup m = none

namespace IsNamespace

variable {w : World} {r : Ref} {e : Exports Value}

theorem same {w' : World} (h : IsNamespace w r e) (same : w'.heap.getD r default = w.heap.getD r default) :
    IsNamespace w' r e :=
  ⟨same ▸ h.cls, same ▸ h.payload, same ▸ h.own⟩

theorem orderOf (native : w.Native) :
    (Machine.orderOf exportsClass).run w = .ok [exportsClass, nativeRef "object"] w :=
  native.orderOf exportsClass_lt exportsClass_payload

theorem special? (h : IsNamespace w r e) (native : w.Native) (name : String) :
    (Machine.special? (.ref r) name).run w = .ok none w := by
  unfold Machine.special?
  rw [M.run_bind_ok (obj_run r w), h.cls, M.run_bind_ok (orderOf native)]
  refine findDefined_native native name fun c hc => ?_
  simp only [List.mem_cons, List.not_mem_nil, or_false] at hc
  rcases hc with rfl | rfl
  · exact exportsClass_lt
  · exact object_lt

theorem findInOrder (native : w.Native) {name : String}
    (hm : hasMethod "ExportNamespace" name = true) :
    (Machine.findInOrder name [exportsClass, nativeRef "object"]).run w
      = .ok (some (.native "ExportNamespace" name)) w := by
  have payload := (native exportsClass exportsClass_lt).payload.trans exportsClass_payload
  have name_ : exportsInfo.name = "ExportNamespace" := rfl
  unfold Machine.findInOrder
  rw [M.run_bind_ok (obj_run exportsClass w), native.attrs exportsClass_lt]
  simp only [List.lookup_nil, payload, name_, exportsClass_lt, hm, decide_true, Bool.and_self, if_true]
  rfl

theorem kindOf {m : String} (hm : m ∈ spaceMethods) :
    Machine.kindOf (.native "ExportNamespace" m) = pure .function :=
  spaceMethods_cases hm rfl rfl rfl rfl rfl rfl rfl rfl rfl

theorem hasMethod_space {m : String} (hm : m ∈ spaceMethods) : hasMethod "ExportNamespace" m = true := by
  refine spaceMethods_cases hm ?_ ?_ ?_ ?_ ?_ ?_ ?_ ?_ ?_ <;> decide

theorem findAttr? (h : IsNamespace w r e) (native : w.Native) (host : Host) {m : String}
    (hm : m ∈ spaceMethods) (own : (w.heap.getD r default).attrs.lookup m = none) :
    (Machine.findAttr? host (.ref r) m).run w
      = .ok (some (.bound (.ref r) (.native "ExportNamespace" m))) w := by
  have cls : (classOf (.ref r)).run w = .ok exportsClass w := by
    rw [← h.cls]
    rfl
  have payload : (Machine.payload (.ref r)).run w = .ok (.exports e) w := by
    rw [← h.payload]
    rfl
  have plain : (m == "__class__") = false ∧ (m == "__dict__") = false := by
    refine spaceMethods_cases hm ?_ ?_ ?_ ?_ ?_ ?_ ?_ ?_ ?_ <;> exact ⟨rfl, rfl⟩
  unfold Machine.findAttr?
  rw [M.run_bind_ok cls, M.run_bind_ok payload]
  simp only [plain, Bool.false_eq_true, if_false]
  rw [M.run_bind_ok (orderOf native), M.run_bind_ok (findInOrder native (hasMethod_space hm))]
  have bound : (Machine.bind host m (.native "ExportNamespace" m) (.ref r) exportsClass).run w
      = .ok (.bound (.ref r) (.native "ExportNamespace" m)) w := by
    unfold Machine.bind
    rw [kindOf hm]
    rfl
  simp only [kindOf hm]
  rw [M.run_bind_ok (M.run_pure Kind.function w), M.run_bind_ok (M.run_pure false w),
    M.run_bind_ok (own?_run r m w), own]
  exact M.run_bind_ok bound

theorem getAttr (h : IsNamespace w r e) (native : w.Native) (host : Host) {m : String}
    (hm : m ∈ spaceMethods) (own : (w.heap.getD r default).attrs.lookup m = none) :
    (Machine.getAttr host (.ref r) m).run w
      = .ok (.bound (.ref r) (.native "ExportNamespace" m)) w := by
  have payload : (Machine.payload (.ref r)).run w = .ok (.exports e) w := by
    rw [← h.payload]
    rfl
  have fallback : (fallback? (.ref r)).run w = .ok none w := by
    unfold fallback?
    rw [M.run_bind_ok (h.special? native _), M.run_bind_ok payload]
    rfl
  have found : (getAttr? host (.ref r) m).run w
      = .ok (some (.bound (.ref r) (.native "ExportNamespace" m))) w := by
    unfold getAttr?
    rw [M.run_bind_ok fallback, M.run_bind_ok (h.special? native _)]
    exact h.findAttr? native host hm own
  exact M.run_bind_ok found

theorem accepts (h : IsNamespace w r e) (native : w.Native) :
    (Machine.accepts "ExportNamespace" (.ref r)).run w = .ok true w := by
  have unclassed : (asClass (.ref r)).run w = .ok none w := by
    unfold asClass class?
    rw [M.run_bind_ok (obj_run r w), h.payload]
    rfl
  have cls : (classOf (.ref r)).run w = .ok exportsClass w := by
    rw [← h.cls]
    rfl
  have derived : (isSubclass exportsClass exportsClass).run w = .ok true w := by
    unfold isSubclass
    rw [M.run_bind_ok (orderOf native)]
    simp [M.run_pure]
  unfold Machine.accepts
  rw [M.run_bind_ok unclassed]
  exact (M.run_bind_ok cls).trans derived

theorem call (h : IsNamespace w r e) (native : w.Native) (k : Nat) {m : String}
    (hm : m ∈ spaceMethods) (args : List Value) (keywords : Names) :
    ((hostAt (k + 1)).call (.bound (.ref r) (.native "ExportNamespace" m)) args keywords).run w
      = (exportsMethod (hostAt k) r e m args keywords).run w := by
  have payload : (Machine.payload (.ref r)).run w = .ok (.exports e) w := by
    rw [← h.payload]
    rfl
  have accepted := h.accepts native
  have called : (hostAt (k + 1)).call (.bound (.ref r) (.native "ExportNamespace" m)) args keywords
      = callMethod (hostAt k) "ExportNamespace" m (.ref r) args keywords := by
    refine spaceMethods_cases hm ?_ ?_ ?_ ?_ ?_ ?_ ?_ ?_ ?_ <;> rfl
  have arity : arity? m = none := by
    refine spaceMethods_cases hm ?_ ?_ ?_ ?_ ?_ ?_ ?_ ?_ ?_ <;> decide
  have special : specialMethod? (hostAt k) m (.ref r) args keywords = pure none := by
    refine spaceMethods_cases hm ?_ ?_ ?_ ?_ ?_ ?_ ?_ ?_ ?_ <;> rfl
  rw [called]
  unfold callMethod
  rw [M.run_bind_ok accepted]
  simp only [Bool.not_true, Bool.false_eq_true, if_false, arity, special]
  rw [M.run_bind_ok (M.run_pure none w)]
  unfold payloadMethod
  rw [M.run_bind_ok payload]

end IsNamespace

/-- A world in which all is as before but for new objects, which have no attributes yet. -/
structure World.Grows (w w' : World) : Prop where
  size : w.heap.size ≤ w'.heap.size
  objects : ∀ r, r < w.heap.size → w'.heap.getD r default = w.heap.getD r default
  attrs : ∀ r, (w'.heap.getD r default).attrs = (w.heap.getD r default).attrs

theorem World.Grows.push (w : World) {o : Obj} (plain : o.attrs = []) : w.Grows (w.push o) where
  size := by simp [World.push]
  objects r hr := by rw [World.push, getD_push, if_neg (Nat.ne_of_lt hr)]
  attrs r := by
    rw [World.push, getD_push]
    split
    next same =>
      rw [same, Array.getD_eq_getD_getElem?, Array.getElem?_eq_none (Nat.le_refl _)]
      exact plain
    next => rfl

theorem World.Grows.refl (w : World) : w.Grows w := ⟨Nat.le_refl _, fun _ _ => rfl, fun _ => rfl⟩

theorem World.Grows.trans {w w' w'' : World} (h : w.Grows w') (h' : w'.Grows w'') : w.Grows w'' where
  size := Nat.le_trans h.size h'.size
  objects r hr := (h'.objects r (Nat.lt_of_lt_of_le hr h.size)).trans (h.objects r hr)
  attrs r := (h'.attrs r).trans (h.attrs r)

end Notebook.Machine
