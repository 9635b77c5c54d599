import Notebook.Proofs.FromImport
import Notebook.Proofs.Guarded

/-! Executions that come to an end: they return or raise, and nothing happens to modules. Among them are the
look-up of a name in a module, and calls of modules and of classes of exceptions. -/

set_option autoImplicit false

namespace Notebook.Machine

open Notebook.Text

theorem M.Ends.leads {α : Type} {x : M α} {w : World} {Q : α → World → Prop} {E : Stop → World → Prop}
    (h : x.Ends w Q E) : x.Ends w (fun a w' => Q a w' ∧ w.Leads w') fun e w' => E e w' ∧ w.Leads w' := by
  have leads := x.leads w
  unfold Ends at h ⊢
  split <;> rename_i ran <;> rw [ran] at h leads <;> exact ⟨h, leads⟩

theorem M.Ends.after {α β : Type} {x : M α} {f : α → M β} {a : α} {w : World} {Q : β → World → Prop}
    {E : Stop → World → Prop} (ran : x.run w = .ok a w) (rest : (f a).Ends w Q E) : (x >>= f).Ends w Q E := by
  unfold Ends
  rwa [M.run_bind_ok ran]

def Raises (w : World) (e : Stop) (w' : World) : Prop := w.Still w' ∧ ∃ exc, e = .raised exc

/-- An execution that returns or raises, in which nothing happens to modules. -/
def M.Settles {α : Type} (x : M α) (w : World) : Prop := x.Ends w (fun _ w' => w.Still w') (Raises w)

namespace M.Settles

variable {α β : Type} {w : World}

theorem ofOk {x : M α} {a : α} {w' : World} (ran : x.run w = .ok a w') (still : w.Still w') : x.Settles w :=
  M.Ends.ofOk ran still

theorem ofSame {x : M α} {a : α} (ran : x.run w = .ok a w) : x.Settles w := .ofOk ran (.refl w)

theorem pure (a : α) : (pure a : M α).Settles w := .ofSame rfl

theorem bind {x : M α} {f : α → M β} (first : x.Settles w)
    (rest : ∀ a w', x.run w = .ok a w' → w.Still w' → (f a).Settles w') : (x >>= f).Settles w := by
  unfold Settles M.Ends at first
  cases ran : x.run w with
  | ok a w' =>
    rw [ran] at first
    refine M.Ends.bind (.ofOk ran ((rest a w' ran first).mono (fun _ _ => first.trans) fun e w'' failed => ?_))
    exact ⟨first.trans failed.1, failed.2⟩
  | error e w' =>
    rw [ran] at first
    exact M.Ends.bind (.ofError ran first)

theorem after {x : M α} {f : α → M β} {a : α} (ran : x.run w = .ok a w) (rest : (f a).Settles w) :
    (x >>= f).Settles w := M.Ends.after ran rest

theorem ite {c : Prop} [Decidable c] {x y : M α} (hx : c → x.Settles w) (hy : ¬ c → y.Settles w) :
    (if c then x else y).Settles w := by
  split
  next h => exact hx h
  next h => exact hy h

theorem raise (cls message : String) : (raise cls message : M α).Settles w :=
  raise_ends cls message fun e _ still => ⟨still, e, rfl⟩

theorem throw (exc : Value) : (throw (.raised exc) : M α).Settles w :=
  M.Ends.ofError rfl ⟨.refl w, exc, rfl⟩

theorem onError {x : M α} {other : Value → M α} {cls : String} (first : x.Settles w)
    (rest : ∀ e w', w.Still w' → (other e).Settles w') : (onError cls x other).Settles w := by
  unfold Machine.onError Settles
  unfold Settles M.Ends at first
  cases ran : x.run w with
  | ok a w' =>
    rw [ran] at first
    exact M.Ends.bind (.ofOk (attempt_ok ran) (.pure first))
  | error e w' =>
    rw [ran] at first
    obtain ⟨still, exc, rfl⟩ := first
    refine M.Ends.bind (.ofOk (attempt_raised ran) ?_)
    have settled : (do if ← isError exc cls then other exc else MonadExcept.throw (.raised exc) : M α).Settles w' :=
      .after (isError_run exc cls w') (.ite (fun _ => rest exc w' still) fun _ => .throw exc)
    exact settled.mono (fun _ _ => still.trans) fun _ _ failed => ⟨still.trans failed.1, failed.2⟩

theorem cases {x : M α} (h : x.Settles w) :
    (∃ a w', x.run w = .ok a w' ∧ w.Still w') ∨ ∃ e w', x.run w = .error (.raised e) w' ∧ w.Still w' := by
  unfold Settles M.Ends at h
  cases ran : x.run w with
  | ok a w' =>
    rw [ran] at h
    exact .inl ⟨a, w', rfl, h⟩
  | error e w' =>
    rw [ran] at h
    obtain ⟨still, exc, rfl⟩ := h
    exact .inr ⟨exc, w', rfl, still⟩

end M.Settles

/-! Reading classes. -/

section

variable {w : World}

theorem classOf_run (v : Value) (w : World) : (classOf v).run w = .ok (w.classOf v) w := by cases v <;> rfl

theorem class?_run (r : Ref) (w : World) : (class? r).run w = .ok (w.object r).payload.class? w := by
  unfold Machine.class? World.object
  rw [M.run_bind_ok (obj_run r w)]
  cases (w.heap.getD r default).payload <;> rfl

theorem typeName_run (v : Value) (w : World) : ∃ s, (typeName v).run w = .ok s w := by
  have named : (className (w.classOf v)).run w
      = .ok (((w.object (w.classOf v)).payload.class?.map (·.name)).getD "object") w :=
    M.run_bind_ok (class?_run _ w)
  exact ⟨_, (M.run_bind_ok (classOf_run v w)).trans named⟩

theorem payload_run (r : Ref) (w : World) : (payload (.ref r)).run w = .ok (w.object r).payload w := rfl

theorem notCallable_ends {α : Type} {Q : α → World → Prop} (v : Value) : (notCallable v : M α).Ends w Q (Raises w) := by
  obtain ⟨s, named⟩ := typeName_run v w
  exact .after named (raise_ends _ _ fun e _ still => ⟨still, e, rfl⟩)

end

/-! Native classes. -/

theorem nativeIndex_lookup {name : String} {i : Nat} (found : nativeIndex.lookup name = some i) :
    ∃ n, natives[i]? = some n ∧ n.name = name := by
  obtain ⟨before, after, same, -⟩ := List.lookup_eq_some_iff.mp found
  have member : (name, i) ∈ nativeIndex := by simp [same]
  obtain ⟨⟨n, k⟩, inside, here⟩ := List.mem_map.mp member
  cases here
  exact ⟨n, List.mk_mem_zipIdx_iff_getElem?.mp inside, rfl⟩

theorem native_name {r : Ref} {n : Native} (there : natives[r]? = some n) :
    ∃ k, natives[nativeRef n.name]? = some k ∧ k.name = n.name := by
  have member : (n.name, r) ∈ nativeIndex :=
    List.mem_map.mpr ⟨(n, r), List.mk_mem_zipIdx_iff_getElem?.mpr there, rfl⟩
  unfold nativeRef
  cases found : nativeIndex.lookup n.name with
  | none => simpa using List.lookup_eq_none_iff.mp found _ member
  | some i => exact nativeIndex_lookup found

theorem nativeRef_lt (name : String) : nativeRef name < natives.length := by
  unfold nativeRef
  cases found : nativeIndex.lookup name with
  | none => exact List.length_pos_iff.mpr (List.cons_ne_nil _ _)
  | some i =>
    obtain ⟨n, there, -⟩ := nativeIndex_lookup found
    exact (List.getElem?_eq_some_iff.mp there).1

theorem firstHeap_native {r : Ref} {n : Native} (there : natives[r]? = some n) :
    (firstHeap.getD r default).cls = nativeRef "type" ∧
      (∃ c, (firstHeap.getD r default).payload = .class c ∧ c.name = n.name) ∧
      (firstHeap.getD r default).order = (ancestors n.name).map nativeRef := by
  unfold firstHeap
  rw [Array.getD_eq_getD_getElem?, List.getElem?_toArray, List.getElem?_map, there]
  exact ⟨rfl, ⟨_, rfl, rfl⟩, rfl⟩

theorem firstHeap_order {r : Ref} (inside : r < natives.length) {c : Ref}
    (member : c ∈ (firstHeap.getD r default).order) : c < natives.length := by
  obtain ⟨-, -, order⟩ := firstHeap_native (List.getElem?_eq_getElem inside)
  rw [order] at member
  obtain ⟨name, -, rfl⟩ := List.mem_map.mp member
  exact nativeRef_lt name

/-! Modules as programs see them. -/

section

variable {w : World} {h : Host} {m : Ref}

def World.IsPlain (w : World) (r : Ref) : Prop := (w.object r).cls < natives.length

theorem order_native {c : Ref} (native : w.Native) (inside : c < natives.length) :
    (orderOf c).run w = .ok (firstHeap.getD c default).order w := by
  rw [orderOf_run]
  have same : (w.heap.getD c default).order = (firstHeap.getD c default).order := by
    unfold Obj.order
    rw [(native c inside).payload]
  rw [same]

theorem World.IsPlain.special? {r : Ref} (plain : w.IsPlain r) (native : w.Native) (name : String) :
    (Machine.special? (.ref r) name).run w = .ok none w := by
  unfold Machine.special?
  rw [M.run_bind_ok (obj_run r w)]
  exact (M.run_bind_ok (order_native native plain)).trans (findDefined_native native name fun _ => firstHeap_order plain)

theorem findInOrder_native (native : w.Native) (name : String) {order : List Ref}
    (inside : ∀ r ∈ order, r < natives.length) :
    (findInOrder name order).run w = .ok none w ∨ ∃ k, (findInOrder name order).run w = .ok (some (.native k name)) w := by
  induction order with
  | nil => exact .inl rfl
  | cons c cs ih =>
    have later := ih fun r member => inside r (List.mem_cons_of_mem _ member)
    unfold findInOrder
    rw [M.run_bind_ok (obj_run c w), native.attrs (inside c List.mem_cons_self)]
    obtain ⟨k, payload⟩ := firstHeap_class (inside c List.mem_cons_self)
    have now := (native c (inside c List.mem_cons_self)).payload.trans payload
    simp only [List.lookup_nil, now]
    split
    · exact .inr ⟨k.name, rfl⟩
    · exact later

theorem World.IsModule.plain (is : w.IsModule m) : w.IsPlain m := by
  unfold World.IsPlain
  rw [is.cls]
  exact nativeRef_lt _

theorem callModule_ends {Q : Value → World → Prop} (native : w.Native) (is : w.IsModule m) (args : List Value)
    (keywords : Names) : ((deeper h).call (.ref m) args keywords).Ends w Q (Raises w) := by
  obtain ⟨name, payload⟩ := is.payload
  change (callObject h m args keywords).Ends w Q (Raises w)
  unfold callObject
  refine .after (obj_run m w) ?_
  change (w.heap.getD m default).payload = _ at payload
  simp only [payload]
  exact .after (is.plain.special? native _) (notCallable_ends _)

inductive Methodical : Kind → Prop
  | function : Methodical .function
  | staticMethod (f : Value) : Methodical (.staticMethod f)
  | classMethod (f : Value) : Methodical (.classMethod f)

theorem kindOf_native (k name : String) (w : World) :
    ∃ kind, (kindOf (.native k name)).run w = .ok kind w ∧ Methodical kind := by
  unfold kindOf
  split
  all_goals first
    | exact ⟨_, rfl, .staticMethod _⟩
    | exact ⟨_, rfl, .classMethod _⟩
    | exact ⟨_, rfl, .function⟩
    | skip
  all_goals simp_all

theorem settles_bindMethod (k name n : String) (self : Value) (cls : Ref) :
    (bind h n (.native k name) self cls).Settles w := by
  obtain ⟨kind, asked, methodical⟩ := kindOf_native k name w
  unfold Machine.bind
  refine .after asked ?_
  cases methodical <;> exact .pure _

theorem settles_recordOf (r : Ref) (w : World) : (recordOf r).Settles w := by
  unfold recordOf
  refine .after (obj_run r w) ?_
  split
  next d linked => exact .pure _
  next =>
    refine .after (obj_run r w) ?_
    generalize entriesOfNames (w.heap.getD r default).attrs = es
    let dict : Obj := { cls := nativeRef "dict", payload := .dict es, recordOf := some r }
    let w₁ := w.push dict
    let f (o : Obj) : Obj := { o with record := if w.heap.size < w₁.heap.size then some w.heap.size else o.record }
    have made : (alloc dict).run w = .ok w.heap.size w₁ := rfl
    have linked : (linkRecord r w.heap.size).run w₁ = .ok () (w₁.alter r f) := rfl
    have own (s : Ref) : ((w₁.alter r f).object s).payload = (w₁.object s).payload := by
      rw [World.object_alter]
      split <;> rfl
    have still : w.Still (w₁.alter r f) := by
      have pushed := World.Still.push w dict
      refine ⟨rfl, rfl, ?_, fun s inside => (pushed.objects s inside).trans ?_, fun before s d record => ?_⟩
      · rw [World.size_alter]
        exact pushed.size
      · rw [World.object_alter]
        split
        · exact ⟨.ofSame rfl rfl, rfl⟩
        · exact .refl _
      · rw [own]
        rw [World.object_alter] at record
        have there : w.heap.size < w₁.heap.size := by simp [w₁, World.push]
        split at record
        · simp only [f, there, if_true, Option.some.injEq] at record
          rw [← record, World.object_push, if_pos rfl]
          rfl
        · exact pushed.records before s d record
    refine .ofOk (a := .ref w.heap.size) ?_ still
    rw [M.run_bind_ok made, M.run_bind_ok linked]
    rfl

/-- Executions that only read. -/
def M.Reads {α : Type} (x : M α) : Prop := ∀ w, ∃ a, x.run w = .ok a w

namespace M.Reads

variable {α β : Type}

theorem bind {x : M α} {f : α → M β} (hx : x.Reads) (hf : ∀ a, (f a).Reads) : (x >>= f).Reads := by
  intro w
  obtain ⟨a, first⟩ := hx w
  obtain ⟨b, second⟩ := hf a w
  exact ⟨b, (M.run_bind_ok first).trans second⟩

theorem pure (a : α) : (pure a : M α).Reads := fun _ => ⟨a, rfl⟩

theorem mapM {f : α → M β} (hf : ∀ a, (f a).Reads) (as : List α) : (as.mapM f).Reads := by
  have loop (done : List β) : (List.mapM.loop f as done).Reads := by
    induction as generalizing done with
    | nil => exact .pure _
    | cons a as ih => exact .bind (hf a) fun b => ih (b :: done)
  exact loop []

theorem ite {c : Prop} [Decidable c] {x y : M α} (hx : x.Reads) (hy : y.Reads) : (if c then x else y).Reads := by
  split
  · exact hx
  · exact hy

theorem class? (r : Ref) : (Machine.class? r).Reads := fun w => ⟨_, class?_run r w⟩

theorem orderOf (r : Ref) : (Machine.orderOf r).Reads := .bind (.class? r) fun _ => .pure _

theorem slotsOf (r : Ref) : (Machine.slotsOf r).Reads :=
  .bind (.orderOf r) fun _ => .bind (.mapM (fun c => .bind (.class? c) fun _ => .pure _) _) fun _ =>
    .ite (.pure _) (.pure _)

theorem settles {x : M α} (reads : x.Reads) (w : World) : x.Settles w :=
  let ⟨_, ran⟩ := reads w
  .ofSame ran

end M.Reads

theorem settles_record (c r : Ref) : M.Settles (do
    if (← slotsOf c).isSome then return none
    return some (← recordOf r)) w := by
  obtain ⟨slots, asked⟩ := M.Reads.slotsOf c w
  refine .after asked (.ite (fun _ => .pure _) fun _ => ?_)
  exact (settles_recordOf r w).bind fun _ _ _ _ => .pure _

theorem payloadAttr_module {name : String} (payload : (w.object m).payload = .module name) (c : Ref) (n : String) :
    (payloadAttr (.ref m) c n).run w = .ok none w := by
  unfold payloadAttr
  refine (M.run_bind_ok (payload_run m w)).trans ?_
  rw [payload]
  rfl

theorem settles_findAttr (native : w.Native) (is : w.IsModule m) (n : String) :
    (findAttr? h (.ref m) n).Settles w := by
  obtain ⟨name, payload⟩ := is.payload
  have plain : (w.object m).cls < natives.length := is.plain
  generalize cls : (w.object m).cls = c at plain
  have order := order_native native plain
  have found := findInOrder_native native n fun _ => firstHeap_order plain
  generalize (firstHeap.getD c default).order = cs at order found
  have asked : (Machine.classOf (.ref m)).run w = .ok c w := by
    rw [← cls]
    rfl
  unfold findAttr?
  refine .after asked (.after (payload_run m w) ?_)
  rw [payload]
  dsimp only
  refine .ite (fun _ => .pure _) fun _ => .after order ?_
  rcases found with none_ | ⟨k, some_⟩
  · refine .after none_ (.after (M.run_pure false w) ?_)
    dsimp only
    refine .after (own?_run m n w) ?_
    split
    next => exact .pure _
    next =>
      refine .ite (fun _ => settles_record c m) fun _ => ?_
      refine .after (payloadAttr_module payload c n) ?_
      refine .ite (fun _ => .pure _) fun _ => .ite (fun _ => .after (class?_run c w) (.pure _)) fun _ => .pure _
  · obtain ⟨kind, kind_, methodical⟩ := kindOf_native k n w
    refine .after some_ ?_
    dsimp only
    refine .after kind_ ?_
    cases methodical
    all_goals
      refine .after (M.run_pure false w) ?_
      dsimp only
      refine .after (own?_run m n w) ?_
      split
      next => exact .pure _
      next =>
        refine .ite (fun _ => settles_record c m) fun _ => ?_
        exact (settles_bindMethod k n n _ c).bind fun _ _ _ _ => .pure _

end

/-! Exceptions as programs raise and catch them. -/

namespace M.Reads

theorem payload (v : Value) : (Machine.payload v).Reads := by cases v <;> exact fun w => ⟨_, rfl⟩

theorem classOf (v : Value) : (Machine.classOf v).Reads := fun w => ⟨_, classOf_run v w⟩

theorem isSubclass (c b : Ref) : (Machine.isSubclass c b).Reads := fun w => ⟨_, isSubclass_run c b w⟩

theorem isA (v : Value) (cls : String) : (Machine.isA v cls).Reads := .bind (.classOf v) fun _ => .isSubclass _ _

theorem classRefs? (vs : List Value) : (Machine.classRefs? vs).Reads := by
  induction vs with
  | nil => exact .pure _
  | cons v vs ih =>
    cases v
    case ref r =>
      refine .bind (.class? r) fun _ => .bind ih fun _ => ?_
      split <;> exact .pure _
    all_goals exact .pure _

theorem anyM {α : Type} {p : α → M Bool} (hp : ∀ a, (p a).Reads) (as : List α) : (as.anyM p).Reads := by
  induction as with
  | nil => exact .pure _
  | cons a as ih =>
    refine .bind (hp a) fun b => ?_
    cases b
    · exact ih
    · exact .pure _

theorem allM {α : Type} {p : α → M Bool} (hp : ∀ a, (p a).Reads) (as : List α) : (as.allM p).Reads := by
  induction as with
  | nil => exact .pure _
  | cons a as ih =>
    refine .bind (hp a) fun b => ?_
    cases b
    · exact .pure _
    · exact ih

end M.Reads

section

variable {w : World} {h : Host}

theorem settles_handlerClasses (v : Value) (w : World) : (handlerClasses v).Settles w := by
  unfold handlerClasses
  refine ((M.Reads.payload v).settles w).bind fun p w₁ _ _ => ?_
  dsimp only
  split
  all_goals
    refine .after (M.run_pure _ _) (((M.Reads.classRefs? _).settles w₁).bind fun rs w₂ _ _ => ?_)
    split
    · exact .raise _ _
    · exact ((M.Reads.allM (fun r => .isSubclass r _) _).settles w₂).bind fun _ _ _ _ =>
        .ite (fun _ => .pure _) fun _ => .raise _ _

theorem settles_catches (exc classes : Value) (w : World) : (catches exc classes).Settles w := by
  unfold catches
  refine .after (classOf_run exc w) ((settles_handlerClasses classes w).bind fun rs w₁ _ _ => ?_)
  exact (M.Reads.anyM (fun r => .isSubclass _ r) rs).settles w₁

def isErrorRef (r : Ref) : Bool :=
  natives[r]?.any fun n => derives n.name "BaseException" && !derives n.name "BaseExceptionGroup"

theorem isErrorRef_named {r : Ref} (is : isErrorRef r = true) : ∃ n, natives[r]? = some n ∧
    derives n.name "BaseException" = true ∧ derives n.name "BaseExceptionGroup" = false := by
  unfold isErrorRef at is
  cases there : natives[r]? with
  | none => simp [there] at is
  | some n => exact ⟨n, rfl, by simpa [there] using is⟩

/-- Whether a name is one of a class of exceptions among those that every program knows. -/
def isErrorName (n : String) : Bool :=
  Cell.builtinNames.contains n &&
    match builtinTable.lookup n with
    | some (.ref r) => isErrorRef r
    | _ => false

theorem isErrorName_lookup {n : String} (is : isErrorName n = true) :
    ∃ r, builtinTable.lookup n = some (.ref r) ∧ isErrorRef r = true := by
  unfold isErrorName at is
  split at is
  next r found => exact ⟨r, found, (Bool.and_eq_true_iff.mp is).2⟩
  next => simp at is

def specialNames : List String :=
  ["__name__", "__doc__", "__package__", "__loader__", "__spec__", "__file__", "__path__"]

theorem isErrorName_special {n : String} (special : n ∈ specialNames) : isErrorName n = false := by
  refine eq_false_of_ne_true fun is => ?_
  obtain ⟨r, found, -⟩ := isErrorName_lookup is
  have typed : (Cell.builtins.all fun b => b.type != "type" || !specialNames.contains b.name ||
      (native? (nativeAlias b.name)).isNone) = true := by decide +kernel
  rcases List.mem_append.mp (Scope.mem_of_lookup found) with member | member
  · obtain ⟨b, inside, made⟩ := List.mem_filterMap.mp member
    have other := List.all_eq_true.mp typed b inside
    split at made
    next type =>
      split at made
      next known =>
        cases made
        simp [type, special, Option.isSome_iff_ne_none.mp known] at other
      next => cases made
    all_goals cases made
  · simp at member

structure Excepts (w : World) (args : List Value) (v : Value) (w' : World) : Prop where
  still : w.Still w'
  exception : ∃ x e, v = .ref x ∧ (w'.object x).payload = .exception e
  kind : args = [] → w'.isKind v "BaseException" = true

theorem settles_checkExceptionArgs (name : String) (args : List Value) (w : World) :
    (checkExceptionArgs name args).Settles w := by
  unfold checkExceptionArgs
  refine .ite (fun _ => .ite (fun _ => .raise _ _) fun _ => .pure _) fun _ =>
    .ite (fun _ => .ite (fun _ => .raise _ _) fun _ => .pure _) fun _ => .ite (fun _ => ?_) fun _ => .pure _
  split
  next place =>
    refine ((M.Reads.payload place).settles w).bind fun p w₁ _ _ => ?_
    split
    · exact .ite (fun _ => (M.Settles.raise _ _).bind fun _ _ _ _ => .ite (fun _ => .raise _ _) fun _ => .pure _)
        fun _ => .ite (fun _ => .raise _ _) fun _ => .pure _
    · exact .raise _ _
    · exact .pure _
  next => exact .pure _

theorem isKind_push {name : String} {o : Obj} (native : w.Native) (size : natives.length ≤ w.heap.size)
    (cls : o.cls = nativeRef name) (known : ∃ n, natives[nativeRef name]? = some n ∧ n.name = name)
    (derived : derives name "BaseException" = true) :
    (w.push o).isKind (.ref w.heap.size) "BaseException" = true := by
  obtain ⟨n, there, rfl⟩ := known
  have object : (w.push o).object w.heap.size = { o with record := none } := by rw [World.object_push, if_pos rfl]
  have class_ : (w.push o).classOf (.ref w.heap.size) = nativeRef n.name := (congrArg Obj.cls object).trans cls
  have inside := (List.getElem?_eq_some_iff.mp there).1
  have below : nativeRef n.name ≠ w.heap.size := Nat.ne_of_lt (Nat.lt_of_lt_of_le inside size)
  have same : ((w.push o).object (nativeRef n.name)).order = (firstHeap.getD (nativeRef n.name) default).order := by
    rw [World.object_push, if_neg below]
    exact congrArg (fun p => (p.class?.map (·.order)).getD []) (native _ inside).payload
  change ((w.push o).object ((w.push o).classOf (.ref w.heap.size))).order.contains _ = true
  rw [class_, same, (firstHeap_native there).2.2]
  exact List.contains_iff_mem.mpr (List.mem_map_of_mem (List.contains_iff_mem.mp derived))

theorem makeException_ends {name : String} (single : derives name "BaseExceptionGroup" = false)
    (known : ∃ n, natives[nativeRef name]? = some n ∧ n.name = name) (derived : derives name "BaseException" = true)
    (args : List Value) (sane : w.Sane) :
    (makeException h name args []).Ends w (Excepts w args) (Raises w) := by
  unfold makeException
  refine .bind ((settles_checkExceptionArgs name args w).leads.mono (fun _ w₁ ⟨still, leads⟩ => ?_)
    fun _ _ failed => failed.1)
  rw [single, if_neg Bool.false_ne_true]
  let o : Obj := { cls := nativeRef (exceptionClass name args), payload := .exception (exceptionOf name args) }
  have object : (w₁.push o).object w₁.heap.size = o := by rw [World.object_push, if_pos rfl]
  refine @M.Ends.ofOk _ _ _ _ _ (.ref w₁.heap.size) (w₁.push o) rfl
    ⟨still.trans (.push w₁ o), ⟨_, exceptionOf name args, rfl, by rw [object]⟩, ?_⟩
  rintro rfl
  have sane₁ := sane.leads leads
  have plain : exceptionClass name [] = name := by
    unfold exceptionClass
    split
    next same => cases same
    next => rfl
  exact isKind_push sane₁.native sane₁.size (congrArg nativeRef plain) known derived

theorem callObject_class {r : Ref} {c : Class} {args : List Value} {keywords : Names}
    (payload : (w.object r).payload = .class c) (silent : (special? (.ref r) "__call__").run w = .ok none w) :
    (callObject h r args keywords).run w = (instantiate h r c args keywords).run w := by
  obtain ⟨o, w₁, asked, silent⟩ := M.of_bind_ok silent
  cases (obj_run r w).symm.trans asked
  obtain ⟨order, w₁, ordered, found⟩ := M.of_bind_ok silent
  unfold callObject
  rw [M.run_bind_ok asked]
  change (w.heap.getD r default).payload = _ at payload
  simp only [payload]
  cases (orderOf_run _ w).symm.trans ordered
  rw [M.run_bind_ok ordered, M.run_bind_ok found]

theorem callError_ends {r : Ref} (is : isErrorRef r = true) (args : List Value) (sane : w.Sane) :
    ((deeper h).call (.ref r) args []).Ends w (Excepts w args) (Raises w) := by
  obtain ⟨n, there, derived, single⟩ := isErrorRef_named is
  have inside : r < natives.length := (List.getElem?_eq_some_iff.mp there).1
  obtain ⟨cls, ⟨c, payload, named⟩, -⟩ := firstHeap_native there
  have like := sane.native r inside
  have plain : w.IsPlain r := by
    unfold World.IsPlain
    rw [show (w.object r).cls = nativeRef "type" from like.cls.trans cls]
    exact nativeRef_lt _
  have apart (name : String) (not : derives name "BaseException" = false) : c.name ≠ name := by
    rintro rfl
    rw [named, derived] at not
    cases not
  have made : (constructNative h c.name args []).Ends w (Excepts w args) (Raises w) := by
    have ends := makeException_ends (h := h) (named ▸ single) (named ▸ native_name there) (named ▸ derived) args sane
    unfold constructNative
    split
    case h_9 =>
      rw [show derives c.name "BaseException" = true by rw [named, derived], if_pos rfl]
      exact ends
    all_goals
      rename_i same
      exact absurd same (apart _ (by decide +kernel))
  have made' : (instantiate h r c args []).run w = (constructNative h c.name args []).run w := by
    have other : ¬ (c.name == "type") = true := by simpa using apart "type" (by decide +kernel)
    unfold instantiate
    rw [if_pos inside, if_neg other]
  change (callObject h r args []).Ends w _ _
  unfold M.Ends
  rw [callObject_class (like.payload.trans payload) (plain.special? sane.native _), made']
  exact made

theorem raiseValue_ends {α : Type} {v : Value}
    (made : (asException h v "exceptions must derive from BaseException").Settles w) :
    (raiseValue h v none : M α).Ends w (fun _ _ => False) (Raises w) := by
  unfold raiseValue
  refine .bind (made.mono (fun exc w₁ still => .bind (.ofOk (M.run_pure _ _) ?_)) fun _ _ failed => failed)
  obtain ⟨w₂, ran⟩ := throwExc_error (α := α) exc w₁
  exact .ofError ran ⟨still.trans ((isStill_throwExc exc).ofError ran), exc, rfl⟩

theorem raiseObject_ends {α : Type} {v : Value} (other : (asClass v).run w = .ok none w) :
    (raiseValue h v none : M α).Ends w (fun _ _ => False) (Raises w) := by
  refine raiseValue_ends ?_
  unfold asException
  refine .after other ?_
  split
  next found => cases found
  next => exact ((M.Reads.isA _ _).settles w).bind fun b _ _ _ => .ite (fun _ => .pure _) fun _ => .raise _ _

theorem raiseError_ends {α : Type} {r : Ref} (is : isErrorRef r = true) (sane : w.Sane)
    (called : (h.call (.ref r) [] []).Ends w (Excepts w []) (Raises w)) :
    (raiseValue h (.ref r) none : M α).Ends w (fun _ _ => False) (Raises w) := by
  obtain ⟨n, there, derived, -⟩ := isErrorRef_named is
  have inside := (List.getElem?_eq_some_iff.mp there).1
  obtain ⟨-, ⟨c, payload, -⟩, order⟩ := firstHeap_native there
  have class_ : (asClass (.ref r)).run w = .ok (some c) w := by
    refine (class?_run r w).trans ?_
    rw [show (w.object r).payload = .class c from (sane.native r inside).payload.trans payload]
    rfl
  have sub : (isSubclass r (nativeRef "BaseException")).run w = .ok true w := by
    have same : (w.heap.getD r default).order = (ancestors n.name).map nativeRef := by
      rw [← order]
      exact congrArg (fun p => (p.class?.map (·.order)).getD []) (sane.native r inside).payload
    rw [isSubclass_run, same]
    exact congrArg (EStateM.Result.ok · w)
      (List.contains_iff_mem.mpr (List.mem_map_of_mem (List.contains_iff_mem.mp derived)))
  refine raiseValue_ends ?_
  unfold asException
  refine .after class_ ?_
  dsimp only
  refine .after sub ?_
  rw [if_pos rfl]
  refine M.Ends.bind (called.mono (fun e w₁ made => ?_) fun _ _ failed => failed)
  have kind : (isA e "BaseException").run w₁ = .ok true w₁ := by
    rw [← made.kind rfl]
    exact isError_run e "BaseException" w₁
  refine M.Ends.bind (.ofOk kind ?_)
  rw [if_pos rfl]
  exact M.Ends.pure made.still

/-! Looking a name up where a module may see to it itself. -/

/-- A module without a function of its own for the names that it lacks. -/
structure World.Silent (w : World) (m : Ref) : Prop where
  module : w.IsModule m
  getattr : ∀ v, (w.object m).attrs.lookup "__getattr__" = some v → ∃ r, v = .ref r ∧ w.IsModule r

theorem settles_getAttr {m : Ref} (sane : w.Sane) (silent : w.Silent m)
    (call : ∀ {w' : World} {r : Ref} (args : List Value), w'.Native → w'.IsModule r → (h.call (.ref r) args []).Settles w')
    (n : String) : (getAttr? h (.ref m) n).Settles w := by
  obtain ⟨name, payload⟩ := silent.module.payload
  have plain := silent.module.plain
  have fallback : (fallback? (.ref m)).run w = .ok (((w.object m).attrs.lookup "__getattr__").map (false, ·)) w := by
    unfold fallback?
    rw [M.run_bind_ok (plain.special? sane.native _)]
    dsimp only
    rw [M.run_bind_ok (payload_run m w), payload]
    rfl
  unfold getAttr?
  refine .after fallback ?_
  cases found : (w.object m).attrs.lookup "__getattr__" with
  | none => exact .after (plain.special? sane.native _) (settles_findAttr sane.native silent.module n)
  | some g =>
    obtain ⟨r, rfl, is⟩ := silent.getattr g found
    refine M.Settles.bind (.onError (.after (plain.special? sane.native _)
      (settles_findAttr sane.native silent.module n)) fun _ _ _ => .pure _) fun a w₁ ran still => ?_
    cases a with
    | some v => exact .pure _
    | none =>
      have stays := (still.objects r is.inside).toStays
      have native : w₁.Native := (sane.leads (M.leads_of_ok ran)).native
      exact (call [.str n] native (is.stays stays)).bind fun _ _ _ _ => .pure _

end

end Notebook.Machine
