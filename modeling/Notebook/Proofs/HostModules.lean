import Notebook.Proofs.Dotted
import Notebook.Proofs.Still

/-! Modules of the host: importing one makes it or finds it, and leaves the modules made from source. -/

set_option autoImplicit false

namespace Notebook.Machine

open Notebook.Text

/-! What an execution ends in. -/

def M.Ends {α : Type} (x : M α) (w : World) (Q : α → World → Prop) (E : Stop → World → Prop) : Prop :=
  match x.run w with
  | .ok a w' => Q a w'
  | .error e w' => E e w'

namespace M.Ends

variable {α β : Type} {w : World} {E E' : Stop → World → Prop}

theorem ofOk {x : M α} {Q : α → World → Prop} {a : α} {w' : World} (ran : x.run w = .ok a w')
    (h : Q a w') : x.Ends w Q E := by
  rwa [Ends, ran]

theorem ofError {x : M α} {Q : α → World → Prop} {e : Stop} {w' : World} (ran : x.run w = .error e w')
    (h : E e w') : x.Ends w Q E := by
  rwa [Ends, ran]

theorem bind {x : M α} {f : α → M β} {Q : β → World → Prop}
    (h : x.Ends w (fun a w₁ => (f a).Ends w₁ Q E) E) : (x >>= f).Ends w Q E := by
  unfold Ends at h ⊢
  cases ran : x.run w with
  | ok a w₁ =>
    rw [ran] at h
    rw [M.run_bind_ok ran]
    exact h
  | error e w₁ =>
    rw [ran] at h
    rw [M.run_bind_error ran]
    exact h

theorem mono {x : M α} {Q Q' : α → World → Prop} (h : x.Ends w Q E) (ok : ∀ a w', Q a w' → Q' a w')
    (error : ∀ e w', E e w' → E' e w') : x.Ends w Q' E' := by
  unfold Ends at h ⊢
  split
  next ran => exact ok _ _ (by rwa [ran] at h)
  next ran => exact error _ _ (by rwa [ran] at h)

end M.Ends

/-! Setting attributes. -/

/-- What setting an attribute does. -/
structure World.Sets (w w' : World) (r : Ref) (a : String) (v : Value) : Prop where
  cache : w'.cache = w.cache
  hosts : w'.hosts = w.hosts
  size : w'.heap.size = w.heap.size
  own : natives.length ≤ r → r < w.heap.size → (w'.object r).attrs = (w.object r).attrs.put a v
  names : ∀ s b, b ≠ a → (w'.object s).attrs.lookup b = (w.object s).attrs.lookup b
  others : ∀ s, s ≠ r → (w'.object s).attrs = (w.object s).attrs
  stays : w.Recorded → ∀ s, (w.object s).Stays (w'.object s)
  records : w.Recorded → w'.Recorded

theorem changed_attrs (r : Ref) (g : Names → Names) (o : Obj) :
    let o' := o.changed r fun o => { o with attrs := g o.attrs }
    o'.payload = o.payload ∧ o'.cls = o.cls ∧ o'.record = o.record ∧
      (natives.length ≤ r → o'.attrs = g o.attrs) ∧ (r < natives.length → o'.attrs = o.attrs) := by
  unfold Obj.changed
  by_cases native : r < natives.length
  · rw [if_pos native]
    exact ⟨rfl, rfl, rfl, fun foreign => absurd native (Nat.not_lt.mpr foreign), fun _ => rfl⟩
  · rw [if_neg native]
    refine ⟨?_, rfl, rfl, fun _ => rfl, fun other => absurd other native⟩
    cases o.payload <;> rfl

theorem changed_dict (d : Ref) (es : Array (Value × Value)) (o : Obj) :
    let o' := o.changed d fun o => { o with payload := .dict es }
    o'.attrs = o.attrs ∧ o'.record = o.record ∧ (o.payload.isDict = true → o.Stays o') := by
  unfold Obj.changed
  by_cases native : d < natives.length
  · rw [if_pos native]
    exact ⟨rfl, rfl, fun _ => .ofSame rfl rfl⟩
  · rw [if_neg native]
    refine ⟨rfl, rfl, fun dict => ?_⟩
    obtain ⟨cls, attrs, payload, digest, gaps, record, recordOf⟩ := o
    cases payload <;> cases dict
    exact ⟨rfl, nofun, nofun, fun _ => rfl⟩

theorem setOwn_plain {r : Ref} {w : World} (plain : (w.object r).record = none) (a : String) (v : Value) :
    (setOwn r a v).run w
      = .ok () (w.alter r (Obj.changed r fun o => { o with attrs := o.attrs.put a v })) := by
  let f : Obj → Obj := Obj.changed r fun o => { o with attrs := o.attrs.put a v }
  have changed : (modifyObj r fun o => { o with attrs := o.attrs.put a v }).run w
      = .ok () (w.alter r f) := rfl
  have asked : (obj r).run (w.alter r f) = .ok ((w.alter r f).object r) (w.alter r f) := obj_run r _
  have none : ((w.alter r f).object r).record = none := by
    rw [World.object_alter]
    by_cases here : r = r ∧ r < w.heap.size
    · rw [if_pos here]
      exact (changed_attrs r (·.put a v) (w.object r)).2.2.1.trans plain
    · rw [if_neg here, plain]
  unfold setOwn changeOwn
  rw [M.run_bind_ok changed, M.run_bind_ok asked]
  simp only [none]
  rfl

theorem sets_run (r : Ref) (a : String) (v : Value) (w : World) :
    ∃ w', (setOwn r a v).run w = .ok () w' ∧ w.Sets w' r a v := by
  let f : Obj → Obj := Obj.changed r fun o => { o with attrs := o.attrs.put a v }
  have same := changed_attrs r (·.put a v)
  have set : w.Sets (w.alter r f) r a v := by
    refine ⟨rfl, rfl, World.size_alter .., fun foreign inside => ?_, fun s b other => ?_,
      fun s other => ?_, fun _ s => ?_, fun before => ?_⟩
    · rw [World.object_alter, if_pos ⟨rfl, inside⟩]
      exact (same (w.object r)).2.2.2.1 foreign
    · rw [World.object_alter]
      by_cases here : r = s ∧ s < w.heap.size
      · rw [if_pos here]
        by_cases native : r < natives.length
        · exact congrArg (·.lookup b) ((same (w.object s)).2.2.2.2 native)
        · have put := (same (w.object s)).2.2.2.1 (Nat.not_lt.mp native)
          rw [show (f (w.object s)).attrs = (w.object s).attrs.put a v from put, Names.put,
            Module.lookup_setKey, if_neg other]
      · rw [if_neg here]
    · rw [World.object_alter, if_neg fun (e : r = s ∧ _) => other e.1.symm]
    · rw [World.object_alter]
      by_cases here : r = s ∧ s < w.heap.size
      · rw [if_pos here]
        exact .ofSame (same (w.object s)).2.1 (same (w.object s)).1
      · rw [if_neg here]
        exact .refl _
    · obtain ⟨payload, -, record, -⟩ := same (w.object r)
      exact before.alter record fun dict => payload.symm ▸ dict
  have record : ((w.alter r f).object r).record = (w.object r).record := by
    rw [World.object_alter]
    by_cases here : r = r ∧ r < w.heap.size
    · rw [if_pos here]
      exact (same (w.object r)).2.2.1
    · rw [if_neg here]
  cases linked : (w.object r).record with
  | none => exact ⟨_, setOwn_plain linked a v, set⟩
  | some d =>
    rw [linked] at record
    have changed : (modifyObj r fun o => { o with attrs := o.attrs.put a v }).run w
        = .ok () (w.alter r f) := rfl
    have asked : (obj r).run (w.alter r f) = .ok ((w.alter r f).object r) (w.alter r f) := obj_run r _
    let es := entriesOfNames ((w.alter r f).object r).attrs
    let g : Obj → Obj := Obj.changed d fun o => { o with payload := .dict es }
    have kept := changed_dict d es
    unfold setOwn changeOwn
    rw [M.run_bind_ok changed, M.run_bind_ok asked]
    simp only [record]
    rw [M.run_bind_ok asked]
    have attrs (s : Ref) : (((w.alter r f).alter d g).object s).attrs = ((w.alter r f).object s).attrs := by
      rw [World.object_alter]
      by_cases here : d = s ∧ s < (w.alter r f).heap.size
      · rw [if_pos here]
        exact (kept ((w.alter r f).object s)).1
      · rw [if_neg here]
    have stays (before : w.Recorded) (s : Ref) :
        ((w.alter r f).object s).Stays (((w.alter r f).alter d g).object s) := by
      rw [World.object_alter (w.alter r f)]
      by_cases here : d = s ∧ s < (w.alter r f).heap.size
      · rw [if_pos here]
        obtain ⟨rfl, -⟩ := here
        exact (kept ((w.alter r f).object d)).2.2 (set.records before r d record)
      · rw [if_neg here]
        exact .refl _
    refine ⟨(w.alter r f).alter d g, rfl, rfl, rfl, ?_, fun foreign inside => ?_, fun s b other => ?_,
      fun s other => ?_, fun before s => (set.stays before s).trans (stays before s), fun before => ?_⟩
    · exact (World.size_alter ..).trans set.size
    · exact (attrs r).trans (set.own foreign inside)
    · rw [attrs]
      exact set.names s b other
    · exact (attrs s).trans (set.others s other)
    · obtain ⟨-, same, stays⟩ := kept ((w.alter r f).object d)
      exact (set.records before).alter same (stays (set.records before r d record)).dict

/-! Modules. -/

structure World.IsModule (w : World) (r : Ref) : Prop where
  cls : (w.object r).cls = nativeRef "module"
  payload : ∃ name, (w.object r).payload = .module name

def World.IsHost (w : World) (r : Ref) : Prop := ∃ name, (name, r) ∈ w.hosts

theorem World.IsModule.inside {w : World} {r : Ref} (h : w.IsModule r) : r < w.heap.size := by
  refine Nat.lt_of_not_le fun out => ?_
  obtain ⟨name, payload⟩ := h.payload
  rw [World.object_out out] at payload
  cases payload

theorem World.IsModule.stays {w w' : World} {r : Ref} (h : w.IsModule r)
    (stays : (w.object r).Stays (w'.object r)) : w'.IsModule r :=
  let ⟨name, payload⟩ := h.payload
  ⟨stays.cls.trans h.cls, name, stays.module name payload⟩

set_option maxRecDepth 100000 in
theorem submodules_free (top : String) : "__getattr__" ∉ submodules top := by
  unfold submodules
  split <;> decide +kernel

/-- What importing from the host does: modules of the host may come in, and only they get attributes, by the names of
modules inside of others. -/
structure World.Hosting (w w' : World) : Prop where
  cache : w'.cache = w.cache
  size : w.heap.size ≤ w'.heap.size
  stays : w.Recorded → ∀ r, r < w.heap.size → (w.object r).Stays (w'.object r)
  attrs : ∀ r, r < w.heap.size → ¬ w.IsHost r → (w'.object r).attrs = (w.object r).attrs
  names : ∀ r, r < w.heap.size → ∀ a, (∀ top, a ∉ submodules top) →
    (w'.object r).attrs.lookup a = (w.object r).attrs.lookup a
  hosts : w.hosts <+: w'.hosts
  news : ∀ e ∈ w'.hosts, e ∈ w.hosts ∨ (w.heap.size ≤ e.2 ∧ (w.Recorded → w'.IsModule e.2 ∧
    (w'.object e.2).attrs.lookup "__getattr__" = none))
  records : w.Recorded → w'.Recorded

namespace World.Hosting

variable {w w' w'' : World}

theorem getattr (h : w.Hosting w') {r : Ref} (inside : r < w.heap.size) :
    (w'.object r).attrs.lookup "__getattr__" = (w.object r).attrs.lookup "__getattr__" :=
  h.names r inside _ submodules_free

theorem ofStill (h : w.Still w') : w.Hosting w' where
  cache := h.cache
  size := h.size
  stays _ r hr := (h.objects r hr).toStays
  attrs r hr _ := (h.objects r hr).attrs
  names r hr a _ := by rw [(h.objects r hr).attrs]
  hosts := h.hosts ▸ List.prefix_rfl
  news _ he := .inl (h.hosts ▸ he)
  records := h.records

theorem isHost (h : w.Hosting w') {r : Ref} (host : w.IsHost r) : w'.IsHost r :=
  host.imp fun _ member => h.hosts.subset member

theorem trans (h : w.Hosting w') (h' : w'.Hosting w'') : w.Hosting w'' where
  cache := h'.cache.trans h.cache
  size := Nat.le_trans h.size h'.size
  stays before r hr := (h.stays before r hr).trans
    (h'.stays (h.records before) r (Nat.lt_of_lt_of_le hr h.size))
  attrs r hr own := by
    refine (h'.attrs r (Nat.lt_of_lt_of_le hr h.size) fun ⟨name, there⟩ => ?_).trans (h.attrs r hr own)
    rcases h.news _ there with first | new
    · exact own ⟨name, first⟩
    · exact Nat.not_lt.mpr new.1 hr
  names r hr a free := (h'.names r (Nat.lt_of_lt_of_le hr h.size) a free).trans (h.names r hr a free)
  hosts := h.hosts.trans h'.hosts
  news e he := by
    rcases h'.news e he with there | ⟨new, is⟩
    · refine (h.news e there).imp_right fun ⟨new, is⟩ => ⟨new, fun before => ?_⟩
      obtain ⟨module, none⟩ := is before
      have inside := module.inside
      exact ⟨module.stays (h'.stays (h.records before) e.2 inside), (h'.getattr inside).trans none⟩
    · exact .inr ⟨Nat.le_trans h.size new, is ∘ h.records⟩
  records := h'.records ∘ h.records

theorem ofSets {r : Ref} {a top : String} {v : Value} (h : w.Sets w' r a v) (host : w.IsHost r)
    (inner : a ∈ submodules top) : w.Hosting w' where
  cache := h.cache
  size := Nat.le_of_eq h.size.symm
  stays before r _ := h.stays before r
  attrs s _ own := h.others s fun same => own (same ▸ host)
  names s _ b free := h.names s b fun same => free top (same ▸ inner)
  hosts := h.hosts ▸ List.prefix_rfl
  news _ he := .inl (h.hosts ▸ he)
  records := h.records

theorem ofPush {name : String} {o : Obj} (cls : o.cls = nativeRef "module") (payload : o.payload = .module name)
    (free : o.attrs.lookup "__getattr__" = none) :
    w.Hosting { w.push o with hosts := w.hosts ++ [(name, w.heap.size)] } := by
  have pushed := World.Still.push w o
  refine ⟨rfl, pushed.size, fun _ r hr => (pushed.objects r hr).toStays,
    fun r hr _ => (pushed.objects r hr).attrs, fun r hr a _ => congrArg (List.lookup a) (pushed.objects r hr).attrs,
    List.prefix_append .., fun e he => ?_, pushed.records⟩
  rcases List.mem_append.mp he with there | new
  · exact .inl there
  · cases List.mem_singleton.mp new
    have object : (w.push o).object w.heap.size = { o with record := none } := by
      rw [World.object_push, if_pos rfl]
    have own : ({ w.push o with hosts := w.hosts ++ [(name, w.heap.size)] } : World).object w.heap.size
        = { o with record := none } := object
    refine .inr ⟨Nat.le_refl _, fun _ => ⟨⟨?_, name, ?_⟩, ?_⟩⟩ <;> rw [own]
    · exact cls
    · exact payload
    · exact free

end World.Hosting

/-! Importing. -/

theorem setPayload_class (r : Ref) (c : Class) (w : World) : (setPayload r (.class c)).run w
    = .ok () (w.alter r (Obj.changed r fun o => { o with payload := .class c })) := by
  have changed : (modifyObj r fun o => { o with payload := .class c }).run w
      = .ok () (w.alter r (Obj.changed r fun o => { o with payload := .class c })) := rfl
  unfold setPayload
  rw [M.run_bind_ok changed, M.run_bind_ok (obj_run r _)]
  split
  next found => cases found
  next => rfl

theorem isStill_interfaceAttr (name : String) : (interfaceAttr name).IsStill := by
  unfold interfaceAttr
  split
  next file known =>
    intro w
    have made : (alloc { cls := nativeRef "type" }).run w = .ok w.heap.size (w.push { cls := nativeRef "type" }) :=
      rfl
    dsimp only
    rw [M.run_bind_ok made, M.run_bind_ok (setPayload_class ..)]
    refine (World.Still.push w { cls := nativeRef "type" }).fresh (Nat.le_refl _)
      (Obj.changed_record ..) fun dict => ?_
    rw [World.object_push, if_pos rfl] at dict
    cases dict
  next => exact .pure _
  next => exact .pure _

theorem interfaceAttr_name (name : String) : (interfaceAttr name).Gives fun entry _ => entry.1 = name := by
  unfold interfaceAttr
  split
  · exact .bind fun _ => .bind fun _ => .pure fun _ => rfl
  · exact .pure fun _ => rfl
  · exact .pure fun _ => rfl

theorem interface_names (names : List String) :
    (names.mapM interfaceAttr).Gives fun entries _ => entries.map (·.1) = names := by
  have loop (done : Names) : (List.mapM.loop interfaceAttr names done).Gives
      fun entries _ => entries.map (·.1) = done.reverse.map (·.1) ++ names := by
    induction names generalizing done with
    | nil => exact .pure fun _ => by simp
    | cons name names ih =>
      intro w entries w' ran
      obtain ⟨entry, w₁, first, rest⟩ := M.of_bind_ok ran
      have named := interfaceAttr_name name w entry w₁ first
      simpa [named] using ih (entry :: done) w₁ entries w' rest
  exact loop []

theorem isStill_hostAttrs (name : String) : (hostAttrs? name).IsStill := by
  unfold hostAttrs?
  split
  · exact .pure _
  · exact .bind (.newOf _ _) fun _ => .bind (.newOf _ _) fun _ => .pure _
  · exact .pure _
  · exact .pure _
  · exact .bind (.newOf _ _) fun _ => .bind (.mapM isStill_interfaceAttr _) fun _ => .pure _
  · exact .pure _

theorem returns_interfaceAttr (name : String) : (interfaceAttr name).Returns := by
  unfold interfaceAttr
  split
  next file known =>
    have made : (alloc { cls := nativeRef "type" }).Returns := fun w => ⟨_, _, rfl⟩
    have set (r : Ref) (c : Class) : (setPayload r (.class c)).Returns :=
      fun w => ⟨(), _, setPayload_class r c w⟩
    exact made.bind fun r => (set r _).bind fun _ => .pure _
  next => exact .pure _
  next => exact .pure _

theorem returns_mapM {α β : Type} {f : α → M β} (hf : ∀ a, (f a).Returns) (as : List α) :
    (as.mapM f).Returns := by
  have loop (done : List β) : (List.mapM.loop f as done).Returns := by
    induction as generalizing done with
    | nil => exact .pure _
    | cons a as ih => exact (hf a).bind fun b => ih (b :: done)
  exact loop []

theorem returns_hostAttrs (name : String) : (hostAttrs? name).Returns := by
  unfold hostAttrs?
  split
  · exact .pure _
  · exact (M.Returns.newOf _ _).bind fun _ => (M.Returns.newOf _ _).bind fun _ => .pure _
  · exact .pure _
  · exact .pure _
  · exact (M.Returns.newOf _ _).bind fun _ => (returns_mapM returns_interfaceAttr _).bind fun _ => .pure _
  · exact .pure _

set_option maxRecDepth 100000 in
theorem hostAttrs_free (name : String) : (hostAttrs? name).Gives
    fun found _ => ∀ attrs, found = some attrs → attrs.lookup "__getattr__" = none := by
  have given {attrs : Names} (free : attrs.lookup "__getattr__" = none) :
      ∀ attrs', some attrs = some attrs' → attrs'.lookup "__getattr__" = none := by
    rintro _ ⟨⟩
    exact free
  unfold hostAttrs?
  split
  · exact .pure fun _ => given rfl
  · exact .bind fun _ => .bind fun _ => .pure fun _ => given rfl
  · exact .pure fun _ => given rfl
  · exact .pure fun _ => given rfl
  · refine .bind fun all => ?_
    intro w found w' ran
    obtain ⟨entries, w₁, first, rest⟩ := M.of_bind_ok ran
    cases rest
    refine given ?_
    have names := interface_names _ _ _ _ first
    rw [List.lookup_eq_none_iff]
    intro entry member
    rw [bne_iff_ne]
    intro same
    rcases List.mem_cons.mp member with rfl | member
    · exact absurd same (show "__getattr__" ≠ "__all__" by decide)
    · have known : entry.1 ∈ interfaceNames := names ▸ List.mem_map_of_mem member
      rw [← same] at known
      exact absurd known (by decide +kernel)
  · exact .pure fun _ => nofun

section

variable {w : World}

theorem throwExc_error {α : Type} (exc : Value) (w : World) :
    ∃ w', (throwExc exc : M α).run w = .error (.raised exc) w' := by
  unfold throwExc
  cases exc with
  | ref r =>
    change ∃ w', (if (!w.handled.is (.ref r) && !w.handled.is .none) = true then _ else _ : M α).run w = _
    split
    · exact ⟨_, rfl⟩
    · exact ⟨_, rfl⟩
  | _ => exact ⟨w, rfl⟩

theorem raise_ends {α : Type} {Q : α → World → Prop} {E : Stop → World → Prop} (cls message : String)
    (h : ∀ e w', w.Still w' → E (.raised e) w') : (raise cls message : M α).Ends w Q E := by
  obtain ⟨w', ran⟩ : ∃ w', (raise cls message : M α).run w = .error (.raised (.ref w.heap.size)) w' :=
    throwExc_error (.ref w.heap.size) _
  exact .ofError ran (h _ _ ((isStill_raise cls message).ofError ran))

theorem refuseImport_run {α : Type} (cls message name : String) (w : World) : ∃ w', w.Still w' ∧
    (refuseImport cls message name : M α).run w = (throwExc (.ref w.heap.size) : M α).run w' := by
  let o : Obj := { cls := nativeRef cls, payload := .exception { args := [.str message] } }
  have made : (newException cls [.str message]).run w = .ok (.ref w.heap.size) (w.push o) := rfl
  have object : (w.push o).object w.heap.size = o := by rw [World.object_push, if_pos rfl]
  have named := setOwn_plain (w := w.push o) (r := w.heap.size) (by rw [object]) "name" (.str name)
  have record := (changed_attrs w.heap.size (·.put "name" (.str name)) ((w.push o).object w.heap.size)).2.2.1
  refine ⟨_, (World.Still.push w o).fresh (Nat.le_refl _) record fun dict => ?_, ?_⟩
  · rw [object] at dict
    cases dict
  · unfold refuseImport
    rw [M.run_bind_ok made]
    dsimp only
    rw [M.run_bind_ok named]

theorem refuseImport_ends {α : Type} {Q : α → World → Prop} {E : Stop → World → Prop} (cls message name : String)
    (h : ∀ e w', w.Still w' → E (.raised e) w') : (refuseImport cls message name : M α).Ends w Q E := by
  obtain ⟨w₁, still, run⟩ := refuseImport_run (α := α) cls message name w
  obtain ⟨w₂, ran⟩ := throwExc_error (α := α) (.ref w.heap.size) w₁
  have last := (isStill_throwExc (.ref w.heap.size)).ofError ran
  exact .ofError (run.trans ran) (h _ _ (still.trans last))

theorem M.Ends.pure {α : Type} {Q : α → World → Prop} {E : Stop → World → Prop} {a : α} (h : Q a w) :
    (pure a : M α).Ends w Q E := h

theorem M.Ends.read {α : Type} {Q : α → World → Prop} {E : Stop → World → Prop} {f : World → M α}
    (h : (f w).Ends w Q E) : (read >>= f).Ends w Q E := M.Ends.bind h

def Imported (w : World) (name : String) (r : Ref) (w' : World) : Prop :=
  w.Hosting w' ∧ w'.hosts.lookup name = some r

def Refused (w : World) (e : Stop) (w' : World) : Prop := w.Hosting w' ∧ ∃ exc, e = .raised exc

theorem refused_absent {α : Type} {Q : α → World → Prop} {w₁ : World} (h : w.Hosting w₁)
    (name reason : String) : (absentModule name reason : M α).Ends w₁ Q (Refused w) :=
  refuseImport_ends _ _ name fun e _ still => ⟨h.trans (.ofStill still), e, rfl⟩

theorem lookup_append_none {α : Type} {entries : List (String × α)} {key : String} (v : α)
    (absent : entries.lookup key = none) : (entries ++ [(key, v)]).lookup key = some v := by
  simp [List.lookup_append, absent]

theorem addHost_ends {w₁ : World} (h : w.Hosting w₁) (name : String) {attrs : Names}
    (free : attrs.lookup "__getattr__" = none) (absent : w₁.hosts.lookup name = none) :
    (addHost name attrs).Ends w₁ (Imported w name) (Refused w) := by
  refine .bind (.ofOk rfl (.bind (.ofOk rfl (.pure ⟨h.trans (.ofPush rfl rfl ?_), ?_⟩))))
  · simpa [Module.lookup_pair_cons] using free
  · exact lookup_append_none _ absent

theorem hostModule_ends {w₁ : World} (h : w.Hosting w₁) (name : String) :
    (hostModule name []).Ends w₁ (Imported w name) (Refused w) := by
  refine .read ?_
  cases found : w₁.hosts.lookup name with
  | some r => exact .pure ⟨h, found⟩
  | none => exact addHost_ends h name rfl found

theorem hostTop_ends (name : String) : (hostTop name).Ends w (Imported w name) (Refused w) := by
  refine .read ?_
  cases found : w.hosts.lookup name with
  | some r => exact .pure ⟨.ofStill (.refl w), found⟩
  | none =>
    obtain ⟨given, w₁, ran⟩ := returns_hostAttrs name w
    have still : w.Still w₁ := (isStill_hostAttrs name).ofOk ran
    refine .bind (.ofOk ran ?_)
    cases given with
    | some attrs =>
      refine addHost_ends (.ofStill still) name (hostAttrs_free name _ _ _ ran attrs rfl) ?_
      rw [still.hosts, found]
    | none => exact refused_absent (.ofStill still) _ _

theorem isHost_of_lookup {name : String} {r : Ref} (found : w.hosts.lookup name = some r) : w.IsHost r := by
  obtain ⟨before, after, same, -⟩ := List.lookup_eq_some_iff.mp found
  exact ⟨name, by simp [same]⟩

theorem hostInner_ends {w₁ : World} (h : w.Hosting w₁) {parent : Ref} (host : w₁.IsHost parent)
    (top sub : String) :
    (hostInner parent top sub).Ends w₁ (Imported w (top ++ "." ++ sub)) (Refused w) := by
  unfold hostInner
  dsimp only
  split
  · exact refused_absent h _ _
  · split
    · exact refused_absent h _ _
    next known =>
      refine .bind ((hostModule_ends (.ofStill (.refl w₁)) _).mono (fun inner w₂ made => ?_) fun e w₂ failed => ?_)
      · obtain ⟨w₃, set, sets⟩ := sets_run parent sub (.ref inner) w₂
        have inner : sub ∈ submodules top := by simpa using known
        refine .bind (.ofOk set (.pure ⟨(h.trans made.1).trans (.ofSets sets (made.1.isHost host) inner), ?_⟩))
        rw [sets.hosts]
        exact made.2
      · exact ⟨h.trans failed.1, failed.2⟩

/-- What importing from the host ends in: with a module of the host, or by raising an exception. -/
theorem hostImport_ends (name : String) :
    (hostImport name).Ends w (Imported w name) (Refused w) := by
  have still : w.Hosting w := .ofStill (.refl w)
  have whole : joinWith "." (dottedParts name) = name := joinWith_dottedParts name
  unfold hostImport
  split
  · exact raise_ends _ _ fun e _ after => ⟨.ofStill after, e, rfl⟩
  · refine .read ?_
    split
    next r found => exact .pure ⟨still, found⟩
    next => exact refused_absent still _ _
    next top _ parts =>
      rw [parts] at whole
      cases whole
      exact hostTop_ends top
    next top sub _ parts =>
      rw [parts] at whole
      cases whole
      exact .bind ((hostTop_ends top).mono
        (fun parent w₁ made => hostInner_ends made.1 (isHost_of_lookup made.2) top sub) fun _ _ failed => failed)
    next top sub last rest _ parts =>
      refine .bind ((hostTop_ends top).mono (fun parent w₁ made => ?_) fun _ _ failed => failed)
      have inner := hostInner_ends made.1 (isHost_of_lookup made.2) top sub
      refine .bind (.bind (inner.mono (fun _ w₂ made => ?_) fun _ _ failed => failed))
      exact .pure (refused_absent made.1 _ _)

theorem hostImport_ok {name : String} {r : Ref} {w' : World} (ran : (hostImport name).run w = .ok r w') :
    w.Hosting w' ∧ name ≠ "" ∧ w'.hosts.lookup name = some r := by
  have ends := hostImport_ends (w := w) name
  unfold M.Ends at ends
  rw [ran] at ends
  refine ⟨ends.1, ?_, ends.2⟩
  rintro rfl
  obtain ⟨w₁, raised⟩ : ∃ w₁, (hostImport "").run w = .error (.raised (.ref w.heap.size)) w₁ :=
    throwExc_error (.ref w.heap.size) _
  cases raised.symm.trans ran

theorem hostImport_there {name : String} {r : Ref} (full : name ≠ "")
    (there : w.hosts.lookup name = some r) : (hostImport name).run w = .ok r w := by
  unfold hostImport
  have got : (read : M World).run w = .ok w w := rfl
  rw [if_neg (by simp [full]), M.run_bind_ok got, there]
  rfl

end

end Notebook.Machine
