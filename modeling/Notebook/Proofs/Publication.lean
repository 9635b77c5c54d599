import Notebook.Proofs.Fetch

/-! What a body does with the namespace between its own statements: it publishes the names that they
bind and removes those that they delete.

Publishing a name reads it, which is the only way for this to fail. -/

set_option autoImplicit false

namespace Notebook.Machine

open Notebook.Code Notebook.Scope Notebook.Tree Notebook.Realm

/-! The object of a namespace. -/

section

variable {w : World} {ns : Ref} {e : Exports Value}

theorem IsNamespace.foreign (h : IsNamespace w ns e) (native : w.Native) : natives.length ≤ ns := by
  refine Nat.le_of_not_lt fun within => ?_
  have same := (native ns within).payload
  rw [h.payload] at same
  unfold firstHeap at same
  rw [Array.getD_eq_getD_getElem?, List.getElem?_toArray, List.getElem?_map,
    List.getElem?_eq_getElem within] at same
  cases same

theorem IsNamespace.inside (h : IsNamespace w ns e) : ns < w.heap.size := by
  refine Nat.lt_of_not_le fun outside => ?_
  have payload := h.payload
  rw [Array.getD, dif_neg (Nat.not_lt.mpr outside)] at payload
  cases payload

def World.setEntries (w : World) (ns : Ref) (e : Exports Value) : World :=
  w.put ns fun o => { o with payload := .exports e }

theorem IsNamespace.setEntries (h : IsNamespace w ns e) (native : w.Native) (e' : Exports Value) :
    IsNamespace (w.setEntries ns e') ns e' := by
  have changed : (w.setEntries ns e').heap.getD ns default
      = { w.heap.getD ns default with payload := .exports e' } := by
    rw [World.setEntries, World.put_same h.inside]
    unfold Obj.changed
    rw [if_neg (Nat.not_lt.mpr (h.foreign native)), h.payload]
    rfl
  exact ⟨changed ▸ h.cls, changed ▸ rfl, changed ▸ h.own⟩

theorem exportsMethod_assign (h : Host) (n : String) (v : Value) :
    (exportsMethod h ns e "assign" [.str n, v] []).run w = .ok .none (w.setEntries ns (e.assign n v)) :=
  M.run_bind_ok (setPayload_run (fun _ => by simp) w)

theorem exportsMethod_remove (h : Host) (n : String) :
    (exportsMethod h ns e "remove" [.str n] []).run w = .ok .none (w.setEntries ns (e.remove n)) :=
  M.run_bind_ok (setPayload_run (fun _ => by simp) w)

end

namespace Frame.Apart

variable {f : Frame} {w : World} {ns : Ref}

theorem valueAt_setEntries (h : f.Apart w ns) (e : Exports Value) {p : Spot} (hp : p.Within f.code) :
    f.valueAt (w.setEntries ns e) p = f.valueAt w p := by
  cases p with
  | slot i => rfl
  | cell i =>
    have apart : ns ≠ cellRef f i := Ne.symm (h.own _ (h.cellRef_mem hp)).2.2.1
    simp only [Frame.valueAt, World.setEntries, World.put_other w apart]

theorem setEntries (h : f.Apart w ns) (e : Exports Value) : f.Apart (w.setEntries ns e) ns := by
  refine ⟨h.slots, h.cells, h.nodup, fun r hr => ?_⟩
  obtain ⟨foreign, inside, outside, plain⟩ := h.own r hr
  refine ⟨foreign, by simpa [World.setEntries, World.put_size] using inside, outside, ?_⟩
  rw [World.setEntries, World.put_other w outside.symm]
  exact plain

end Frame.Apart

/-! Errors. -/

/-- An error of a native class with a message. -/
structure Complains (w : World) (r : Ref) (cls message : String) : Prop where
  foreign : natives.length ≤ r
  inside : r < w.heap.size
  cls : (w.heap.getD r default).cls = nativeRef cls
  told : ∃ x : Exception, (w.heap.getD r default).payload = .exception x ∧ x.args = [.str message]

structure Carries (w : World) (r : Ref) (cls : String) (args : List Value) : Prop where
  foreign : natives.length ≤ r
  inside : r < w.heap.size
  cls : (w.heap.getD r default).cls = nativeRef cls
  told : ∃ x : Exception, (w.heap.getD r default).payload = .exception x ∧ x.args = args

theorem Carries.put {w : World} {r : Ref} {cls : String} {args : List Value} (h : Carries w r cls args)
    {f : Obj → Obj} (same : ∀ (o : Obj) (x : Exception), o.payload = .exception x →
      ∃ y : Exception, (f o).payload = .exception y ∧ y.args = x.args) :
    Carries (w.put r f) r cls args := by
  obtain ⟨x, payload, told⟩ := h.told
  obtain ⟨y, payload', told'⟩ := same _ x payload
  refine ⟨h.foreign, by simpa [World.put_size] using h.inside, ?_, y, ?_, told'.trans told⟩
  · rw [World.put_same h.inside]
    unfold Obj.changed
    rw [if_neg (Nat.not_lt.mpr h.foreign)]
    exact h.cls
  · rw [World.put_same h.inside]
    unfold Obj.changed
    rw [if_neg (Nat.not_lt.mpr h.foreign), payload, payload']
    rfl

theorem complains_iff {w : World} {r : Ref} {cls message : String} :
    Complains w r cls message ↔ Carries w r cls [.str message] :=
  ⟨fun ⟨a, b, c, d⟩ => ⟨a, b, c, d⟩, fun ⟨a, b, c, d⟩ => ⟨a, b, c, d⟩⟩

theorem World.Grows.put {w w' : World} (h : w.Grows w') {r : Ref} (new : w.heap.size ≤ r) {f : Obj → Obj}
    (same : ∀ o, (f o).attrs = o.attrs) : w.Grows (w'.put r f) where
  size := by simpa [World.put_size] using h.size
  objects s hs := by
    rw [World.put_other w' (Nat.ne_of_gt (Nat.lt_of_lt_of_le hs new)) f]
    exact h.objects s hs
  attrs s := by
    refine Eq.trans ?_ (h.attrs s)
    by_cases other : r = s
    · subst other
      by_cases inside : r < w'.heap.size
      · rw [World.put_same inside]
        unfold Obj.changed
        split
        · rfl
        · exact same _
      · have outside : (w'.put r f).heap.size ≤ r := by simpa [World.put_size] using inside
        rw [Array.getD_eq_getD_getElem?, Array.getElem?_eq_none outside, Array.getD_eq_getD_getElem?,
          Array.getElem?_eq_none (Nat.not_lt.mp inside)]
    · rw [World.put_other w' other f]

theorem throwNew_run {α : Type} {w : World} (room : natives.length ≤ w.heap.size) (cls : String)
    (args : List Value) :
    ∃ r w', (do throwExc (← newException cls args) : M α).run w = .error (.raised (.ref r)) w' ∧
      Carries w' r cls args ∧ w.heap.size ≤ r ∧ w.Grows w' := by
  let o : Obj := { cls := nativeRef cls, payload := .exception { args } }
  have made : (newException cls args).run w = .ok (.ref w.heap.size) (w.push o) := rfl
  have new : Carries (w.push o) w.heap.size cls args := by
    refine ⟨room, by simp [World.push], ?_, { args }, ?_, rfl⟩
    · rw [World.push, getD_push, if_pos rfl]
    · rw [World.push, getD_push, if_pos rfl]
  have grows : w.Grows (w.push o) := .push w rfl
  rw [M.run_bind_ok made]
  unfold throwExc
  rw [M.run_bind_ok (show (read : M World).run (w.push o) = .ok (w.push o) (w.push o) from rfl)]
  dsimp only
  split
  next =>
    refine ⟨_, _, M.run_bind_ok rfl, new.put fun o x h => ?_, Nat.le_refl _, grows.put (Nat.le_refl _) fun o => ?_⟩
    · rw [h]
      exact ⟨_, rfl, rfl⟩
    · split <;> rfl
  next => exact ⟨_, _, rfl, new, Nat.le_refl _, grows⟩

theorem raise_run {α : Type} {w : World} (room : natives.length ≤ w.heap.size) (cls message : String) :
    ∃ r w', (raise cls message : M α).run w = .error (.raised (.ref r)) w' ∧
      Complains w' r cls message ∧ w.heap.size ≤ r ∧ w.Grows w' := by
  obtain ⟨r, w', ran, error, new⟩ := throwNew_run (α := α) room cls [.str message]
  exact ⟨r, w', ran, complains_iff.mpr error, new⟩

/-- What a name is complained about with that is a variable and not bound. -/
def unboundMessage (n : String) : String :=
  s!"cannot access local variable {Text.quote n} where it is not associated with a value"

theorem getD_idxOf {names : Array String} {n : String} (mem : n ∈ names.toList) :
    names.getD (names.toList.idxOf n) "" = n := by
  have within := List.idxOf_lt_length_of_mem mem
  rw [Array.getD_eq_getD_getElem?, ← Array.getElem?_toList, List.getElem?_eq_getElem within,
    List.getElem_idxOf within]
  rfl

theorem Frame.load_unbound (h : Host) {f : Frame} {w : World} (room : natives.length ≤ w.heap.size)
    {n : String} {p : Spot} (hp : spot? f.code n = some p) (unbound : f.valueAt w p = none) :
    ∃ r w', (step h f p.load).run w = .error (.raised (.ref r)) w' ∧
      Complains w' r "UnboundLocalError" (unboundMessage n) ∧ w.heap.size ≤ r ∧ w.Grows w' := by
  obtain ⟨r, w', raised, new⟩ := raise_run (α := Value) room "UnboundLocalError" (unboundMessage n)
  refine ⟨r, w', ?_, new⟩
  unfold spot? at hp
  split at hp
  next mem =>
    cases hp
    have within : f.code.cells.toList.idxOf n < f.code.cells.size := by
      simpa using List.idxOf_lt_length_of_mem mem
    have name : f.cellName (f.code.cells.toList.idxOf n) = n := by
      unfold Frame.cellName
      rw [if_pos within, getD_idxOf mem]
    have loaded : (loadCell f (f.code.cells.toList.idxOf n)).run w = .error (.raised (.ref r)) w' := by
      unfold loadCell
      rw [M.run_bind_ok (f.cellValue?_run _ w), unbound]
      unfold unboundCell
      rw [if_pos within, name]
      exact raised
    exact M.run_bind_error (M.run_bind_error loaded)
  next =>
    split at hp
    next mem =>
      cases hp
      have loaded : (loadFast f (f.code.slots.toList.idxOf n)).run w = .error (.raised (.ref r)) w' := by
        unfold loadFast
        rw [show f.slots.getD (f.code.slots.toList.idxOf n) none = none from unbound, getD_idxOf mem]
        exact raised
      exact M.run_bind_error (M.run_bind_error loaded)
    next => cases hp

theorem addTrace_run (f : Frame) {w : World} {r : Ref} {cls message : String} (h : Complains w r cls message) :
    ∃ w', (addTrace f (.ref r)).run w = .ok () w' ∧ Complains w' r cls message ∧
      ∀ w₀ : World, w₀.heap.size ≤ r → w₀.Grows w → w₀.Grows w' := by
  have carries := complains_iff.mp h
  refine ⟨_, rfl, complains_iff.mpr (carries.put fun o x payload => ?_), fun w₀ new grows => grows.put new fun o => ?_⟩
  · rw [payload]
    exact ⟨_, rfl, rfl⟩
  · split <;> rfl

/-! Deeds. -/

inductive Deed where
  /-- Publishes the value of a variable under a key. -/
  | publish (key name : String)
  | remove (key : String)
deriving DecidableEq, Repr

namespace Deed

/-- The namespace after a deed, by the values of the variables; nothing if it reads one that is not
bound. -/
def after (values : String → Option Value) (e : Exports Value) : Deed → Option (Exports Value)
  | .publish key n => (values n).map (e.assign key)
  | .remove n => some (e.remove n)

def afterAll (values : String → Option Value) : Exports Value → List Deed → Option (Exports Value)
  | e, [] => some e
  | e, d :: ds => (d.after values e).bind (afterAll values · ds)

theorem afterAll_remove (values : String → Option Value) (e : Exports Value) (gone : List String) :
    afterAll values e (gone.map .remove) = some (gone.foldl Exports.remove e) := by
  induction gone generalizing e with
  | nil => rfl
  | cons g gone ih => exact ih (e.remove g)

def code (r : Resolved) (slots : Array String) (kind : Bool) : Deed → List Instr
  | .publish key n => [nameInstr r slots "__exports__" .load, .loadAttr "assign", .const (.str key kind),
      nameInstr r slots n .load, .call 2 [], .pop]
  | .remove n => [nameInstr r slots "__exports__" .load, .loadAttr "remove", .const (.str n kind),
      .call 1 [], .pop]

end Deed

inductive Doing (r : Resolved) (slots : Array String) : List Deed → List Instr → Prop where
  | nil : Doing r slots [] []
  | cons (d : Deed) (kind : Bool) {ds : List Deed} {is : List Instr} (rest : Doing r slots ds is) :
    Doing r slots (d :: ds) (d.code r slots kind ++ is)

/-- Where deeds stand: a frame of a function at the top of a text that is to do nothing else with its
variables, and a namespace. -/
structure Stage (r : Resolved) (params : List String) (slots : Array String) (ns : Ref) (f : Frame)
    (w : World) (e : Exports Value) : Prop where
  houses : Houses f.code r params
  base : (Code.slotsOf r params).toList <+: slots.toList
  within : slots.toList <+: f.code.slots.toList
  own : r.binding "__exports__" = .local ∨ r.binding "__exports__" = .cell
  apart : f.Apart w ns
  native : w.Native
  isNamespace : IsNamespace w ns e
  here : f.local? w "__exports__" = some (.ref ns)

def Owns (r : Resolved) (ds : List Deed) : Prop :=
  ∀ key n, .publish key n ∈ ds → r.binding n = .local ∨ r.binding n = .cell

theorem local?_setEntries {f : Frame} {w : World} {ns : Ref} (h : f.Apart w ns) (e : Exports Value) (pc : Nat)
    (n : String) : ({ f with pc } : Frame).local? (w.setEntries ns e) n = f.local? w n := by
  unfold Frame.local?
  cases hp : spot? f.code n with
  | none => rfl
  | some p => exact h.valueAt_setEntries e (spot?_within hp)

/-! What a name stands for. -/

/-- What a name stands for that is no variable: a global one, or one that every program knows. -/
def Frame.global? (f : Frame) (w : World) (n : String) : Option Value :=
  ((w.heap.getD f.globals default).attrs.lookup n).or (builtinTable.lookup n)

/-- What the function of a body knows a name to be. -/
def Frame.known? (r : Resolved) (f : Frame) (w : World) (n : String) : Option Value :=
  match r.binding n with
  | .global | .globalDeclared => f.global? w n
  | _ => f.local? w n

theorem known?_own {r : Resolved} {n : String} (own : r.binding n = .local ∨ r.binding n = .cell) (f : Frame)
    (w : World) : f.known? r w n = f.local? w n := by
  unfold Frame.known?
  rcases own with own | own <;> rw [own]

theorem loadGlobal_known {f : Frame} {w : World} {n : String} {v : Value} (known : f.global? w n = some v) :
    (loadGlobal f n).run w = .ok v w := by
  unfold Frame.global? at known
  unfold loadGlobal
  rw [M.run_bind_ok (own?_run f.globals n w)]
  cases own : (w.heap.getD f.globals default).attrs.lookup n with
  | some u =>
    rw [own] at known
    cases known
    rfl
  | none =>
    rw [own, Option.none_or] at known
    dsimp only
    rw [known]
    rfl

theorem loadGlobal_unknown {f : Frame} {w : World} (room : natives.length ≤ w.heap.size) {n : String}
    (unknown : f.global? w n = none) :
    ∃ r w' message, (loadGlobal f n).run w = .error (.raised (.ref r)) w' ∧
      Complains w' r "NameError" message ∧ w.heap.size ≤ r ∧ w.Grows w' := by
  obtain ⟨r, w', raised, new⟩ := raise_run (α := Value) room "NameError" s!"name {Text.quote n} is not defined"
  refine ⟨r, w', _, ?_, new⟩
  obtain ⟨own, builtin⟩ := Option.or_eq_none_iff.mp unknown
  unfold loadGlobal
  rw [M.run_bind_ok (own?_run f.globals n w), own]
  dsimp only
  rw [builtin]
  exact raised

namespace Stage

variable {r : Resolved} {params : List String} {slots : Array String} {ns : Ref} {f : Frame} {w : World}
  {e e' : Exports Value} {kind : Bool}

theorem spot (st : Stage r params slots ns f w e) {n : String}
    (own : r.binding n = .local ∨ r.binding n = .cell) :
    ∃ p, spot? f.code n = some p ∧ nameInstr r slots n .load = p.load := by
  obtain ⟨p, hp, load, -⟩ := nameInstr_spot st.houses.top st.houses.cells st.base st.within own
  exact ⟨p, hp, load⟩

theorem moved (st : Stage r params slots ns f w e) (pc : Nat) (stack : List Value) (guards : List Guard) :
    Stage r params slots ns { f with pc, stack, guards } w e :=
  ⟨st.houses, st.base, st.within, st.own,
    ⟨st.apart.slots, st.apart.cells, st.apart.nodup, st.apart.own⟩, st.native, st.isNamespace, st.here⟩

theorem room (st : Stage r params slots ns f w e) : natives.length ≤ w.heap.size :=
  Nat.le_trans (st.isNamespace.foreign st.native) (Nat.le_of_lt st.isNamespace.inside)

theorem name_cases (st : Stage r params slots ns f w e) {n : String} (unfree : r.binding n ≠ .free) :
    ((r.binding n = .local ∨ r.binding n = .cell) ∧ f.known? r w n = f.local? w n) ∨
      (nameInstr r slots n .load = .loadGlobal n ∧ f.known? r w n = f.global? w n) := by
  cases found : r.binding n with
  | free => exact absurd found unfree
  | «local» => exact .inl ⟨.inl rfl, known?_own (.inl found) f w⟩
  | cell => exact .inl ⟨.inr rfl, known?_own (.inr found) f w⟩
  | globalDeclared => exact .inr ⟨by simp [nameInstr, found, globalInstr], by simp [Frame.known?, found]⟩
  | global =>
    exact .inr ⟨by simp [nameInstr, found, globalInstr, st.houses.top.kind], by simp [Frame.known?, found]⟩

theorem load_known (st : Stage r params slots ns f w e) (h : Host) {n : String} {v : Value}
    (unfree : r.binding n ≠ .free) (known : f.known? r w n = some v) :
    (step h f (nameInstr r slots n .load)).run w = .ok (.go (f.push v)) w := by
  obtain ⟨own, same⟩ | ⟨load, same⟩ := st.name_cases unfree
  · obtain ⟨p, hp, load⟩ := st.spot own
    rw [load]
    refine Frame.load_run h ?_
    rw [← known, same, Frame.local?, hp]
    rfl
  · have accessed : (stepAccess h f (.loadGlobal n)).run w = .ok (some (f.push v)) w :=
      M.run_bind_ok (loadGlobal_known (same ▸ known))
    rw [load]
    exact M.run_bind_ok accessed

theorem load_unknown (st : Stage r params slots ns f w e) (h : Host) {n : String}
    (unfree : r.binding n ≠ .free) (unknown : f.known? r w n = none) :
    ∃ x w' cls message, (step h f (nameInstr r slots n .load)).run w = .error (.raised (.ref x)) w' ∧
      cls ∈ ["NameError", "UnboundLocalError"] ∧ Complains w' x cls message ∧ w.heap.size ≤ x ∧ w.Grows w' := by
  obtain ⟨own, same⟩ | ⟨load, same⟩ := st.name_cases unfree
  · obtain ⟨p, hp, load⟩ := st.spot own
    have unbound : f.valueAt w p = none := by simpa [same, Frame.local?, hp] using unknown
    obtain ⟨x, w', failed, new⟩ := Frame.load_unbound h st.room hp unbound
    exact ⟨x, w', _, _, load ▸ failed, by decide, new⟩
  · obtain ⟨x, w', message, raised, new⟩ := loadGlobal_unknown st.room (same ▸ unknown)
    have failed : (step h f (.loadGlobal n)).run w = .error (.raised (.ref x)) w' :=
      M.run_bind_error (M.run_bind_error raised)
    exact ⟨x, w', _, message, load ▸ failed, by decide, new⟩

theorem front (st : Stage r params slots ns f w e) (k : Nat) {m n : String} (hm : m ∈ bodyMethods)
    {is : List Instr}
    (stands : Stands f.code f.pc
      (nameInstr r slots "__exports__" .load :: .loadAttr m :: .const (.str n kind) :: is)) :
    Goes (hostAt k) 3 f w ({ f with pc := f.pc + 3 }.pushAll
      [.str n, .bound (.ref ns) (.native "ExportNamespace" m)]) w := by
  obtain ⟨q, hq, load⟩ := st.spot st.own
  rw [load] at stands
  have here : f.valueAt w q = some (.ref ns) := by simpa [Frame.local?, hq] using st.here
  exact method_goes st.native st.isNamespace hm here (stands.front [_, _, _])

theorem done (st : Stage r params slots ns f w e) (e' : Exports Value) (pc : Nat) :
    Stage r params slots ns { f with pc } (w.setEntries ns e') e' where
  houses := st.houses
  base := st.base
  within := st.within
  own := st.own
  apart := ⟨(st.apart.setEntries e').slots, (st.apart.setEntries e').cells, st.apart.nodup,
    (st.apart.setEntries e').own⟩
  native := st.native.put (st.isNamespace.foreign st.native) _
  isNamespace := st.isNamespace.setEntries st.native e'
  here := (local?_setEntries st.apart e' pc _).trans st.here

theorem back (st : Stage r params slots ns f w e) (k : Nat) {m : String} (hm : m ∈ bodyMethods)
    (args : List Value) (some_ : args ≠ []) {pc : Nat} {w' : World}
    (stands : Stands f.code pc [.call args.length [], .pop])
    (called : (exportsMethod (hostAt k) ns e m args []).run w = .ok .none w') :
    Goes (hostAt (k + 1)) 2
      ({ f with pc }.pushAll (args.reverse ++ [Value.bound (.ref ns) (.native "ExportNamespace" m)])) w
      { f with pc := pc + 2 } w' := by
  have first : Goes (hostAt (k + 1)) 1
      ({ f with pc }.pushAll (args.reverse ++ [Value.bound (.ref ns) (.native "ExportNamespace" m)])) w
      ({ f with pc := pc + 1 }.push .none) w' := by
    refine .step stands.head ?_
    exact call_run { f with pc := pc + 1 } some_
      ((st.isNamespace.call st.native k (spaceMethods_of_body hm) args []).trans called)
  exact first.trans (.step stands.tail.head rfl)

theorem publish_goes (st : Stage r params slots ns f w e) (k : Nat) {key n : String} {v : Value}
    (unfree : r.binding n ≠ .free) (known : f.known? r w n = some v)
    (stands : Stands f.code f.pc ((Deed.publish key n).code r slots kind)) :
    Goes (hostAt (k + 1)) 6 f w { f with pc := f.pc + 6 } (w.setEntries ns (e.assign key v)) := by
  have ready := st.front (k + 1) (show "assign" ∈ bodyMethods by decide) stands
  have later := stands.tail.tail.tail
  let callee : Value := .bound (.ref ns) (.native "ExportNamespace" "assign")
  have read_ : Goes (hostAt (k + 1)) 1 ({ f with pc := f.pc + 3 }.pushAll [.str key, callee]) w
      ({ f with pc := f.pc + 4 }.pushAll [v, .str key, callee]) w :=
    .step later.head ((st.moved (f.pc + 4) _ f.guards).load_known _ unfree known)
  have called : Goes (hostAt (k + 1)) 2 ({ f with pc := f.pc + 4 }.pushAll [v, .str key, callee]) w
      { f with pc := f.pc + 6 } (w.setEntries ns (e.assign key v)) :=
    st.back k (show "assign" ∈ bodyMethods by decide) [.str key, v] (List.cons_ne_nil _ _)
      later.tail (exportsMethod_assign _ key v)
  exact (ready.trans read_).trans called

theorem deed_goes (st : Stage r params slots ns f w e) (k : Nat) {d : Deed} (owns : Owns r [d])
    (stands : Stands f.code f.pc (d.code r slots kind)) (after : d.after (f.local? w) e = some e') :
    Goes (hostAt (k + 1)) (d.code r slots kind).length f w
      { f with pc := f.pc + (d.code r slots kind).length } (w.setEntries ns e') := by
  cases d with
  | publish key n =>
    have own := owns key n List.mem_cons_self
    obtain ⟨v, bound, rfl⟩ := Option.map_eq_some_iff.mp after
    refine st.publish_goes k (fun free => ?_) ((known?_own own f w).trans bound) stands
    rcases own with own | own <;> cases own.symm.trans free
  | remove n =>
    cases after
    have ready := st.front (k + 1) (show "remove" ∈ bodyMethods by decide) stands
    let callee : Value := .bound (.ref ns) (.native "ExportNamespace" "remove")
    have called : Goes (hostAt (k + 1)) 2 ({ f with pc := f.pc + 3 }.pushAll [.str n, callee]) w
        { f with pc := f.pc + 5 } (w.setEntries ns (e.remove n)) :=
      st.back k (show "remove" ∈ bodyMethods by decide) [.str n] (List.cons_ne_nil _ _)
        stands.tail.tail.tail (exportsMethod_remove _ n)
    exact ready.trans called

end Stage

end Notebook.Machine
