import Notebook.Code.Compile

/-! Variables of a function that stands at the top of a text: it shares them with nobody around it. -/

set_option autoImplicit false

namespace Notebook.Scope

def Around.isBare (a : Around) : Prop := a.bound.getD [] = []

def Usage.binding (u : Usage) : Binding :=
  if u.global then .globalDeclared else if u.binds then .local else .global

theorem resolveName_bare {i : Info} {f f' : Found} {name : String} {u : Usage}
    (bare : f.around.isBare) (h : resolveName i f name u = .ok f') :
    f'.bindings = f.bindings ++ [(name, u.binding)] ∧ f'.around.isBare := by
  unfold Around.isBare at bare ⊢
  unfold resolveName at h
  unfold Usage.binding
  split at h
  next global =>
    split at h
    next => cases h
    next =>
      cases h
      refine ⟨by simp [global], ?_⟩
      cases hb : f.around.bound with
      | none => rfl
      | some names => simp_all
  next local_ =>
    split at h
    next =>
      split at h
      next => cases h
      next bound hb =>
        have none_ : bound = [] := by simpa [hb] using bare
        subst none_
        cases h
    next =>
      split at h
      next binds =>
        cases h
        exact ⟨by simp [local_, binds], bare⟩
      next unbound =>
        rw [bare] at h
        cases h
        exact ⟨by simp [local_, unbound], bare⟩

theorem resolveNames_bare {i : Info} {f f' : Found} {usages : List (String × Usage)}
    (bare : f.around.isBare) (h : resolveNames i f usages = .ok f') :
    f'.bindings = f.bindings ++ usages.map (fun (n, u) => (n, u.binding)) ∧ f'.around.isBare := by
  induction usages generalizing f with
  | nil =>
    cases h
    exact ⟨by simp, bare⟩
  | cons entry rest ih =>
    obtain ⟨n, u⟩ := entry
    unfold resolveNames at h
    cases first : resolveName i f n u with
    | error e =>
      rw [first] at h
      cases h
    | ok g =>
      rw [first] at h
      have ⟨here, still⟩ := resolveName_bare bare first
      have ⟨there, finally_⟩ := ih still h
      exact ⟨by rw [there, here]; simp, finally_⟩

theorem lookup_mapValues {α β : Type} (g : String → α → β) (entries : List (String × α)) (n : String) :
    (entries.map fun (k, v) => (k, g k v)).lookup n = (entries.lookup n).map (g n) := by
  induction entries with
  | nil => rfl
  | cons entry rest ih =>
    obtain ⟨k, v⟩ := entry
    by_cases h : n = k
    · simp [h]
    · simp [List.lookup_cons, beq_false_of_ne h, ih]

theorem mem_of_lookup {α : Type} {entries : List (String × α)} {n : String} {a : α}
    (h : entries.lookup n = some a) : (n, a) ∈ entries := by
  obtain ⟨before, after, rfl, -⟩ := List.lookup_eq_some_iff.mp h
  simp

theorem lookup_of_mem {α : Type} {entries : List (String × α)} (nodup : (entries.map (·.1)).Nodup)
    {n : String} {a : α} (h : (n, a) ∈ entries) : entries.lookup n = some a := by
  induction entries with
  | nil => cases h
  | cons entry rest ih =>
    obtain ⟨m, b⟩ := entry
    obtain ⟨fresh, nodup⟩ := List.nodup_cons.mp nodup
    rcases List.mem_cons.mp h with same | h
    · cases same
      simp
    · have other : n ≠ m := fun same => fresh (List.mem_map.mpr ⟨(n, a), h, same⟩)
      rw [List.lookup_cons, beq_false_of_ne other]
      exact ih nodup h

/-- A function at the top of a text: all its variables are its own. -/
structure Resolved.TopFunction (r : Resolved) : Prop where
  kind : r.info.kind = .function
  closure : r.closure = []
  needsClass : r.needsClass = false
  nodup : (r.bindings.map (·.1)).Nodup
  assigned : ∀ n, (r.info.usage n).isAssigned = true → (r.info.usage n).isDeclared = false →
    r.binding n = .local ∨ r.binding n = .cell

theorem Resolved.TopFunction.mem_names {r : Resolved} (top : r.TopFunction) {n : String} {b : Binding}
    (hb : b ≠ .global) : n ∈ r.names b ↔ r.binding n = b := by
  simp only [names, binding, List.mem_map, List.mem_filter, beq_iff_eq, Prod.exists]
  constructor
  · rintro ⟨m, c, ⟨mem, rfl⟩, rfl⟩
    rw [lookup_of_mem top.nodup mem]
    rfl
  · intro h
    cases found : r.bindings.lookup n with
    | none =>
      rw [found] at h
      exact absurd h.symm hb
    | some c =>
      rw [found] at h
      exact ⟨n, c, ⟨mem_of_lookup found, h⟩, rfl⟩

theorem Usage.shared_ne_free (i : Info) (inner : List String) (n : String) (u : Usage) :
    shared i inner n u.binding ≠ .free := by
  have own : u.binding ≠ .free := by
    unfold binding
    cases u.global <;> cases u.binds <;> decide
  unfold shared
  split
  · decide
  · exact own

theorem resolveBlock_function {around : Around} {i : Info} {inner : List Block} {r : Resolved}
    {free : List String} (bare : around.isBare) (kind : i.kind = .function)
    (nodup : (i.usages.map (·.1)).Nodup)
    (h : resolveBlock around (.mk i inner) = .ok (r, free)) :
    r.TopFunction ∧ r.info = i ∧ ∀ n, r.binding n ≠ .free := by
  unfold resolveBlock at h
  cases named : resolveNames i { around } i.usages with
  | error e =>
    rw [named] at h
    cases h
  | ok f =>
    have ⟨bindings, still⟩ := resolveNames_bare (f := { around }) bare named
    rw [named] at h
    simp only [bind, Except.bind] at h
    cases resolved : resolveBlocks (inherited i around f) inner with
    | error e =>
      rw [resolved] at h
      cases h
    | ok out =>
      obtain ⟨blocks, innerFree⟩ := out
      rw [resolved] at h
      cases h
      have around_ : f.around.bound.getD [] = [] := still
      have own : settled i f innerFree
          = i.usages.map fun (n, u) => (n, shared i innerFree n u.binding) := by
        have none_ (names : List String) : names.filter (fun _ => false) = [] := by simp
        simp [settled, kind, around_, bindings, none_, Function.comp_def]
      have unfree : (settled i f innerFree).filter (·.2 == .free) = [] := by
        rw [own, List.filter_eq_nil_iff]
        rintro _ mem
        obtain ⟨⟨m, u⟩, _, rfl⟩ := List.mem_map.mp mem
        simpa using u.shared_ne_free i innerFree m
      have looked (n : String) : (Resolved.mk i (settled i f innerFree) (closureOf i f innerFree)
          (i.kind == .class && innerFree.contains "__class__") blocks).binding n
            = ((i.usages.lookup n).map fun u => shared i innerFree n u.binding).getD .global := by
        change (List.lookup n (settled i f innerFree)).getD .global = _
        rw [own, lookup_mapValues fun n u => shared i innerFree n (Usage.binding u)]
      refine ⟨⟨kind, ?_, ?_, ?_, fun n assigned declared => ?_⟩, rfl, fun n => ?_⟩
      · simp [Resolved.closure, closureOf, unfree, kind]
      · simp [Resolved.needsClass, kind]
      · simpa [Resolved.bindings, own, Function.comp_def] using nodup
      · rw [looked]
        simp only [Resolved.info, Info.usage] at assigned declared
        cases found : i.usages.lookup n with
        | none => simp [found, Usage.isAssigned] at assigned
        | some u =>
          rw [found] at assigned declared
          have binds : u.binds = true := by
            simp only [Option.getD_some, Usage.isAssigned] at assigned
            simp [Usage.binds, assigned]
          have local_ : u.binding = .local := by
            simp only [Option.getD_some, Usage.isDeclared, Bool.or_eq_false_iff] at declared
            simp [Usage.binding, binds, declared]
          simp only [Option.map_some, Option.getD_some, shared, local_]
          split
          · exact .inr rfl
          · exact .inl rfl
      · rw [looked]
        cases i.usages.lookup n with
        | none => simp
        | some u => exact u.shared_ne_free i innerFree n

theorem resolve_text {i : Info} {bs : List Block} {r : Resolved} (kind : i.kind = .module)
    (h : resolve (.mk i bs) = .ok r) :
    r.info = i ∧ (∀ n, r.binding n ≠ .cell ∧ r.binding n ≠ .free) ∧
      ∃ around free, around.isBare ∧ resolveBlocks around bs = .ok (r.inner, free) := by
  have bare : ({ bound := none, global := [] } : Around).isBare := rfl
  unfold resolve resolveBlock at h
  cases named : resolveNames i { around := { bound := none, global := [] } } i.usages with
  | error e =>
    rw [named] at h
    cases h
  | ok f =>
    have ⟨bindings, still⟩ :=
      resolveNames_bare (f := { around := { bound := none, global := [] } }) bare named
    have inherits : (inherited i { bound := none, global := [] } f).isBare := by
      simp only [inherited, kind]
      exact still
    rw [named] at h
    simp only [bind, Except.bind] at h
    cases resolved : resolveBlocks (inherited i { bound := none, global := [] } f) bs with
    | error e =>
      rw [resolved] at h
      cases h
    | ok out =>
      obtain ⟨blocks, free⟩ := out
      rw [resolved] at h
      cases h
      refine ⟨rfl, fun n => ?_, _, free, inherits, resolved⟩
      have own (inner : List String) : settled i f inner
          = i.usages.map fun (n, u) => (n, Usage.binding u) := by
        simp [settled, kind, bindings, shared, Function.comp_def]
      simp only [Resolved.binding, Resolved.bindings, own, lookup_mapValues fun _ u => Usage.binding u]
      cases i.usages.lookup n with
      | none => simp
      | some u =>
        simp only [Option.map_some, Option.getD_some]
        unfold Usage.binding
        cases u.global <;> cases u.binds <;> decide

theorem resolve_single {i : Info} {b : Block} {r : Resolved} (kind : i.kind = .module)
    (h : resolve (.mk i [b]) = .ok r) :
    r.info = i ∧ (∀ n, r.binding n ≠ .cell ∧ r.binding n ≠ .free) ∧
      ∃ around f free, around.isBare ∧ resolveBlock around b = .ok (f, free) ∧ r.inner = [f] := by
  obtain ⟨info, own, around, free, bare, resolved⟩ := resolve_text kind h
  simp only [resolveBlocks, bind, Except.bind] at resolved
  cases one : resolveBlock around b with
  | error e =>
    rw [one] at resolved
    cases resolved
  | ok out =>
    rw [one] at resolved
    exact ⟨info, own, around, out.1, out.2, bare, one, (congrArg Prod.fst (Except.ok.inj resolved)).symm⟩

end Notebook.Scope
