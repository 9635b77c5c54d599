import Notebook.Proofs.Collect
import Notebook.Proofs.Execution

/-! Modules over whole runs: sources are recorded, and modules are loaded, by specifiers and by loaders.

Between two operations every module that counts as loaded is complete. It stays what it is until source
is recorded for its path, and the next load makes it anew from that source. -/

set_option autoImplicit false

namespace Notebook.Module.Cache

variable {μ : Type} {c : Cache μ} {p : String}

/-- Whether a path is among those that sources are recorded for. -/
def Names (modules : List (String × String)) (p : String) : Prop := ∃ e ∈ modules, e.1 = p

theorem update_journal (c : Cache μ) (modules : List (String × String)) :
    (c.update modules).journal = c.journal := by
  induction modules generalizing c with
  | nil => rfl
  | cons e modules ih => exact ih (c.record e.1 e.2)

theorem isAround_record (path source : String) (h : c.isAround p = true) :
    (c.record path source).isAround p = true := by
  obtain ⟨e, member, below⟩ := List.any_eq_true.mp h
  refine List.any_eq_true.mpr ?_
  unfold record setKey
  dsimp only
  split
  · refine ⟨_, List.mem_map.mpr ⟨e, member, rfl⟩, ?_⟩
    by_cases same : e.1 = path
    · rw [if_pos (by simpa using same)]
      exact same ▸ below
    · rw [if_neg (by simpa using same)]
      exact below
  · exact ⟨e, List.mem_append_left _ member, below⟩

theorem isAround_update (modules : List (String × String)) (h : c.isAround p = true) :
    (c.update modules).isAround p = true := by
  induction modules generalizing c with
  | nil => exact h
  | cons e modules ih => exact ih (c := c.record e.1 e.2) (isAround_record e.1 e.2 h)

theorem update_other {modules : List (String × String)} (other : ¬ Names modules p) :
    (c.update modules).instances.lookup p = c.instances.lookup p ∧
      (c.update modules).sources.lookup p = c.sources.lookup p := by
  induction modules generalizing c with
  | nil => exact ⟨rfl, rfl⟩
  | cons e modules ih =>
    have apart : p ≠ e.1 := fun same => other ⟨e, List.mem_cons_self, same.symm⟩
    have rest := ih (c := c.record e.1 e.2)
      fun ⟨e', member, same⟩ => other ⟨e', List.mem_cons_of_mem _ member, same⟩
    rw [record, lookup_dropKey, lookup_setKey, if_neg apart, if_neg apart] at rest
    exact rest

theorem update_named {modules : List (String × String)} (named : Names modules p) :
    (c.update modules).instances.lookup p = none := by
  induction modules generalizing c with
  | nil =>
    obtain ⟨e, member, -⟩ := named
    cases member
  | cons e modules ih =>
    by_cases later : Names modules p
    · exact ih (c := c.record e.1 e.2) later
    · have here : p = e.1 := by
        obtain ⟨e', member, same⟩ := named
        rcases List.mem_cons.mp member with first | member
        · exact same ▸ first ▸ rfl
        · exact absurd ⟨e', member, same⟩ later
      have rest := (update_other (c := c.record e.1 e.2) later).1
      rw [record, lookup_dropKey, if_pos here] at rest
      exact rest

theorem update_source {modules : List (String × String)} {text : String}
    (last : (setKeys modules []).lookup p = some text) :
    (c.update modules).sources.lookup p = some text := by
  rw [update_sources, lookup_setKeys, last, Option.some_or]

theorem Made.mono {c' : Cache μ} {js : List (Event μ)} {m : μ}
    (source : c'.sources.lookup p = c.sources.lookup p)
    (around : c.isAround p = true → c'.isAround p = true) (h : c.Made js p m) : c'.Made js p m := by
  unfold Made at h ⊢
  rw [source]
  exact h.imp_left fun opened => ⟨around opened.1, opened.2⟩

def isBegin (path source : String) : Event μ → Bool
  | .began p s _ => p == path && s == source
  | _ => false

theorem Ran.any_isBegin {js : List (Event μ)} {source : String} {m : μ} (h : Ran js p source m) :
    js.any (isBegin p source) = true := by
  obtain ⟨later, during, earlier, rfl⟩ := h
  simp [isBegin]

end Notebook.Module.Cache

namespace Notebook.Machine

open Notebook.Module

/-! What happens to a path while no source is recorded for it. -/

/-- A world after another, with no source recorded for a path in between: the module of the path stays,
its body does not run, and no load comes to another; one that comes in is new and complete. -/
structure World.Since (p : String) (w w' : World) : Prop where
  source : w'.cache.sources.lookup p = w.cache.sources.lookup p
  around : w.cache.isAround p = true → w'.cache.isAround p = true
  size : w.heap.size ≤ w'.heap.size
  events : ∃ new, w'.cache.journal = new ++ w.cache.journal ∧
    (∀ m, w.cache.instances.lookup p = some m → w'.cache.instances.lookup p = some m ∧
      (∀ source m', .began p source m' ∉ new) ∧ ∀ m', .loaded p m' ∈ new → m' = m) ∧
    ∀ m, w'.cache.instances.lookup p = some m → w.cache.instances.lookup p = some m ∨
      (w.heap.size ≤ m ∧ w'.cache.Made new p m)

namespace World.Since

variable {p : String} {w w' w'' : World}

theorem trans (h : Since p w w') (h' : Since p w' w'') : Since p w w'' where
  source := h'.source.trans h.source
  around := h'.around ∘ h.around
  size := Nat.le_trans h.size h'.size
  events := by
    obtain ⟨new, journal, kept, made⟩ := h.events
    obtain ⟨new', journal', kept', made'⟩ := h'.events
    refine ⟨new' ++ new, by rw [journal', journal, List.append_assoc], fun m there => ?_,
      fun m there => ?_⟩
    · obtain ⟨still, quiet, same⟩ := kept m there
      obtain ⟨still', quiet', same'⟩ := kept' m still
      refine ⟨still', fun source m' began => ?_, fun m' loaded => ?_⟩
      · rcases List.mem_append.mp began with began | began
        · exact quiet' source m' began
        · exact quiet source m' began
      · rcases List.mem_append.mp loaded with loaded | loaded
        · exact same' m' loaded
        · exact same m' loaded
    · rcases made' m there with there | ⟨fresh, made'⟩
      · refine (made m there).imp_right fun ⟨fresh, made⟩ => ⟨fresh, ?_⟩
        exact .mono h'.source h'.around (by simpa using made.weaken [] new')
      · exact .inr ⟨Nat.le_trans h.size fresh, by simpa using made'.weaken new []⟩

theorem ofLeads (h : w.Leads w') : Since p w w' where
  source := by rw [h.cache.sources]
  around around := h.cache.isAround p ▸ around
  size := h.size
  events := by
    obtain ⟨new, journal, began, loaded, made⟩ := h.cache.events
    refine ⟨new, journal, fun m there => ⟨h.cache.kept p m there, fun source m' b => ?_,
      fun m' b => loaded p m' m b there⟩, fun m there => ?_⟩
    · cases (began p source m' b).symm.trans there
    · rcases made p m there with before | made
      · exact .inl before
      · rcases h.fresh p m there with before | fresh
        · exact .inl before
        · exact .inr ⟨fresh.1, (h.cache.made_iff new p m).mpr made⟩

theorem ofUpdate {modules : List (String × String)} (other : ¬ Cache.Names modules p) :
    Since p w { w with cache := w.cache.update modules } where
  source := (Cache.update_other other).2
  around := Cache.isAround_update modules
  size := Nat.le_refl _
  events := by
    have same := (Cache.update_other (c := w.cache) other).1
    refine ⟨[], Cache.update_journal _ _, fun m there => ⟨same.trans there, ?_, ?_⟩,
      fun m there => .inl (same.symm.trans there)⟩
    · exact fun _ _ => nofun
    · exact fun _ => nofun

end World.Since

/-! Operations. -/

/-- What is done with modules from outside. -/
inductive ModuleOp where
  | update (modules : List (String × String))
  | load (specifier dir : String)
  /-- A call of the loader of a directory. -/
  | call (dir : String) (args : List Value) (keywords : Names)
  /-- Whatever else programs do. -/
  | execute (x : M Value)

namespace ModuleOp

def action? : ModuleOp → Option (M Value)
  | .update _ => none
  | .load specifier dir => some (loadModule host specifier dir)
  | .call dir args keywords => some (callLoader host dir args keywords)
  | .execute x => some x

/-- The world after an operation. -/
def perform (w : World) (op : ModuleOp) : World :=
  match op, op.action? with
  | .update modules, _ => { w with cache := w.cache.update modules }
  | _, some x => worldAfter (x.run w)
  | _, none => w

/-- What an operation returns, if it does. -/
def returned? (w : World) (op : ModuleOp) : Option Value :=
  match op.action? with
  | some x =>
    match x.run w with
    | .ok v _ => some v
    | .error .. => none
  | none => none

/-- Whether an operation records source for a path. -/
def Records (p : String) : ModuleOp → Prop
  | .update modules => Cache.Names modules p
  | _ => False

/-- Operations that load the module of a path: by a specifier that is found there, which may be that of a
submodule. -/
inductive Loads (w : World) (p : String) : ModuleOp → Prop where
  | load {specifier dir : String} : some specifier ≠ w.cache.selfName →
      w.cache.find specifier dir = some p → Loads w p (.load specifier dir)
  | call {specifier dir : String} : some specifier ≠ w.cache.selfName →
      w.cache.find specifier dir = some p → Loads w p (.call dir [.str specifier] [])
  | submodule {specifier name dir : String} : some (Specifier.join specifier name) ≠ w.cache.selfName →
      w.cache.find (Specifier.join specifier name) dir = some p →
      Loads w p (.call dir [.str specifier, .str name] [])

theorem since_perform {p : String} {op : ModuleOp} (w : World) (other : ¬ op.Records p) :
    World.Since p w (op.perform w) := by
  cases op with
  | update modules => exact .ofUpdate other
  | load specifier dir => exact .ofLeads ((loadModule host specifier dir).leads w)
  | call dir args keywords => exact .ofLeads ((callLoader host dir args keywords).leads w)
  | execute x => exact .ofLeads (x.leads w)

end ModuleOp

/-- The world after a list of operations. -/
def World.afterModules (w : World) (ops : List ModuleOp) : World := ops.foldl (fun w op => op.perform w) w

theorem World.since_after {p : String} {ops : List ModuleOp} (w : World)
    (other : ∀ op ∈ ops, ¬ op.Records p) : w.Since p (w.afterModules ops) := by
  induction ops generalizing w with
  | nil => exact .ofLeads (.refl w)
  | cons op ops ih =>
    have first := op.since_perform w (other op List.mem_cons_self)
    exact first.trans (ih _ fun op' member => other op' (List.mem_cons_of_mem _ member))

/-! Loading what is found. -/

theorem install_ok {path source : String} {o : Obj} {body : Ref → M Unit} {m : Ref} {w w' : World}
    (recorded : w.cache.sources.lookup path = some source)
    (h : (install path source o body).run w = .ok m w') : w'.cache.instances.lookup path = some m := by
  unfold install at h
  dsimp only at h
  split at h
  next there =>
    cases h
    exact there
  next =>
    rw [if_pos recorded] at h
    have leads := (body w.heap.size).leads
      { w.push o with cache := w.cache.begin path source w.heap.size }
    split at h
    next ran =>
      cases h
      rw [ran] at leads
      refine leads.cache.kept path w.heap.size ?_
      dsimp only [Cache.begin]
      rw [lookup_setKey, if_pos rfl]
    next => cases h

theorem reach_run (path : String) (w : World) :
    (reach path).run w = match w.cache.instances.lookup path with
      | some m => .ok (some m) { w with cache := w.cache.reach path m }
      | none => .ok none w := rfl

/-- A path that is found has a module or a recorded source, so that making its module never falls back to the
host. -/
theorem recorded_of_knows {c : Cache Ref} {p : String} (known : c.knows p = true)
    (absent : c.instances.lookup p = none) : ∃ source, c.sources.lookup p = some source := by
  unfold Cache.knows at known
  rw [absent] at known
  exact Option.isSome_iff_exists.mp known

theorem atPath_ok {h : Host} {p : String} {m : Ref} {w w' : World} (known : w.cache.knows p = true)
    (ran : ((importing h).toLoading.atPath p).run w = .ok m w') :
    w'.cache.instances.lookup p = some m := by
  obtain ⟨found, w₁, reached, ran⟩ := M.of_bind_ok ran
  change (reach p).run w = _ at reached
  rw [reach_run] at reached
  cases there : w.cache.instances.lookup p with
  | some i =>
    rw [there] at reached
    cases reached
    cases ran
    exact there
  | none =>
    rw [there] at reached
    cases reached
    obtain ⟨source, recorded⟩ := recorded_of_knows known there
    obtain ⟨c, w₂, got, ran⟩ := M.of_bind_ok ran
    cases got
    rw [recorded] at ran
    obtain ⟨code, w₃, ready, ran⟩ := M.of_bind_ok ran
    obtain ⟨c, w₄, got, ran⟩ := M.of_bind_ok ran
    cases got
    obtain ⟨loader, w₅, made, ran⟩ := M.of_bind_ok ran
    refine install_ok ?_ ran
    rw [(M.leads_of_ok made).cache.sources, (M.leads_of_ok ready).cache.sources, recorded]

theorem World.Leads.knows {w w' : World} (h : w.Leads w') {p : String}
    (known : w.cache.knows p = true) : w'.cache.knows p = true := by
  unfold Cache.knows at known ⊢
  rw [h.cache.sources]
  rcases Bool.or_eq_true_iff.mp known with there | recorded
  · obtain ⟨m, there⟩ := Option.isSome_iff_exists.mp there
    rw [h.cache.kept p m there, Option.isSome_some, Bool.true_or]
  · rw [recorded, Bool.or_true]

theorem load_ok {h : Host} {specifier dir p : String} {m : Ref} {w w' : World}
    (other : some specifier ≠ w.cache.selfName) (found : w.cache.find specifier dir = some p)
    (ran : ((importing h).toLoading.load specifier dir).run w = .ok m w') :
    w'.cache.instances.lookup p = some m := by
  have known : w.cache.knows p = true := List.find?_some found
  unfold Loading.load Loading.loadParts at ran
  obtain ⟨c, w₁, got, ran⟩ := M.of_bind_ok ran
  cases got
  simp only [beq_iff_eq, other, found, if_false, Option.isSome_some, Option.isNone_some,
    Bool.false_and, Bool.false_eq_true, if_true] at ran
  have last (parent : Option Ref) (w₁ : World) (leads : w.Leads w₁)
      (ran : ((importing h).toLoading.atPath p >>= fun module =>
        (importing h).toLoading.attachTo parent (Specifier.last specifier) module >>= fun _ =>
          pure module).run w₁ = .ok m w') : w'.cache.instances.lookup p = some m := by
    obtain ⟨module, w₂, made, ran⟩ := M.of_bind_ok ran
    have there := atPath_ok (leads.knows known) made
    obtain ⟨_, w₃, attached, ran⟩ := M.of_bind_ok ran
    cases ran
    exact (M.leads_of_ok attached).cache.kept p m there
  split at ran
  · obtain ⟨parent, w₁, first, ran⟩ := M.of_bind_ok ran
    exact last parent w₁ (M.leads_of_ok first) ran
  · exact last none w (.refl w) ran

theorem loadModule_ok {h : Host} {specifier dir p : String} {v : Value} {w w' : World}
    (other : some specifier ≠ w.cache.selfName) (found : w.cache.find specifier dir = some p)
    (ran : (loadModule h specifier dir).run w = .ok v w') :
    ∃ m, v = .ref m ∧ w'.cache.instances.lookup p = some m := by
  obtain ⟨m, w₁, loaded, ran⟩ := M.of_bind_ok ran
  cases ran
  exact ⟨m, rfl, load_ok other found loaded⟩

theorem callLoader_module (h : Host) (dir specifier : String) (w : World) :
    (callLoader h dir [.str specifier] []).run w = (loadModule h specifier dir).run w := rfl

theorem core_str (s : String) (w : World) : (core (.str s)).run w = .ok (.str s) w := rfl

theorem callLoader_name (h : Host) (dir specifier name : String) (w : World) :
    (callLoader h dir [.str specifier, .str name] []).run w = (loadName h specifier name dir).run w := by
  unfold callLoader
  dsimp only [List.getElem?_cons_zero, List.getElem?_cons_succ]
  refine (M.run_bind_ok (core_str specifier w)).trans ?_
  exact (M.run_bind_ok (core_str name w)).trans rfl

theorem callLoader_submodule {h : Host} {dir specifier name p : String} {w : World}
    (found : w.cache.find (Specifier.join specifier name) dir = some p) :
    (callLoader h dir [.str specifier, .str name] []).run w
      = (loadModule h (Specifier.join specifier name) dir).run w := by
  have got : (importing h).toLoading.get.run w = .ok w.cache w := rfl
  rw [callLoader_name]
  unfold loadName Importing.importName
  rw [M.run_bind_ok got, found, Option.isSome_some, if_pos rfl]
  rfl

theorem ModuleOp.Loads.leads {w : World} {p : String} {op : ModuleOp} (h : op.Loads w p) :
    w.Leads (op.perform w) := by
  cases h with
  | load => exact (loadModule host _ _).leads w
  | call => exact (callLoader host _ _ _).leads w
  | submodule => exact (callLoader host _ _ _).leads w

theorem ModuleOp.Loads.returned {w : World} {p : String} {op : ModuleOp} (h : op.Loads w p) {v : Value}
    (returned : op.returned? w = some v) :
    ∃ m, v = .ref m ∧ (op.perform w).cache.instances.lookup p = some m := by
  have loaded {specifier dir : String} (other : some specifier ≠ w.cache.selfName)
      (found : w.cache.find specifier dir = some p)
      (same : ∃ x, op.action? = some x ∧ x.run w = (loadModule host specifier dir).run w) :
      ∃ m, v = .ref m ∧ (op.perform w).cache.instances.lookup p = some m := by
    obtain ⟨x, action, same⟩ := same
    have performed : op.perform w = worldAfter (x.run w) := by
      cases op <;> cases action <;> rfl
    unfold returned? at returned
    rw [action] at returned
    dsimp only at returned
    rw [performed]
    split at returned
    next v' w' ran =>
      cases returned
      rw [ran] at same ⊢
      exact loadModule_ok other found same.symm
    next => cases returned
  cases h with
  | load other found => exact loaded other found ⟨_, rfl, rfl⟩
  | call other found => exact loaded other found ⟨_, rfl, callLoader_module _ _ _ _⟩
  | submodule other found => exact loaded other found ⟨_, rfl, callLoader_submodule found⟩

/-! Whole runs. -/

/-- Every module that counts as loaded is complete: it is a directory around recorded sources, or its body
was run to the end from the source that is recorded now. -/
def World.Complete (w : World) : Prop :=
  ∀ p m, w.cache.instances.lookup p = some m → w.cache.Made w.cache.journal p m

theorem World.Complete.perform {w : World} (h : w.Complete) (op : ModuleOp) : (op.perform w).Complete := by
  intro p m there
  by_cases records : op.Records p
  · cases op with
    | update modules => cases (Cache.update_named (c := w.cache) records).symm.trans there
    | load _ _ => cases records
    | call _ _ _ => cases records
    | execute _ => cases records
  · have since := op.since_perform w records
    obtain ⟨new, journal, -, made⟩ := since.events
    rw [journal]
    rcases made m there with before | ⟨-, made⟩
    · exact .mono since.source since.around (by simpa using (h p m before).weaken [] new)
    · simpa using made.weaken w.cache.journal []

theorem World.Complete.after {w : World} (h : w.Complete) (ops : List ModuleOp) :
    (w.afterModules ops).Complete := by
  induction ops generalizing w with
  | nil => exact h
  | cons op ops ih => exact ih (h.perform op)

/-- A module that was loaded from outside stays the one of its path until source is recorded for it: its
body does not run, no load inside comes to another, and no load from outside returns another. -/
def World.Steadfast (w : World) (p : String) (m : Ref) : Prop :=
  ∀ more : List ModuleOp, (∀ op ∈ more, ¬ op.Records p) →
    (∃ new, (w.afterModules more).cache.journal = new ++ w.cache.journal ∧
      (∀ source m', .began p source m' ∉ new) ∧ ∀ m', .loaded p m' ∈ new → m' = m) ∧
    ∀ (op : ModuleOp) v, op.Loads (w.afterModules more) p → op.returned? (w.afterModules more) = some v → v = .ref m

theorem steadfast_of_loaded {w : World} {p : String} {m : Ref}
    (there : w.cache.instances.lookup p = some m) : w.Steadfast p m := by
  intro more other
  have since := w.since_after other
  obtain ⟨new, journal, kept, -⟩ := since.events
  obtain ⟨still, quiet, same⟩ := kept m there
  refine ⟨⟨new, journal, quiet, same⟩, fun op v loads returned => ?_⟩
  obtain ⟨m', rfl, there'⟩ := loads.returned returned
  rw [loads.leads.cache.kept p m still] at there'
  cases there'
  rfl

/-- A module that comes in is a new object, made from the source of its path unless it is a directory. -/
theorem World.Since.renewed {w w' : World} {p text : String} {m : Ref} (h : World.Since p w w')
    (absent : w.cache.instances.lookup p = none) (source : w.cache.sources.lookup p = some text)
    (plain : w'.cache.isAround p = false) (there : w'.cache.instances.lookup p = some m) :
    w.heap.size ≤ m ∧ ∃ new, w'.cache.journal = new ++ w.cache.journal ∧ Cache.Ran new p text m := by
  obtain ⟨new, journal, -, made⟩ := h.events
  rcases made m there with before | ⟨fresh, made⟩
  · cases absent.symm.trans before
  · refine ⟨fresh, new, journal, ?_⟩
    rcases made with ⟨around, -⟩ | ⟨text', source', ran⟩
    · cases plain.symm.trans around
    · rw [h.source, source] at source'
      cases source'
      exact ran

/-- Between operations every module is complete. One that was loaded stays until source is recorded for
its path, and then a load gives a new object, made from that source if no sources lie below the path. -/
theorem modules_cohere (places : Path.Places) (rootDir extension : String) (selfName : Option String)
    (ops : List ModuleOp) :
    let w := (World.start { places, rootDir, extension, selfName }).afterModules ops
    w.Complete ∧
    (∀ p (op : ModuleOp) v, op.Loads w p → op.returned? w = some v →
      ∃ m, v = .ref m ∧ (op.perform w).Steadfast p m) ∧
    ∀ p text modules (more : List ModuleOp) (op : ModuleOp) v,
      (setKeys modules []).lookup p = some text → (∀ op ∈ more, ¬ op.Records p) →
      let w₁ := ModuleOp.perform w (.update modules)
      let w₂ := w₁.afterModules more
      w₂.cache.isAround p = false → op.Loads w₂ p → op.returned? w₂ = some v →
        ∃ m, v = .ref m ∧ w.heap.size ≤ m ∧ ∃ new,
          (op.perform w₂).cache.journal = new ++ w₁.cache.journal ∧ Cache.Ran new p text m := by
  intro w
  have started : (World.start { places, rootDir, extension, selfName }).Complete := fun _ _ => nofun
  refine ⟨started.after ops, fun p op v loads returned => ?_, ?_⟩
  · obtain ⟨m, rfl, there⟩ := loads.returned returned
    exact ⟨m, rfl, steadfast_of_loaded there⟩
  · intro p text modules more op v recorded other w₁ w₂ plain loads returned
    obtain ⟨m, rfl, there⟩ := loads.returned returned
    have since : World.Since p w₁ (op.perform w₂) := (w₁.since_after other).trans (.ofLeads loads.leads)
    have absent : w₁.cache.instances.lookup p = none :=
      Cache.update_named (mem_of_lookup_setKeys (recorded ▸ rfl))
    have still : (op.perform w₂).cache.isAround p = false :=
      (loads.leads.cache.isAround p).trans plain
    exact ⟨m, rfl, since.renewed absent (Cache.update_source recorded) still there⟩

/-- No modules yet, in a directory. -/
def noModules : World := .start { places := ⟨"/w", "/home/user"⟩, rootDir := "/w" }

set_option maxRecDepth 100000 in
/-- A module that was loaded and whose source changes. -/
theorem modules_cohere_after_change :
    let w := noModules.afterModules [.update [("/w/a.py", "x = 1\n")], .load "a" "/w"]
    let w₁ := ModuleOp.perform w (.update [("/w/a.py", "x = 2\n")])
    let op := ModuleOp.load "a" "/w"
    w₁.cache.isAround "/w/a.py" = false ∧ op.Loads w₁ "/w/a.py" ∧
      ∃ m, op.returned? w₁ = some (.ref m) ∧ w.heap.size ≤ m ∧ ∃ new,
        (op.perform w₁).cache.journal = new ++ w₁.cache.journal ∧
          Cache.Ran new "/w/a.py" "x = 2\n" m := by
  intro w w₁ op
  have facts : w₁.cache.isAround "/w/a.py" = false ∧ some "a" ≠ w₁.cache.selfName ∧
      w₁.cache.find "a" "/w" = some "/w/a.py" ∧ (op.returned? w₁).isSome = true := by decide +kernel
  obtain ⟨plain, other, found, returns⟩ := facts
  have loads : op.Loads w₁ "/w/a.py" := .load other found
  obtain ⟨v, returned⟩ := Option.isSome_iff_exists.mp returns
  have all := modules_cohere ⟨"/w", "/home/user"⟩ "/w" ".py" (some "pycell")
    [.update [("/w/a.py", "x = 1\n")], .load "a" "/w"]
  obtain ⟨m, rfl, renewed⟩ := all.2.2 "/w/a.py" "x = 2\n" [("/w/a.py", "x = 2\n")] [] op v
    (by decide) (by simp) plain loads returned
  exact ⟨plain, loads, m, returned, renewed⟩

set_option maxRecDepth 100000 in
/-- Where sources lie below a path that has a source itself, the path can become a directory first, and
then a load gives that and does not run the source. -/
theorem not_renewed_around_sources :
    let w := noModules.afterModules [.update [("/w/x.py", "v = 1\n")], .load "x" "/w"]
    let w₁ := ModuleOp.perform w (.update [("/w/x.py", "v = 2\n"), ("/w/x.py/y.py", "")])
    let w₂ := w₁.afterModules [.load "." "/w/x.py"]
    let op := ModuleOp.load "x" "/w"
    op.Loads w "/w/x.py" ∧ op.Loads w₂ "/w/x.py" ∧ ∃ m, op.returned? w₂ = some (.ref m) ∧
      ¬ Cache.Ran (op.perform w₂).cache.journal "/w/x.py" "v = 2\n" m := by
  intro w w₁ w₂ op
  have facts : some "x" ≠ w.cache.selfName ∧ w.cache.find "x" "/w" = some "/w/x.py" ∧
      some "x" ≠ w₂.cache.selfName ∧ w₂.cache.find "x" "/w" = some "/w/x.py" ∧ (op.returned? w₂).isSome = true ∧
      (op.perform w₂).cache.journal.any (Cache.isBegin "/w/x.py" "v = 2\n") = false := by decide +kernel
  obtain ⟨other, found, other', found', returns, none⟩ := facts
  have loads : op.Loads w₂ "/w/x.py" := .load other' found'
  obtain ⟨v, returned⟩ := Option.isSome_iff_exists.mp returns
  obtain ⟨m, rfl, -⟩ := loads.returned returned
  refine ⟨.load other found, loads, m, returned, fun ran => ?_⟩
  cases none.symm.trans ran.any_isBegin

end Notebook.Machine
