import Notebook.Proofs.Coherence
import Notebook.Proofs.HostModules
import Notebook.Proofs.Packages

/-! How a module is loaded: after the package around it, from the path that is found for it. -/

set_option autoImplicit false

namespace Notebook.Machine

open Notebook.Module

variable {h : Host} {s dir : String} {w : World}

def isInside (s : String) : Bool := !Specifier.isPath s && !Specifier.isOnlyDots (Specifier.parent s)

def loadPackage (h : Host) (c : Cache Ref) (s dir : String) : M (Option Ref) :=
  if isInside s && c.serves (Specifier.parent s) dir then
    some <$> (importing h).toLoading.load (Specifier.parent s) dir
  else pure none

def loadPlace (h : Host) (c : Cache Ref) (s dir : String) : M Ref :=
  match c.find s dir, c.namespaceDir s dir with
  | some p, _ => (importing h).toLoading.atPath p
  | none, some d => (importing h).toLoading.atDir d
  | none, none => (importing h).toLoading.hostImport s

def loadServed (h : Host) (c : Cache Ref) (s dir : String) : M Ref := do
  let package ← loadPackage h c s dir
  let module ← loadPlace h c s dir
  (importing h).toLoading.attachTo package (Specifier.last s) module
  return module

theorem length_parts_parent (inside : isInside s = true) :
    (Specifier.parts s).length = (Specifier.parts (Specifier.parent s)).length + 1 := by
  simp only [isInside, Bool.and_eq_true, Bool.not_eq_true'] at inside
  obtain ⟨whole, dotless⟩ := Specifier.parent_append inside.2
  have parts := Specifier.parts_inside (Specifier.parent s) dotless
  rw [← whole] at parts
  rw [parts, List.length_append, List.length_singleton]

/-- Loading by the chain: the interface of the engine, what the cache serves, and last the host. -/
theorem load_run (h : Host) (s dir : String) (w : World) :
    ((importing h).toLoading.load s dir).run w =
      if some s = w.cache.selfName then (hostImport s).run w
      else if w.cache.serves s dir = true then (loadServed h w.cache s dir).run w
      else ((importing h).toLoading.hostImport s).run w := by
  have got : (importing h).toLoading.get.run w = .ok w.cache w := rfl
  -- The loads of the package with the fuel that is left and with its own are the same.
  have fuel : isInside s = true → (importing h).toLoading.loadParts dir (Specifier.parts s).length
      (Specifier.parent s) = (importing h).toLoading.load (Specifier.parent s) dir := by
    intro inside
    rw [length_parts_parent inside, Loading.load]
  have package (k : Option Ref → M Ref) :
      (if (!Specifier.isPath s && !Specifier.isOnlyDots (Specifier.parent s) &&
          ((w.cache.find (Specifier.parent s) dir).isSome
            || (w.cache.namespaceDir (Specifier.parent s) dir).isSome)) = true then
        some <$> (importing h).toLoading.loadParts dir (Specifier.parts s).length (Specifier.parent s) >>= k
      else pure none >>= k) = loadPackage h w.cache s dir >>= k := by
    unfold loadPackage
    by_cases both : (isInside s && w.cache.serves (Specifier.parent s) dir) = true
    · rw [if_pos both, ← fuel (Bool.and_eq_true_iff.mp both).1]
      exact if_pos both
    · rw [if_neg both]
      exact if_neg both
  unfold Loading.load Loading.loadParts
  rw [M.run_bind_ok got]
  dsimp only
  by_cases self : some s = w.cache.selfName
  · simp only [beq_iff_eq, self, if_true]
    rfl
  simp only [beq_iff_eq, self, if_false]
  rw [package]
  unfold loadServed loadPlace Cache.serves
  cases w.cache.find s dir with
  | some p => simp
  | none =>
    cases w.cache.namespaceDir s dir with
    | some d => simp
    | none => simp

theorem served_package (held : w.cache.Held) (inside : isInside s = true) (served : w.cache.serves s dir = true) :
    w.cache.serves (Specifier.parent s) dir = true := by
  simp only [isInside, Bool.and_eq_true, Bool.not_eq_true'] at inside
  exact Cache.serves_parent held inside.1 inside.2 served

/-! Loading what is there. -/

/-- A change in which no body begins. -/
def World.Idle (w w' : World) : Prop :=
  ∃ new, w'.cache.journal = new ++ w.cache.journal ∧ ∀ p s m, .began p s m ∉ new

namespace World.Idle

variable {w w' w'' : World}

theorem refl (w : World) : w.Idle w := ⟨[], rfl, nofun⟩

theorem trans (h : w.Idle w') (h' : w'.Idle w'') : w.Idle w'' := by
  obtain ⟨new, journal, quiet⟩ := h
  obtain ⟨new', journal', quiet'⟩ := h'
  refine ⟨new' ++ new, by rw [journal', journal, List.append_assoc], fun p s m began => ?_⟩
  rcases List.mem_append.mp began with began | began
  · exact quiet' p s m began
  · exact quiet p s m began

theorem ofCache (same : w'.cache = w.cache) : w.Idle w' := ⟨[], by rw [same]; rfl, nofun⟩

end World.Idle

def settable (a : String) : Bool := a != "__class__" && a != "__dict__"

/-- A specifier that loads without running anything: its module and those of the packages around it are
there. -/
inductive World.Loaded (w : World) (dir : String) : String → Prop where
  | self {s : String} : some s = w.cache.selfName → s ≠ "" → (w.hosts.lookup s).isSome → Loaded w dir s
  | served {s : String} : some s ≠ w.cache.selfName → w.cache.serves s dir = true →
      (∀ p, w.cache.find s dir = some p → (w.cache.instances.lookup p).isSome) →
      (isInside s = true → settable (Specifier.last s) = true) →
      (isInside s = true → Loaded w dir (Specifier.parent s)) → Loaded w dir s

theorem reach_there {p : String} {m : Ref} (there : w.cache.instances.lookup p = some m) :
    ((importing h).toLoading.reach p).run w = .ok (some m) { w with cache := w.cache.reach p m } := by
  change (reach p).run w = _
  rw [reach_run, there]

theorem reach_absent {p : String} (absent : w.cache.instances.lookup p = none) :
    ((importing h).toLoading.reach p).run w = .ok none w := by
  change (reach p).run w = _
  rw [reach_run, absent]

theorem World.Idle.reach (w : World) (p : String) (m : Ref) :
    w.Idle { w with cache := w.cache.reach p m } := ⟨[.loaded p m], rfl, by simp⟩

theorem atPath_there {p : String} {m : Ref} (there : w.cache.instances.lookup p = some m) :
    ((importing h).toLoading.atPath p).run w = .ok m { w with cache := w.cache.reach p m } :=
  M.run_bind_ok (reach_there there)

theorem isStill_raiseFault {α : Type} (file : String) (f : Source.Fault) :
    (raiseFault file f : M α).IsStill :=
  .bind (.newOf _ _) fun _ => .bind (.newOf _ _) fun _ => isStill_throwExc _

theorem isStill_moduleProgram (path source : String) : (moduleProgram path source).IsStill := by
  refine .bind (.change fun _ => rfl) fun _ => .bind ?_ fun body => ?_
  · unfold statements
    split
    · exact .pure _
    · exact isStill_raise _ _
    · exact isStill_raiseFault _ _
  · cases Code.compile { file := path, deferred := true } body with
    | ok code => exact .pure code
    | error f => exact isStill_raiseFault path f

theorem install_returns {p source : String} {o : Obj} {body : Ref → M Unit} {w' : World}
    (absent : w.cache.instances.lookup p = none) (recorded : w.cache.sources.lookup p = some source)
    (ran : (body w.heap.size).run { w.push o with cache := w.cache.begin p source w.heap.size } = .ok () w') :
    (install p source o body).run w = .ok w.heap.size { w' with cache := w'.cache.finish p w.heap.size } := by
  unfold install
  simp only [absent, recorded, if_true, ran]

theorem install_fails {p source : String} {o : Obj} {body : Ref → M Unit} {e : Stop} {w' : World}
    (absent : w.cache.instances.lookup p = none) (recorded : w.cache.sources.lookup p = some source)
    (ran : (body w.heap.size).run { w.push o with cache := w.cache.begin p source w.heap.size } = .error e w') :
    (install p source o body).run w = .error e { w' with cache := w'.cache.fail p w.heap.size } := by
  unfold install
  simp only [absent, recorded, if_true, ran]

/-- Where a module is made the cache is as it was when its path was found without one, so that `install` never
comes to a path that is loaded or not recorded. -/
theorem atPath_install {p source : String} {code : Code.Program} {loader : Value} {w₁ w₂ : World}
    (absent : w.cache.instances.lookup p = none) (recorded : w.cache.sources.lookup p = some source)
    (ready : (moduleProgram p source).run w = .ok code w₁)
    (made : (newLoader (Path.parent p)).run w₁ = .ok loader w₂) :
    ((importing h).toLoading.atPath p).run w
        = (install p source (moduleOf (w₁.cache.moduleName p) [("__file__", .str p), ("__require__", loader)])
            fun module => runIn h module code).run w₂ ∧ w₂.cache = w.cache := by
  have got : (importing h).toLoading.get.run w = .ok w.cache w := rfl
  have named : (importing h).toLoading.get.run w₁ = .ok w₁.cache w₁ := rfl
  have still := ((isStill_moduleProgram p source).ofOk ready).trans ((M.IsStill.newOf _ _).ofOk made)
  refine ⟨?_, still.cache⟩
  unfold Loading.atPath Loading.instantiate
  rw [M.run_bind_ok (reach_absent absent), M.run_bind_ok got, recorded]
  dsimp only
  rw [M.run_bind_ok (show ((importing h).toLoading.ready p source).run w = .ok code w₁ from ready),
    M.run_bind_ok named]
  exact M.run_bind_ok made

def dirModule (w : World) (p : String) : Obj := moduleOf (w.cache.moduleName p) [("__path__", .ref w.heap.size)]

def World.opened (w : World) (p : String) : World :=
  let w₁ := w.push { cls := nativeRef "list", payload := .list [Value.str p].toArray }
  { w₁.push (dirModule w p) with cache := w.cache.openDir p w₁.heap.size }

theorem atDir_there {p : String} {m : Ref} (there : w.cache.instances.lookup p = some m) :
    ((importing h).toLoading.atDir p).run w = .ok m { w with cache := w.cache.reach p m } :=
  M.run_bind_ok (reach_there there)

theorem atDir_absent {p : String} (absent : w.cache.instances.lookup p = none) :
    ((importing h).toLoading.atDir p).run w = .ok (w.heap.size + 1) (w.opened p) := by
  let w₁ := w.push { cls := nativeRef "list", payload := .list [Value.str p].toArray }
  have size : w₁.heap.size = w.heap.size + 1 := by simp [w₁, World.push]
  have installed : (installDir p (dirModule w p)).run w₁ = .ok w₁.heap.size (w.opened p) := by
    have absent₁ : w₁.cache.instances.lookup p = none := absent
    simp only [installDir, absent₁]
    rfl
  rw [size] at installed
  exact (M.run_bind_ok (reach_absent absent)).trans installed

theorem atDir_runs (h : Host) (p : String) (w : World) :
    ∃ m w', ((importing h).toLoading.atDir p).run w = .ok m w' ∧ w.Idle w' := by
  cases there : w.cache.instances.lookup p with
  | some m => exact ⟨m, _, atDir_there there, .reach w p m⟩
  | none => exact ⟨_, _, atDir_absent there, [.loaded p _, .opened p _], rfl, by simp⟩

theorem atDir_ok {p : String} {m : Ref} {w' : World} (around : w.cache.isAround p = true)
    (ran : ((importing h).toLoading.atDir p).run w = .ok m w') : w'.cache.instances.lookup p = some m := by
  cases there : w.cache.instances.lookup p with
  | some i =>
    cases (atDir_there (h := h) there).symm.trans ran
    exact there
  | none =>
    have opened : (w.opened p).cache.instances = setKey p (w.heap.size + 1) w.cache.instances := by
      simp [World.opened, Cache.openDir, around, World.push]
    cases (atDir_absent (h := h) there).symm.trans ran
    rw [opened, lookup_setKey, if_pos rfl]

theorem attach_set (h : Host) (package : Ref) {a : String} (set : settable a = true) (m : Ref) :
    (importing h).toLoading.attach package a m = setOwn package a (.ref m) := by
  simp only [settable, Bool.and_eq_true, bne_iff_ne] at set
  simp only [importing]
  split
  · exact absurd rfl set.1
  · exact absurd rfl set.2
  · rfl

theorem attach_ok {package : Ref} {a : String} {m : Ref} {w w' : World} {u : PUnit}
    (ran : ((importing h).toLoading.attach package a m).run w = .ok u w') : settable a = true := by
  simp only [importing] at ran
  split at ran
  · obtain ⟨w₁, raised⟩ := throwExc_error (α := PUnit) (.ref w.heap.size) _
    cases raised.symm.trans ran
  · obtain ⟨w₁, raised⟩ := throwExc_error (α := PUnit) (.ref w.heap.size) _
    cases raised.symm.trans ran
  next not_class not_dict => simpa [settable] using ⟨not_class, not_dict⟩

theorem attachTo_some (h : Host) (r : Ref) (a : String) (m : Ref) :
    (importing h).toLoading.attachTo (some r) a m = (importing h).toLoading.attach r a m := rfl

theorem attachTo_runs (h : Host) {package : Option Ref} {a : String}
    (set : package.isSome = true → settable a = true) (m : Ref) (w : World) :
    ∃ w', ((importing h).toLoading.attachTo package a m).run w = .ok ⟨⟩ w' ∧ w.Idle w' := by
  cases package with
  | none => exact ⟨w, rfl, .refl w⟩
  | some r =>
    obtain ⟨w', ran, sets⟩ := sets_run r a (.ref m) w
    refine ⟨w', ?_, .ofCache sets.cache⟩
    rw [attachTo_some, ← ran, ← attach_set h r (set rfl)]

theorem host_idle (name : String) (w : World) : w.Idle (worldAfter ((hostImport name).run w)) := by
  have ends := hostImport_ends (w := w) name
  unfold M.Ends at ends
  split at ends <;> rename_i ran <;> rw [ran] <;> exact .ofCache ends.1.cache

theorem refuseImport_idle {α : Type} (cls message name : String) (w : World) :
    w.Idle (worldAfter ((refuseImport cls message name : M α).run w)) := by
  obtain ⟨w₁, still, run⟩ := refuseImport_run (α := α) cls message name w
  rw [run]
  exact .ofCache (still.trans (isStill_throwExc _ w₁)).cache

theorem hostImport_idle (h : Host) (s : String) (w : World) :
    w.Idle (worldAfter (((importing h).toLoading.hostImport s).run w)) := by
  unfold Loading.hostImport
  split
  · exact refuseImport_idle _ _ s w
  · exact host_idle s w

/-- Where the package of a module loads again and its instance is there, all that is left is to make it an
attribute. -/
theorem loadServed_there {w : World} (served : w.cache.serves s dir = true)
    (found : ∀ p, w.cache.find s dir = some p → (w.cache.instances.lookup p).isSome)
    (around : isInside s = true → ∃ m w', ((importing h).toLoading.load (Specifier.parent s) dir).run w = .ok m w' ∧
      w.Idle w') :
    ∃ package m w₁, w.Idle w₁ ∧ w.Leads w₁ ∧ (package.isSome = true → isInside s = true) ∧
      (loadServed h w.cache s dir).run w
        = (do (importing h).toLoading.attachTo package (Specifier.last s) m; return m : M Ref).run w₁ := by
  obtain ⟨package, w₁, ran, idle, inside⟩ : ∃ package w₁, (loadPackage h w.cache s dir).run w = .ok package w₁ ∧
      w.Idle w₁ ∧ (package.isSome = true → isInside s = true) := by
    unfold loadPackage
    by_cases both : (isInside s && w.cache.serves (Specifier.parent s) dir) = true
    · have inside := (Bool.and_eq_true_iff.mp both).1
      obtain ⟨m, w₁, ran, idle⟩ := around inside
      rw [if_pos both]
      exact ⟨some m, w₁, M.run_bind_ok ran, idle, fun _ => inside⟩
    · rw [if_neg both]
      exact ⟨none, w, rfl, .refl w, nofun⟩
  obtain ⟨m, w₂, made, idle₂⟩ : ∃ m w₂, (loadPlace h w.cache s dir).run w₁ = .ok m w₂ ∧ w₁.Idle w₂ := by
    unfold loadPlace
    cases place : w.cache.find s dir with
    | some p =>
      obtain ⟨m, there⟩ := Option.isSome_iff_exists.mp (found p place)
      exact ⟨m, _, atPath_there ((M.leads_of_ok ran).cache.kept p m there), .reach w₁ p m⟩
    | none =>
      cases around : w.cache.namespaceDir s dir with
      | some d => exact atDir_runs h d w₁
      | none => simp [Cache.serves, place, around] at served
  refine ⟨package, m, w₂, idle.trans idle₂, (M.leads_of_ok ran).trans (M.leads_of_ok made), inside, ?_⟩
  unfold loadServed
  rw [M.run_bind_ok ran, M.run_bind_ok made]

theorem World.Loaded.again (h : Host) {w : World} (loaded : w.Loaded dir s) :
    ∃ m w', ((importing h).toLoading.load s dir).run w = .ok m w' ∧ w.Idle w' := by
  induction loaded with
  | self same full there =>
    obtain ⟨r, there⟩ := Option.isSome_iff_exists.mp there
    exact ⟨r, w, by rw [load_run, if_pos same, hostImport_there full there], .refl w⟩
  | served other served found set _ ih =>
    obtain ⟨package, m, w₁, idle, -, inside, run⟩ := loadServed_there (h := h) served found ih
    obtain ⟨w₂, attached, idle₂⟩ := attachTo_runs h (fun some => set (inside some)) m w₁
    refine ⟨m, w₂, ?_, idle.trans idle₂⟩
    rw [load_run, if_neg other, if_pos served, run, M.run_bind_ok attached]
    rfl

/-! What stays while modules come in. -/

section

variable {w' : World}

theorem World.Leads.find (leads : w.Leads w') {p : String} (found : w'.cache.find s dir = some p)
    (known : w.cache.knows p = true) : w.cache.find s dir = some p := by
  have extension : w'.cache.extension = w.cache.extension := congrArg (·.extension) leads.cache.same
  unfold Cache.find at found ⊢
  rw [extension] at found
  rw [← found]
  refine Session.find?_eq (fun p _ => leads.knows) fun q there => ?_
  cases found.symm.trans there
  exact known

theorem World.Leads.namespaceDir (leads : w.Leads w') (s dir : String) :
    w'.cache.namespaceDir s dir = w.cache.namespaceDir s dir := by
  simp only [Cache.namespaceDir, leads.cache.isAround]

theorem World.Leads.finds (leads : w.Leads w') (found : (w.cache.find s dir).isSome) :
    (w'.cache.find s dir).isSome := by
  have extension : w'.cache.extension = w.cache.extension := congrArg (·.extension) leads.cache.same
  rw [Cache.find, List.find?_isSome] at found ⊢
  obtain ⟨p, candidate, known⟩ := found
  exact ⟨p, extension ▸ candidate, leads.knows known⟩

theorem World.Leads.serves (leads : w.Leads w') (served : w.cache.serves s dir = true) :
    w'.cache.serves s dir = true := by
  unfold Cache.serves at served ⊢
  rw [leads.namespaceDir]
  exact Bool.or_eq_true_iff.mpr ((Bool.or_eq_true_iff.mp served).imp_left leads.finds)

theorem World.Leads.found (leads : w.Leads w')
    (found : ∀ p, w.cache.find s dir = some p → (w'.cache.instances.lookup p).isSome) {p : String}
    (place : w'.cache.find s dir = some p) : (w'.cache.instances.lookup p).isSome := by
  by_cases known : w.cache.knows p = true
  · exact found p (leads.find place known)
  · have knows : w'.cache.knows p = true := List.find?_some place
    simp only [Cache.knows, Bool.or_eq_true, not_or] at known knows
    rw [leads.cache.sources] at knows
    exact knows.resolve_right known.2

theorem World.Leads.selfName (leads : w.Leads w') : w'.cache.selfName = w.cache.selfName :=
  congrArg (·.selfName) leads.cache.same

theorem World.Leads.hosted (leads : w.Leads w') {name : String} (there : (w.hosts.lookup name).isSome) :
    (w'.hosts.lookup name).isSome := by
  obtain ⟨more, same⟩ := leads.hosts
  rw [← same, List.lookup_append]
  obtain ⟨r, there⟩ := Option.isSome_iff_exists.mp there
  simp [there]

theorem World.Leads.kept (leads : w.Leads w') {p : String} (there : (w.cache.instances.lookup p).isSome) :
    (w'.cache.instances.lookup p).isSome := by
  obtain ⟨m, there⟩ := Option.isSome_iff_exists.mp there
  rw [leads.cache.kept p m there, Option.isSome_some]

theorem World.Loaded.leads (loaded : w.Loaded dir s) (leads : w.Leads w') : w'.Loaded dir s := by
  induction loaded with
  | self same full there => exact .self (leads.selfName ▸ same) full (leads.hosted there)
  | served other served found set _ ih =>
    exact .served (leads.selfName ▸ other) (leads.serves served)
      (fun p => leads.found fun q place => leads.kept (found q place)) set ih

end

/-- What is loaded of a module that is served: the package around it, the module, and the attribute. -/
theorem loadServed_ok {m : Ref} {w' : World} (ran : (loadServed h w.cache s dir).run w = .ok m w') :
    ∃ package w₁ w₂, (loadPackage h w.cache s dir).run w = .ok package w₁ ∧
      (loadPlace h w.cache s dir).run w₁ = .ok m w₂ ∧
      ((importing h).toLoading.attachTo package (Specifier.last s) m).run w₂ = .ok ⟨⟩ w' := by
  obtain ⟨package, w₁, first, rest⟩ := M.of_bind_ok ran
  obtain ⟨m, w₂, made, rest⟩ := M.of_bind_ok rest
  obtain ⟨_, w₃, attached, last⟩ := M.of_bind_ok rest
  cases last
  exact ⟨package, w₁, w₂, first, made, attached⟩

theorem loadPackage_ok {package : Option Ref} {w' : World} (inside : isInside s = true)
    (served : w.cache.serves (Specifier.parent s) dir = true)
    (ran : (loadPackage h w.cache s dir).run w = .ok package w') :
    ∃ r, package = some r ∧ ((importing h).toLoading.load (Specifier.parent s) dir).run w = .ok r w' := by
  unfold loadPackage at ran
  rw [inside, served, Bool.and_self, if_pos rfl] at ran
  obtain ⟨r, _, loaded, done⟩ := M.of_bind_ok ran
  cases done
  exact ⟨r, rfl, loaded⟩

/-- What a specifier stands for in a world, as it is in a later one: the interface of the engine, or the module at the
place that was found. -/
def World.Answers (w w' : World) (dir s : String) (m : Ref) : Prop :=
  (some s = w.cache.selfName ∧ w'.hosts.lookup s = some m) ∨ (some s ≠ w.cache.selfName ∧
    ∃ p, (w.cache.find s dir <|> w.cache.namespaceDir s dir) = some p ∧ w'.cache.instances.lookup p = some m)

theorem World.Answers.leads {m : Ref} {w' w'' : World} (answers : w.Answers w' dir s m) (leads : w'.Leads w'') :
    w.Answers w'' dir s m := by
  rcases answers with ⟨self, there⟩ | ⟨other, p, found, there⟩
  · obtain ⟨more, same⟩ := leads.hosts
    refine .inl ⟨self, ?_⟩
    rw [← same, List.lookup_append, there]
    rfl
  · exact .inr ⟨other, p, found, leads.cache.kept p m there⟩

theorem loadPlace_ok {m : Ref} {w₁ w₂ : World} (leads : w.Leads w₁) (other : some s ≠ w.cache.selfName)
    (served : w.cache.serves s dir = true) (ran : (loadPlace h w.cache s dir).run w₁ = .ok m w₂) :
    w.Answers w₂ dir s m := by
  refine .inr ⟨other, ?_⟩
  unfold loadPlace at ran
  unfold Cache.serves at served
  cases place : w.cache.find s dir with
  | some p =>
    rw [place] at ran
    exact ⟨p, rfl, atPath_ok (leads.knows (List.find?_some place)) ran⟩
  | none =>
    rw [place] at ran served
    cases directory : w.cache.namespaceDir s dir with
    | none => simp [directory] at served
    | some d =>
      rw [directory] at ran
      refine ⟨d, rfl, atDir_ok ?_ ran⟩
      rw [leads.cache.isAround, Cache.isAround_namespaceDir directory]

theorem load_answers {m : Ref} {w' : World} (known : some s = w.cache.selfName ∨ w.cache.serves s dir = true)
    (ran : ((importing h).toLoading.load s dir).run w = .ok m w') : w.Answers w' dir s m := by
  rw [load_run] at ran
  split at ran
  next self => exact .inl ⟨self, (hostImport_ok ran).2.2⟩
  next other =>
    have served := known.resolve_left other
    rw [if_pos served] at ran
    obtain ⟨package, w₁, w₂, first, made, attached⟩ := loadServed_ok ran
    exact (loadPlace_ok (M.leads_of_ok first) other served made).leads (M.leads_of_ok attached)

theorem load_loaded {m : Ref} {w' : World} (held : w.cache.Held)
    (known : some s = w.cache.selfName ∨ w.cache.serves s dir = true)
    (ran : ((importing h).toLoading.load s dir).run w = .ok m w') : w'.Loaded dir s := by
  induction length : (Specifier.parts s).length using Nat.strongRecOn generalizing s w w' m with
  | ind n ih =>
    have leads := M.leads_of_ok ran
    by_cases self : some s = w.cache.selfName
    · rw [load_run, if_pos self] at ran
      obtain ⟨-, full, there⟩ := hostImport_ok ran
      exact .self (leads.selfName ▸ self) full (by simp [there])
    have served := known.resolve_left self
    have place (p : String) (found : w.cache.find s dir = some p) : (w'.cache.instances.lookup p).isSome := by
      rw [load_ok self found ran, Option.isSome_some]
    rw [load_run, if_neg self, if_pos served] at ran
    obtain ⟨package, w₁, w₂, first, made, attached⟩ := loadServed_ok ran
    have around (inside : isInside s = true) : w.cache.serves (Specifier.parent s) dir = true ∧
        ∃ r, package = some r ∧ ((importing h).toLoading.load (Specifier.parent s) dir).run w = .ok r w₁ := by
      have served' := served_package held inside served
      exact ⟨served', loadPackage_ok inside served' first⟩
    refine .served (leads.selfName ▸ self) (leads.serves served) (fun p => leads.found place)
      (fun inside => ?_) fun inside => ?_
    · obtain ⟨-, r, rfl, -⟩ := around inside
      exact attach_ok attached
    · obtain ⟨served', r, -, loaded⟩ := around inside
      have shorter := length_parts_parent inside
      have package := ih _ (by omega) held (.inr served') loaded rfl
      exact package.leads ((M.leads_of_ok made).trans (M.leads_of_ok attached))

end Notebook.Machine
