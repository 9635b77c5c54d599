import Notebook.Module.Specifier

/-! Modules that are made from recorded source text.

An instance is valid until new source is recorded for its path. Loading goes by a chain: the
engine's own interface, an instance, recorded source, a directory of recorded sources, and last the
host. -/

set_option autoImplicit false

namespace Notebook.Module

/-- What happens to modules: the body of one begins to run, it has run to its end or has failed, a
directory becomes a module, or a load comes to the module of a path. -/
inductive Event (μ : Type) where
  | began (path source : String) (module : μ)
  | ended (path : String) (module : μ)
  | failed (path : String) (module : μ)
  | opened (path : String) (module : μ)
  | loaded (path : String) (module : μ)

structure Cache (μ : Type) where
  places : Path.Places
  rootDir : String
  extension : String := ".py"
  /-- The name under which the engine's own interface is found. -/
  selfName : Option String := some "pycell"
  sources : List (String × String) := []
  instances : List (String × μ) := []
  /-- What happened to modules, the last of it first. -/
  journal : List (Event μ) := []

def setKey {α : Type} (key : String) (value : α) (entries : List (String × α)) : List (String × α) :=
  if entries.any (·.1 == key) then entries.map fun e => if e.1 == key then (key, value) else e
  else entries ++ [(key, value)]

def dropKey {α : Type} (key : String) (entries : List (String × α)) : List (String × α) :=
  entries.filter (·.1 != key)

theorem lookup_pair_cons {α : Type} (p k : String) (v : α) (es : List (String × α)) :
    ((k, v) :: es).lookup p = if p = k then some v else es.lookup p := by
  by_cases h : p = k
  · simp [h]
  · simp [List.lookup_cons, h, beq_false_of_ne h]

theorem lookup_setKey {α : Type} (key p : String) (value : α) (entries : List (String × α)) :
    (setKey key value entries).lookup p = if p = key then some value else entries.lookup p := by
  induction entries with
  | nil => simp [setKey, lookup_pair_cons]
  | cons e es ih =>
    obtain ⟨k, v⟩ := e
    unfold setKey at ih ⊢
    by_cases hk : k = key
    · subst hk
      -- The tail may hold the key again; entries of other keys stay as they are.
      have others (xs : List (String × α)) (hp : p ≠ k) :
          (xs.map fun e => if e.1 == k then (k, value) else e).lookup p = xs.lookup p := by
        induction xs with
        | nil => rfl
        | cons x xs ih =>
          obtain ⟨a, b⟩ := x
          by_cases ha : a = k <;> simp_all [lookup_pair_cons]
      by_cases hp : p = k
      · simp [hp]
      · simp [lookup_pair_cons, hp]
        simpa using others es hp
    · by_cases hany : es.any (·.1 == key) = true <;> by_cases hp : p = k <;>
        simp_all [lookup_pair_cons]

theorem lookup_dropKey {α : Type} (key p : String) (entries : List (String × α)) :
    (dropKey key entries).lookup p = if p = key then none else entries.lookup p := by
  induction entries with
  | nil => simp [dropKey]
  | cons e es ih =>
    obtain ⟨k, v⟩ := e
    unfold dropKey at ih ⊢
    by_cases hk : k = key <;> by_cases hp : p = k <;>
      simp_all [lookup_pair_cons, -List.lookup_eq_none_iff]

theorem split_append {α : Type} {xs ys before after : List α} {x : α}
    (h : xs ++ ys = before ++ x :: after) :
    (∃ before', before = xs ++ before' ∧ ys = before' ++ x :: after) ∨
      ∃ after', xs = before ++ x :: after' ∧ after = after' ++ ys := by
  rcases List.append_eq_append_iff.mp h with ⟨middle, rfl, rest⟩ | ⟨middle, rfl, rest⟩
  · exact .inl ⟨middle, rfl, rest⟩
  · cases middle with
    | nil => exact .inl ⟨[], by simp, rest.symm⟩
    | cons y middle =>
      cases rest
      exact .inr ⟨middle, rfl, rfl⟩

namespace Cache

variable {μ : Type}

def record (c : Cache μ) (path source : String) : Cache μ :=
  { c with instances := dropKey path c.instances, sources := setKey path source c.sources }

def update (c : Cache μ) (modules : List (String × String)) : Cache μ :=
  modules.foldl (fun c m => c.record m.1 m.2) c

def knows (c : Cache μ) (path : String) : Bool :=
  (c.instances.lookup path).isSome || (c.sources.lookup path).isSome

/-- The path of an instance or source for a specifier. -/
def find (c : Cache μ) (specifier dir : String) : Option String :=
  (Specifier.candidates specifier dir c.extension).find? c.knows

/-- Whether sources are recorded below a directory. -/
def isAround (c : Cache μ) (dir : String) : Bool := c.sources.any fun s => s.1.startsWith (dir ++ "/")

/-- The directory of a package that only its recorded submodules make one. -/
def namespaceDir (c : Cache μ) (specifier dir : String) : Option String :=
  if Specifier.isPath specifier then none
  else
    let base := Specifier.toPath specifier dir
    if c.isAround base then some base else none

/-- Whether a path is that of a module: one with recorded source, or a directory around one. -/
def holds (c : Cache μ) (path : String) : Bool := (c.sources.lookup path).isSome || c.isAround path

/-- The name of the module at a path: the way to it from the root directory, with dots. -/
def moduleName (c : Cache μ) (path : String) : String :=
  let way := Path.relative c.places (Path.splitExtension path).1 c.rootDir
  let name := way.map fun ch => if ch == '/' then '.' else ch
  let suffix := "." ++ Specifier.initName
  if name.endsWith suffix then String.ofList (name.toList.take (name.length - suffix.length))
  else name

/-- The body of a module begins: the module counts as loaded. -/
def begin (c : Cache μ) (path source : String) (m : μ) : Cache μ :=
  { c with instances := setKey path m c.instances, journal := .began path source m :: c.journal }

/-- A load comes to the module of a path. -/
def reach (c : Cache μ) (path : String) (m : μ) : Cache μ :=
  { c with journal := .loaded path m :: c.journal }

def finish (c : Cache μ) (path : String) (m : μ) : Cache μ :=
  { c with journal := .loaded path m :: .ended path m :: c.journal }

/-- The body of a module has failed: the module counts as loaded no more. -/
def fail (c : Cache μ) (path : String) (m : μ) : Cache μ :=
  { c with instances := dropKey path c.instances, journal := .failed path m :: c.journal }

/-- A directory becomes a module if sources are recorded below it. -/
def openDir (c : Cache μ) (path : String) (m : μ) : Cache μ :=
  { c with
    instances := if c.isAround path then setKey path m c.instances else c.instances
    journal := .loaded path m :: .opened path m :: c.journal }

/-- Among some events, the body of a module began with a source and ran to its end. -/
def Ran (js : List (Event μ)) (path source : String) (m : μ) : Prop :=
  ∃ later during earlier,
    js = later ++ .ended path m :: (during ++ .began path source m :: earlier)

/-- Among some events, the body of a module has ended or failed. -/
def Over (js : List (Event μ)) (path : String) (m : μ) : Prop :=
  .ended path m ∈ js ∨ .failed path m ∈ js

/-- Among some events, a module was made: of a directory, or by running the recorded source. -/
def Made (c : Cache μ) (js : List (Event μ)) (path : String) (m : μ) : Prop :=
  (c.isAround path ∧ .opened path m ∈ js) ∨ ∃ source, c.sources.lookup path = some source ∧
    Ran js path source m

/-- What loading keeps of a cache: sources and instances. Instances come in complete; no body runs whose
module is there, and no load comes to another module of its path. -/
structure Leads (c c' : Cache μ) : Prop where
  same : { c' with instances := c.instances, journal := c.journal } = c
  kept : ∀ p m, c.instances.lookup p = some m → c'.instances.lookup p = some m
  events : ∃ new, c'.journal = new ++ c.journal ∧
    (∀ p source m, .began p source m ∈ new → c.instances.lookup p = none) ∧
    (∀ p m i, .loaded p m ∈ new → c.instances.lookup p = some i → m = i) ∧
    ∀ p m, c'.instances.lookup p = some m → c.instances.lookup p = some m ∨ c.Made new p m

theorem Ran.weaken {js : List (Event μ)} {path source : String} {m : μ} (h : Ran js path source m)
    (before after : List (Event μ)) : Ran (after ++ js ++ before) path source m := by
  obtain ⟨later, during, earlier, rfl⟩ := h
  exact ⟨after ++ later, during, earlier ++ before, by simp⟩

theorem Over.weaken {js : List (Event μ)} {path : String} {m : μ} (h : Over js path m)
    (before after : List (Event μ)) : Over (after ++ js ++ before) path m := by
  unfold Over at h ⊢
  simp only [List.mem_append]
  exact h.imp (fun b => .inl (.inr b)) fun b => .inl (.inr b)

theorem Made.weaken {c : Cache μ} {js : List (Event μ)} {path : String} {m : μ}
    (h : c.Made js path m) (before after : List (Event μ)) :
    c.Made (after ++ js ++ before) path m := by
  rcases h with ⟨around, opened⟩ | ⟨source, recorded, ran⟩
  · exact .inl ⟨around, by simp [opened]⟩
  · exact .inr ⟨source, recorded, ran.weaken before after⟩

namespace Leads

variable {c c' c'' : Cache μ}

theorem sources (h : c.Leads c') : c'.sources = c.sources := congrArg (·.sources) h.same

theorem isAround (h : c.Leads c') (p : String) : c'.isAround p = c.isAround p := by
  rw [Cache.isAround, h.sources, Cache.isAround]

theorem holds (h : c.Leads c') (p : String) : c'.holds p = c.holds p := by
  rw [Cache.holds, h.sources, h.isAround, Cache.holds]

theorem made_iff (h : c.Leads c') (js : List (Event μ)) (p : String) (m : μ) :
    c'.Made js p m ↔ c.Made js p m := by rw [Made, h.isAround, h.sources, Made]

theorem held (h : c.Leads c') (p : String) (hp : (c'.instances.lookup p).isSome) :
    (c.instances.lookup p).isSome ∨ c.holds p := by
  obtain ⟨m, hm⟩ := Option.isSome_iff_exists.mp hp
  obtain ⟨new, _, _, _, made⟩ := h.events
  rcases made p m hm with there | ⟨around, _⟩ | ⟨source, recorded, _⟩
  · exact .inl (by simp [there])
  · exact .inr (by simp [Cache.holds, around])
  · exact .inr (by simp [Cache.holds, recorded])

theorem refl (c : Cache μ) : c.Leads c :=
  ⟨rfl, fun _ _ h => h, [], rfl, (fun _ _ _ => nofun), (fun _ _ _ => nofun), fun _ _ h => .inl h⟩

theorem trans (h : c.Leads c') (h' : c'.Leads c'') : c.Leads c'' := by
  obtain ⟨new, journal, began, loaded, made⟩ := h.events
  obtain ⟨new', journal', began', loaded', made'⟩ := h'.events
  refine ⟨?_, fun p m there => h'.kept p m (h.kept p m there), new' ++ new, ?_, fun p source m b => ?_,
    fun p m i b there => ?_, fun p m there => ?_⟩
  · have := congrArg
      (fun x : Cache μ => { x with instances := c.instances, journal := c.journal }) h'.same
    exact this.trans h.same
  · rw [journal', journal, List.append_assoc]
  · rcases List.mem_append.mp b with b | b
    · -- What was there at first would be there still.
      cases first : c.instances.lookup p with
      | none => rfl
      | some i => simpa [h.kept p i first] using began' p source m b
    · exact began p source m b
  · rcases List.mem_append.mp b with b | b
    · exact loaded' p m i b (h.kept p i there)
    · exact loaded p m i b there
  · rcases made' p m there with there | fresh
    · exact (made p m there).imp_right fun fresh => by simpa using fresh.weaken [] new'
    · exact .inr (by simpa using ((h.made_iff _ p m).mp fresh).weaken new [])

theorem reach {path : String} {m : μ} (there : c.instances.lookup path = some m) :
    c.Leads (c.reach path m) := by
  refine ⟨rfl, fun _ _ h => h, [.loaded path m], rfl, by simp, fun p m' i b here => ?_,
    fun _ _ h => .inl h⟩
  cases List.mem_singleton.mp b
  exact Option.some.inj (there.symm.trans here)

theorem begun {path source : String} {m : μ} (absent : c.instances.lookup path = none)
    (recorded : c.sources.lookup path = some source) (h : (c.begin path source m).Leads c') :
    c.Leads (c'.finish path m) ∧ c.Leads (c'.fail path m) := by
  obtain ⟨new, journal, began, loaded, made⟩ := h.events
  have same : { c' with instances := c.instances, journal := c.journal } = c :=
    congrArg (fun x : Cache μ => { x with instances := c.instances, journal := c.journal }) h.same
  have first (p : String) (m' : μ) (there : c.instances.lookup p = some m') :
      (c.begin path source m).instances.lookup p = some m' := by
    have other : p ≠ path := fun e => by simp [← e, there] at absent
    rw [begin, lookup_setKey, if_neg other, there]
  have before (p : String) (s : String) (m' : μ)
      (b : .began p s m' ∈ new ++ [.began path source m]) : c.instances.lookup p = none := by
    rcases List.mem_append.mp b with b | b
    · cases there : c.instances.lookup p with
      | none => rfl
      | some i => simpa [first p i there] using began p s m' b
    · cases List.mem_singleton.mp b
      exact absent
  have reached (p : String) (m' i : μ) (b : .loaded p m' ∈ new ++ [.began path source m])
      (there : c.instances.lookup p = some i) : m' = i := by
    refine loaded p m' i ?_ (first p i there)
    simpa using b
  -- Instances that come in: the module itself, or what its body makes.
  have after (p : String) (m' : μ) (there : c'.instances.lookup p = some m') :
      c.instances.lookup p = some m' ∨ (p = path ∧ m' = m) ∨ c.Made new p m' := by
    rcases made p m' there with there | fresh
    · rw [begin, lookup_setKey] at there
      split at there
      next e => exact .inr (.inl ⟨e, (Option.some.inj there).symm⟩)
      next => exact .inl there
    · exact .inr (.inr fresh)
  refine ⟨⟨same, fun p m' there => h.kept p m' (first p m' there),
    .loaded path m :: .ended path m :: new ++ [.began path source m], ?_, fun p s m' b => ?_,
      fun p m' i b there => ?_, fun p m' there => ?_⟩,
    ⟨same, fun p m' there => ?_, .failed path m :: new ++ [.began path source m], ?_,
      fun p s m' b => ?_, fun p m' i b there => ?_, fun p m' there => ?_⟩⟩
  · simp [finish, journal, begin]
  · refine before p s m' ?_
    simpa using b
  · rcases List.mem_cons.mp b with same | b
    · -- The module was not there at first.
      cases same
      cases absent.symm.trans there
    · refine reached p m' i ?_ there
      simpa using b
  · refine (after p m' there).imp_right fun fresh => ?_
    rcases fresh with ⟨rfl, rfl⟩ | fresh
    · exact .inr ⟨source, recorded, [.loaded p m'], new, [], by simp⟩
    · simpa using fresh.weaken [.began path source m] [.loaded path m, .ended path m]
  · have other : p ≠ path := fun e => by simp [← e, there] at absent
    rw [fail, lookup_dropKey, if_neg other]
    exact h.kept p m' (first p m' there)
  · simp [fail, journal, begin]
  · refine before p s m' ?_
    simpa using b
  · refine reached p m' i ?_ there
    simpa using b
  · rw [fail, lookup_dropKey] at there
    split at there
    next => cases there
    next other =>
      refine (after p m' there).imp_right fun fresh => ?_
      rcases fresh with ⟨e, _⟩ | fresh
      · exact absurd e other
      · simpa using fresh.weaken [.began path source m] [.failed path m]

theorem openDir {path : String} (m : μ) (absent : c.instances.lookup path = none) :
    c.Leads (c.openDir path m) := by
  refine ⟨rfl, fun p m' there => ?_, [.loaded path m, .opened path m], rfl, by simp,
    fun p m' i b there => ?_, fun p m' there => ?_⟩
  · have other : p ≠ path := fun e => by simp [← e, there] at absent
    simp only [Cache.openDir]
    split
    · rw [lookup_setKey, if_neg other, there]
    · exact there
  · have same : p = path := by simp at b; exact b.1
    subst same
    cases absent.symm.trans there
  · simp only [Cache.openDir] at there
    split at there
    next around =>
      rw [lookup_setKey] at there
      split at there
      next e =>
        cases there
        exact .inr (.inl ⟨e ▸ around, by simp [e]⟩)
      next => exact .inl there
    next => exact .inl there

end Leads

end Cache

/-- What loading needs of its surroundings. Code is source made ready to run. -/
structure Loading (m : Type → Type) (μ χ : Type) where
  get : m (Cache μ)
  /-- The instance of a path that is loaded, if there is one. -/
  reach : String → m (Option μ)
  /-- Imports from the host. -/
  host : String → m μ
  /-- Refuses a relative specifier that nothing is found for. -/
  missing : String → m μ
  ready : (path source : String) → m χ
  /-- A new module with a name, from a file. While its code runs it counts as loaded; if that fails it
  does not. -/
  fromFile : (name path source : String) → χ → m μ
  /-- A new module that is a directory. -/
  fromDir : (name path : String) → m μ
  /-- Makes a module an attribute of its parent. -/
  attach : (parent : μ) → String → μ → m PUnit

namespace Loading

variable {m : Type → Type} {μ χ : Type} [Monad m]

def hostImport (l : Loading m μ χ) (specifier : String) : m μ :=
  if Specifier.isRelative specifier then l.missing specifier else l.host specifier

def instantiate (l : Loading m μ χ) (path source : String) : m μ := do
  let code ← l.ready path source
  l.fromFile ((← l.get).moduleName path) path source code

def atPath (l : Loading m μ χ) (path : String) : m μ := do
  match ← l.reach path, (← l.get).sources.lookup path with
  | some i, _ => return i
  | none, some source => l.instantiate path source
  | none, none => l.hostImport path

def atDir (l : Loading m μ χ) (path : String) : m μ := do
  match ← l.reach path with
  | some i => return i
  | none => do l.fromDir ((← l.get).moduleName path) path

def attachTo (l : Loading m μ χ) (parent : Option μ) (name : String) (module : μ) : m PUnit :=
  match parent with
  | some p => l.attach p name module
  | none => pure ⟨⟩

/-- Loads a module after the packages around it, which hold it as an attribute. The fuel is the
number of parts of the specifier. -/
def loadParts (l : Loading m μ χ) (dir : String) : (fuel : Nat) → String → m μ
  | 0, specifier => l.hostImport specifier
  | fuel + 1, specifier => do
    let c ← l.get
    if some specifier == c.selfName then return ← l.host specifier
    let path := c.find specifier dir
    let packageDir := if path.isSome then none else c.namespaceDir specifier dir
    if path.isNone && packageDir.isNone then return ← l.hostImport specifier
    let head := Specifier.parent specifier
    let hasParent := !Specifier.isPath specifier && !Specifier.isOnlyDots head
      && ((c.find head dir).isSome || (c.namespaceDir head dir).isSome)
    let parent ← if hasParent then some <$> loadParts l dir fuel head else pure none
    let module ← match path, packageDir with
      | some p, _ => l.atPath p
      | none, some d => l.atDir d
      | none, none => l.hostImport specifier
    l.attachTo parent (Specifier.last specifier) module
    return module

/-- Loads a module for a specifier from a directory. -/
def load (l : Loading m μ χ) (specifier dir : String) : m μ :=
  l.loadParts dir ((Specifier.parts specifier).length + 1) specifier

end Loading

/-- What importing a name needs besides: attributes, and the errors that say that something is
absent. -/
structure Importing (m : Type → Type) (μ χ ν : Type) extends Loading m μ χ where
  value : μ → ν
  attribute? : μ → String → m (Option ν)
  /-- Runs a load; nothing if the module is not found. -/
  orAbsent : m μ → m (Option μ)
  /-- Refuses a name that a module does not have. -/
  noName : (name specifier : String) → m ν

def Importing.importName {m : Type → Type} {μ χ ν : Type} [Monad m]
    (i : Importing m μ χ ν) (specifier name dir : String) : m ν := do
  let sub := Specifier.join specifier name
  if ((← i.get).find sub dir).isSome then
    return i.value (← i.toLoading.load sub dir)
  let module ← i.toLoading.load specifier dir
  match ← i.attribute? module name with
  | some v => return v
  | none =>
    match ← i.orAbsent (i.toLoading.load sub dir) with
    | some s => return i.value s
    | none => i.noName name specifier

end Notebook.Module
