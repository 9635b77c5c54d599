import Notebook.Proofs.Delivery
import Notebook.Proofs.Slashless

/-! Resolution of modules: what the compiler finds for a specifier is what loading finds for it later.

The compiler looks at registered texts and at files, loading at recorded sources and instances. They
agree on what a cell comes to because every recorded path was one at which the compiler found a
module, and an instance of any other path is that of a directory. -/

set_option autoImplicit false

namespace Notebook.Module

open Notebook.Text

def PlainDirectories (ext p : String) : Prop :=
  ∀ dir : String, p.startsWith (dir ++ "/") = true → ¬ ext.toList <:+ dir.toList

theorem suffix_append {ext q : String} (p : String) (h : ext.toList <:+ q.toList) :
    ext.toList <:+ (Path.append p q).toList := by
  unfold Path.append
  split
  · exact h
  · split
    · rw [String.toList_append]
      exact h.trans (List.suffix_append _ _)
    · rw [String.toList_append]
      exact h.trans (List.suffix_append _ _)

theorem suffix_candidates {s dir ext p : String} (named : Specifier.isPath s = false)
    (h : p ∈ Specifier.candidates s dir ext) : ext.toList <:+ p.toList := by
  have init : ext.toList <:+ (Specifier.initName ++ ext).toList := by
    rw [String.toList_append]
    exact List.suffix_append _ _
  unfold Specifier.candidates at h
  simp only [named, Bool.false_and, Bool.false_eq_true, if_false] at h
  split at h
  · cases List.mem_singleton.mp h
    exact suffix_append _ init
  · rcases List.mem_cons.mp h with rfl | h
    · rw [String.toList_append]
      exact List.suffix_append _ _
    · cases List.mem_singleton.mp h
      exact suffix_append _ init

namespace Cache

variable {μ : Type} {c : Cache μ}

theorem any_setKey {f : String → Bool} {entries : List (String × String)} (key value : String)
    (h : entries.any (fun e => f e.1) = true) :
    (setKey key value entries).any (fun e => f e.1) = true := by
  obtain ⟨e, member, holds⟩ := List.any_eq_true.mp h
  unfold setKey
  split
  · rw [List.any_map, List.any_eq_true]
    refine ⟨e, member, ?_⟩
    by_cases same : e.1 = key <;> simp_all
  · rw [List.any_append, h, Bool.true_or]

theorem holds_record (path source : String) {p : String} (h : c.holds p = true) :
    (c.record path source).holds p = true := by
  unfold holds at h ⊢
  rcases Bool.or_eq_true_iff.mp h with known | around
  · have kept : ((c.record path source).sources.lookup p).isSome = true := by
      rw [record, lookup_setKey]
      split
      · rfl
      · exact known
    rw [kept, Bool.true_or]
  · have kept : (c.record path source).isAround p = true :=
      any_setKey (f := fun q => q.startsWith (p ++ "/")) path source around
    rw [kept, Bool.or_true]

theorem held_update (new : List (String × String))
    (h : ∀ p, (c.instances.lookup p).isSome → c.holds p) :
    ∀ p, ((c.update new).instances.lookup p).isSome → (c.update new).holds p := by
  induction new generalizing c with
  | nil => exact h
  | cons e new ih =>
    refine ih (c := c.record e.1 e.2) fun p made => holds_record e.1 e.2 (h p ?_)
    rw [record, lookup_dropKey] at made
    split at made
    · cases made
    · exact made

theorem update_extension (new : List (String × String)) :
    (c.update new).extension = c.extension := by
  induction new generalizing c with
  | nil => rfl
  | cons e new ih => exact ih (c := c.record e.1 e.2)

end Cache

end Notebook.Module

namespace Notebook.Session

open Notebook.Machine Notebook.Loop Notebook.Cell Notebook.Module Notebook.Tree

/-- The compiler and the modules that are loaded are in step: the texts noted are those recorded,
there is a module at each of their paths, and instances are of modules. -/
structure InStep (s : State) : Prop where
  extension : s.world.cache.extension = s.inner.extension
  recorded : ∀ p, s.world.cache.sources.lookup p = s.inner.emitted.lookup p
  there : ∀ p, (s.inner.emitted.lookup p).isSome → p ∈ s.inner.paths s.files
  held : ∀ p, (s.world.cache.instances.lookup p).isSome → s.world.cache.holds p

/-- Compiling the cell does not fail, if it is compiled here. -/
def Compiles (s : State) (src : String) : Prop :=
  isRunHere src = true → ∀ t, (s.compiled src).1 ≠ .error t

/-- Once a cell is compiled without diagnostics and its modules are recorded, loading finds what the
compiler found for every specifier that the cell comes to, and the text of what is found is the
conversion of the text that is there. -/
def Agrees (s : State) (src : String) : Prop :=
  ∀ d body, isRunHere src = true → (s.compiled src).1 = .ok d → d.diagnostics = [] →
    Compiler.checkCell src = .ok body →
    (∀ p, ((s.taken src).world.cache.sources.lookup p).isSome →
      PlainDirectories s.inner.extension p) →
    ∀ specifier dir, s.inner.Visits s.files (specifiers (importing body)) specifier dir →
      specifier ≠ s.inner.selfName →
      (s.taken src).world.cache.find specifier dir = s.inner.locate s.files specifier dir ∧
      ∀ p, s.inner.locate s.files specifier dir = some p → ∃ text nested,
        s.inner.convertPath s.files p = .ok (.ok text nested) ∧
        (s.taken src).world.cache.sources.lookup p = some text

theorem Quiet.inStep {s s' : State} (q : Quiet s s') (h : InStep s) : InStep s' where
  extension := by
    rw [q.inner, ← h.extension]
    exact congrArg (·.extension) q.world.cache.same
  recorded p := by rw [q.inner, q.world.cache.sources, h.recorded]
  there p noted := by
    rw [q.inner, q.files]
    exact h.there p (q.inner ▸ noted)
  held p made := by
    rw [q.world.cache.holds]
    exact (q.world.cache.held p made).elim (h.held p) id

theorem mem_paths_iff {c : Compiler} {fs : Files} {p : String} :
    p ∈ c.paths fs ↔ ((c.modules.lookup p).isSome || fs.has p) = true := by
  simp only [Compiler.paths, Files.has, List.mem_append, List.mem_map, Bool.or_eq_true,
    List.lookup_isSome_iff, List.any_eq_true, beq_iff_eq]
  constructor
  · rintro (⟨e, member, same⟩ | found)
    · exact .inl ⟨e, member, same.symm⟩
    · exact .inr found
  · rintro (⟨e, member, same⟩ | found)
    · exact .inl ⟨e, member, same.symm⟩
    · exact .inr found

theorem has_write {fs : Files} (path : String) (bytes : List UInt8) {p : String}
    (h : fs.has p = true) : (fs.write path bytes).has p = true := by
  obtain ⟨e, member, same⟩ := List.any_eq_true.mp h
  rw [Files.has, List.any_eq_true, Files.write]
  by_cases rewritten : e.1 = path
  · exact ⟨_, List.mem_cons_self, by rw [← rewritten]; exact same⟩
  · exact ⟨e, List.mem_cons_of_mem _ (List.mem_filter.mpr ⟨member, by simpa using rewritten⟩), same⟩

theorem inStep_register {s : State} (h : InStep s) (name src : String) :
    InStep { s with inner := (s.inner.register name src).2 } := by
  have same : ∃ path, (s.inner.register name src).2
      = { s.inner with modules := setKey path src s.inner.modules } := by
    unfold Compiler.register
    dsimp only
    split <;> exact ⟨_, rfl⟩
  obtain ⟨path, same⟩ := same
  rw [same]
  refine ⟨h.extension, h.recorded, fun p noted => ?_, h.held⟩
  have before := mem_paths_iff.mp (h.there p noted)
  refine mem_paths_iff.mpr ?_
  rw [lookup_setKey]
  split
  · rfl
  · exact before

theorem inStep_taken {s : State} {src : String} (h : InStep s) (compiles : Compiles s src) :
    InStep (s.taken src) := by
  cases here : isRunHere src with
  | false =>
    unfold State.taken
    cases named : (metadata src).module with
    | some name =>
      cases (metadata src).mode with
      | browser => exact ⟨h.extension, h.recorded, h.there, h.held⟩
      | «local» => exact inStep_register h name src
    | none =>
      cases mode : (metadata src).mode with
      | browser => exact h
      | «local» => simp [isRunHere, named, mode] at here
  | true =>
    cases result : (s.compiled src).1 with
    | error t => exact absurd result (compiles here t)
    | ok d =>
      rw [taken_of_ok here result]
      obtain ⟨new, after, there, out⟩ := s.inner.compile_notes s.files s.declarations src
      have modules : d.sideModules = new := out d result
      change (s.compiled src).2 = _ at after
      rw [after, Compiled.updates, modules]
      refine ⟨?_, fun p => ?_, fun p noted => ?_, Cache.held_update _ h.held⟩
      · exact (Cache.update_extension _).trans h.extension
      · rw [Cache.update_sources, lookup_setKeys, h.recorded]
        exact (lookup_setKeys ..).symm
      · change ((setKeys _ s.inner.emitted).lookup p).isSome at noted
        rw [lookup_setKeys, Option.isSome_or, Bool.or_eq_true] at noted
        rcases noted with fresh | before
        · obtain ⟨e, member, rfl⟩ := mem_of_lookup_setKeys fresh
          obtain ⟨m, inside, rfl⟩ := List.mem_map.mp member
          exact there m inside
        · exact h.there p before

theorem knows_candidate {s : State} (h : InStep s) {specifier p : String} (dir : String)
    (named : Specifier.isPath specifier = false)
    (plain : ∀ p, (s.world.cache.sources.lookup p).isSome →
      PlainDirectories s.inner.extension p)
    (member : p ∈ Specifier.candidates specifier dir s.inner.extension)
    (known : s.world.cache.knows p = true) : p ∈ s.inner.paths s.files := by
  have recorded (found : (s.world.cache.sources.lookup p).isSome) : p ∈ s.inner.paths s.files :=
    h.there p (h.recorded p ▸ found)
  unfold Cache.knows at known
  rcases Bool.or_eq_true_iff.mp known with made | found
  · have held := h.held p made
    unfold Cache.holds at held
    rcases Bool.or_eq_true_iff.mp held with found | around
    · exact recorded found
    · obtain ⟨e, inside, below⟩ := List.any_eq_true.mp around
      have found : (s.world.cache.sources.lookup e.1).isSome :=
        List.lookup_isSome_iff.mpr ⟨e, inside, beq_self_eq_true _⟩
      exact absurd (suffix_candidates named member) (plain e.1 found p below)
  · exact recorded found

/-- Two searches find the same if what the second accepts the first does, and what the first finds
the second accepts. -/
theorem find?_eq {α : Type} {f g : α → Bool} {l : List α} (sub : ∀ x ∈ l, g x = true → f x = true)
    (found : ∀ x, l.find? f = some x → g x = true) : l.find? g = l.find? f := by
  induction l with
  | nil => rfl
  | cons a l ih =>
    cases accepted : f a with
    | true =>
      have first : (a :: l).find? f = some a := List.find?_cons_of_pos accepted
      rw [first, List.find?_cons_of_pos (found a first)]
    | false =>
      have refused : ¬ g a = true := fun h => by simp [sub a List.mem_cons_self h] at accepted
      rw [List.find?_cons_of_neg refused, List.find?_cons_of_neg (by simp [accepted])]
      refine ih (fun x member => sub x (List.mem_cons_of_mem _ member)) fun x h => found x ?_
      rw [List.find?_cons_of_neg (by simp [accepted]), h]

theorem agrees {s : State} {src : String} (h : InStep s) (compiles : Compiles s src) :
    Agrees s src := by
  intro d body here result clean checked plain specifier dir visits other
  have after := inStep_taken h compiles
  obtain ⟨new, noting, _, _⟩ := s.inner.compile_notes s.files s.declarations src
  have done : s.inner.compile s.files s.declarations src = (.ok d, s.inner.note new) :=
    Prod.ext result noting
  have inner : (s.taken src).inner = s.inner.note new := by
    rw [taken_of_ok here result]
    exact noting
  have files : (s.taken src).files = s.files := by rw [taken_of_ok here result]
  have reached := Compiler.compile_reaches done clean checked visits other
  have recorded {p text : String} (noted : (s.inner.note new).emitted.lookup p = some text) :
      (s.taken src).world.cache.sources.lookup p = some text := by
    rw [after.recorded, inner, noted]
  constructor
  · unfold Cache.find Compiler.locate
    rw [after.extension, inner]
    refine find?_eq (fun p member known => ?_) fun p located => ?_
    · have known := knows_candidate after dir visits.isPath (by rw [inner]; exact plain)
        (by rw [inner]; exact member) known
      rw [inner, files] at known
      exact mem_paths_iff.mp known
    · obtain absent | ⟨p', text, nested, located', _, noted⟩ := reached
      · cases absent.symm.trans located
      · cases located'.symm.trans located
        unfold Cache.knows
        rw [recorded noted, Option.isSome_some, Bool.or_true]
  · intro p located
    obtain absent | ⟨p', text, nested, located', converts, noted⟩ := reached
    · cases absent.symm.trans located
    · cases located'.symm.trans located
      exact ⟨text, nested, converts, recorded noted⟩

/-- Compiler and loading agree at every cell of a history in which nothing is deleted or closed and
every cell compiles. -/
theorem agrees_history (places : Path.Places) (config : Config) (files : Files) (isConsole : Bool)
    (realm : String) :
    let s := State.start places config files isConsole realm
    ∀ ops : List Op, (∀ path, .delete path ∉ ops) → .close ∉ ops →
      Begins Compiles (open_ s).1 (open_ s).2 ops → Begins Agrees (open_ s).1 (open_ s).2 ops := by
  intro s ops kept running compiles
  have u : Upkeep InStep Compiles Agrees :=
    { quiet := Quiet.inStep, taken := inStep_taken, gives := agrees }
  have started : InStep s :=
    { extension := rfl
      recorded := fun _ => rfl
      there := fun _ noted => by cases noted
      held := fun _ made => by cases made }
  refine (u.history (open_ s).1 ops (u.opened started rfl) (fun s path bytes h => ?_)
    (fun path deleted => absurd deleted (kept path)) (fun closed => absurd closed running)
    compiles).1
  refine ⟨h.extension, h.recorded, fun p noted => mem_paths_iff.mpr ?_, h.held⟩
  refine Bool.or_eq_true_iff.mpr ((Bool.or_eq_true_iff.mp (mem_paths_iff.mp (h.there p noted))).imp
    id fun was => has_write path bytes was)

set_option maxRecDepth 100000 in
/-- A module that is written and then imported. -/
theorem agrees_written_module :
    let s := State.start ⟨"/w", "/home/user"⟩ { rootDir := .str "/w" } {} false
    Begins Agrees (open_ s).1 (open_ s).2
      [.write "/w/a.py" [120, 32, 61, 32, 49, 10], .run "import a"] := by
  intro s
  refine agrees_history _ _ _ _ _ _ (by simp) (by simp) ⟨trivial, ?_, trivial⟩
  let written : State :=
    (Op.write "/w/a.py" [120, 32, 61, 32, 49, 10]).perform (open_ s).1 (open_ s).2
  have both : ((written.compiled "import a").1.toBool && (begin "import a" written).1.isEnded) = true := by
    decide +kernel
  obtain ⟨compiled, ended⟩ := Bool.and_eq_true_iff.mp both
  refine runBegins_of_ended Compiles (fun _ t failed => ?_) ended
  rw [failed] at compiled
  cases compiled

end Notebook.Session
