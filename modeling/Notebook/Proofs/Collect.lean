import Notebook.Cell.Compile

/-! Collecting the modules that a cell needs: what the compiler notes on the way, and that it comes to
every module that the cell reaches. -/

set_option autoImplicit false

namespace Notebook.Module

variable {α : Type}

/-- Sets the values of keys, one after another. -/
def setKeys (new entries : List (String × α)) : List (String × α) :=
  new.foldl (fun es e => setKey e.1 e.2 es) entries

theorem lookup_setKeys (new entries : List (String × α)) (p : String) :
    (setKeys new entries).lookup p = ((setKeys new []).lookup p).or (entries.lookup p) := by
  induction new generalizing entries with
  | nil => simp [setKeys]
  | cons e new ih =>
    have first := ih (setKey e.1 e.2 entries)
    have second := ih (setKey e.1 e.2 [])
    simp only [setKeys, List.foldl_cons, lookup_setKey, List.lookup_nil] at first second ⊢
    rw [first, second, Option.or_assoc]
    by_cases h : p = e.1 <;> simp [h]

theorem mem_of_lookup_setKeys {new : List (String × α)} {p : String}
    (h : ((setKeys new []).lookup p).isSome) : ∃ e ∈ new, e.1 = p := by
  induction new with
  | nil => cases h
  | cons e new ih =>
    have split := lookup_setKeys new (setKey e.1 e.2 []) p
    rw [lookup_setKey] at split
    simp only [setKeys, List.foldl_cons] at h split ih
    rw [split, Option.isSome_or, Bool.or_eq_true] at h
    rcases h with later | first
    · obtain ⟨e', member, same⟩ := ih later
      exact ⟨e', List.mem_cons_of_mem _ member, same⟩
    · by_cases same : p = e.1
      · exact ⟨e, List.mem_cons_self, same.symm⟩
      · rw [if_neg same] at first
        cases first

theorem Cache.update_sources {μ : Type} (c : Cache μ) (new : List (String × String)) :
    (c.update new).sources = setKeys new c.sources := by
  induction new generalizing c with
  | nil => rfl
  | cons e new ih => exact ih (c.record e.1 e.2)

end Notebook.Module

namespace Notebook.Cell

open Notebook.Module

namespace Compiler

def note (c : Compiler) (new : List SideModule) : Compiler :=
  { c with emitted := setKeys (new.map fun m => (m.path, m.source)) c.emitted }

theorem note_note (c : Compiler) (first second : List SideModule) :
    (c.note first).note second = c.note (first ++ second) := by
  simp [note, setKeys]

variable {c : Compiler} {fs : Files}

theorem newPath_some {seen : List String} {s dir p : String}
    (h : c.newPath fs seen s dir = some p) : c.locate fs s dir = some p ∧ p ∉ seen := by
  unfold newPath at h
  split at h
  · cases h
  · obtain ⟨located, fresh⟩ := Option.filter_eq_some_iff.mp h
    exact ⟨located, by simpa using fresh⟩

theorem locate_mem_paths {s dir p : String} (h : c.locate fs s dir = some p) :
    p ∈ c.paths fs := by
  have found := List.find?_some h
  simp only [Bool.or_eq_true, Files.has, List.any_eq_true, List.lookup_isSome_iff] at found
  unfold paths
  rw [List.mem_append, List.mem_map, List.mem_map]
  rcases found with ⟨e, member, same⟩ | ⟨e, member, same⟩
  · exact .inl ⟨e, member, (beq_iff_eq.mp same).symm⟩
  · exact .inr ⟨e, member, beq_iff_eq.mp same⟩

/-- What collecting leaves of a compiler: it has noted the texts that it hands out, and when it fails
on the way those that it would have. There is a module at each of their paths. -/
def Notes (c : Compiler) (fs : Files) (k : Collection)
    (r : Except Trouble Collection × Compiler) : Prop :=
  ∃ new, r.2 = c.note new ∧ (∀ m ∈ new, m.path ∈ c.paths fs) ∧
    ∀ k', r.1 = .ok k' → k'.out = k.out ++ new

theorem Notes.nothing (c : Compiler) (fs : Files) {k k' : Collection} (h : k'.out = k.out) :
    Notes c fs k (.ok k', c) :=
  ⟨[], rfl, fun _ member => absurd member List.not_mem_nil, fun _ same => by cases same; simp [h]⟩

theorem Notes.failed (c : Compiler) (fs : Files) (k : Collection) (t : Trouble) :
    Notes c fs k (.error t, c) :=
  ⟨[], rfl, fun _ member => absurd member List.not_mem_nil, fun _ same => by cases same⟩

theorem Notes.trans {c' : Compiler} {k k' : Collection}
    {r : Except Trouble Collection × Compiler} (h : Notes c fs k (.ok k', c'))
    (h' : Notes c' fs k' r) : Notes c fs k r := by
  obtain ⟨new, rfl, there, out⟩ := h
  obtain ⟨more, after, further, final⟩ := h'
  refine ⟨new ++ more, by rw [after, note_note], fun m member => ?_, fun k'' same => ?_⟩
  · exact (List.mem_append.mp member).elim (there m) (further m)
  · rw [final k'' same, out k' rfl, List.append_assoc]

theorem collectPath_notes (k : Collection) {path : String} (there : path ∈ c.paths fs) :
    Notes c fs k (c.collectPath fs k path) := by
  unfold collectPath
  split
  next t _ => exact .failed c fs k t
  next => exact .nothing c fs rfl
  next text nested _ =>
    dsimp only
    split
    next => exact .nothing c fs rfl
    next =>
      refine ⟨[⟨path, text⟩], rfl, fun m member => ?_, fun _ same => by cases same; rfl⟩
      cases List.mem_singleton.mp member
      exact there

theorem collectNext_notes {onward : Compiler → Collection → Except Trouble Collection × Compiler}
    (h : ∀ c k, Notes c fs k (onward c k)) (c : Compiler) (k : Collection)
    (queue : List (String × String)) : Notes c fs k (collectNext fs onward c k queue) := by
  induction queue with
  | nil => exact .nothing c fs rfl
  | cons pair rest ih =>
    obtain ⟨specifier, dir⟩ := pair
    unfold collectNext
    cases fresh : c.newPath fs k.seen specifier dir with
    | none => exact ih
    | some path =>
      have there := locate_mem_paths (newPath_some fresh).1
      have first := collectPath_notes { k with queue := rest } there
      dsimp only
      generalize c.collectPath fs { k with queue := rest } path = r at first ⊢
      obtain ⟨result, c'⟩ := r
      cases result with
      | error t =>
        obtain ⟨new, after, there, _⟩ := first
        exact ⟨new, after, there, fun _ same => by cases same⟩
      | ok k' => exact Notes.trans first (h c' k')

theorem collectQueue_notes (fs : Files) (fuel : Nat) (c : Compiler) (k : Collection) :
    Notes c fs k (collectQueue fs fuel c k) := by
  induction fuel generalizing c k with
  | zero => exact .nothing c fs rfl
  | succ fuel ih => exact collectNext_notes ih c k k.queue

/-- Compiling ends before any module is collected, with an error or a diagnostic, or it gives what
collecting for the cell gives. -/
theorem compile_cases (c : Compiler) (fs : Files) (prior src : String) :
    (∃ r, c.compile fs prior src = (r, c) ∧
      ∀ d, r = .ok d → d.sideModules = [] ∧ d.diagnostics ≠ []) ∨
    ∃ body diagnostics, ∃ f : Collection → Compiled, checkCell src = .ok body ∧
      (∀ k, (f k).sideModules = k.out ∧ (f k).diagnostics = k.diagnostics) ∧
      c.compile fs prior src =
        ((c.collectSideModules fs (specifiers (importing body)) diagnostics).1.map f,
          (c.collectSideModules fs (specifiers (importing body)) diagnostics).2) := by
  unfold compile
  cases parseDeclarations prior with
  | error t => exact .inl ⟨.error t, rfl, fun _ same => by cases same⟩
  | ok decls =>
    cases checked : checkCell src with
    | error e =>
      refine .inl ?_
      cases e with
      | trouble t =>
        dsimp only
        split
        · exact ⟨_, rfl, fun _ same => by cases same; simp⟩
        · exact ⟨_, rfl, fun _ same => by cases same⟩
      | fault f => exact ⟨_, rfl, fun _ same => by cases same; simp⟩
    | ok body =>
      dsimp only
      cases buildBody decls body with
      | error t => exact .inl ⟨.error t, rfl, fun _ same => by cases same⟩
      | ok built =>
        cases declareBody decls body with
        | error t => exact .inl ⟨.error t, rfl, fun _ same => by cases same⟩
        | ok after =>
          refine .inr ⟨body, checkNames c.extraGlobals decls body
            ++ (wildcards (importing body)).map wildcardDiagnostic,
            fun k => { body := built.1, declarations := after.text, diagnostics := k.diagnostics
                       sideModules := k.out, hasTopLevelAwait := hasTopLevelAwait body
                       lastBinding := built.2 }, rfl, fun _ => ⟨rfl, rfl⟩, ?_⟩
          dsimp only
          split
          next collected => rw [collected]; rfl
          next collected => rw [collected]; rfl

theorem compile_notes (c : Compiler) (fs : Files) (prior src : String) :
    ∃ new, (c.compile fs prior src).2 = c.note new ∧ (∀ m ∈ new, m.path ∈ c.paths fs) ∧
      ∀ d, (c.compile fs prior src).1 = .ok d → d.sideModules = new := by
  obtain ⟨r, same, none⟩ | ⟨body, diagnostics, f, _, kept, same⟩ := compile_cases c fs prior src
  · rw [same]
    exact ⟨[], rfl, fun _ member => absurd member List.not_mem_nil, fun d h => (none d h).1⟩
  · obtain ⟨new, after, there, out⟩ := collectQueue_notes fs ((c.paths fs).length + 1) c
      { queue := (specifiers (importing body)).map (·, c.rootDir), diagnostics }
    rw [same]
    refine ⟨new, after, there, fun d h => ?_⟩
    cases collected : (c.collectSideModules fs (specifiers (importing body)) diagnostics).1 with
    | error t =>
      rw [collected] at h
      cases h
    | ok k =>
      rw [collected] at h
      cases h
      rw [(kept k).1]
      exact out k collected

end Compiler

end Notebook.Cell
