import Notebook.Proofs.Collect

/-! The modules that a cell reaches: those of its own specifiers, sought from the root directory, and
those of the specifiers of every module reached, sought from the directory of that module.

Collecting comes to all of them. Its fuel counts the paths that there are, and every round takes one
of them. -/

set_option autoImplicit false

namespace Notebook.Cell

/-- The specifiers that are followed from a module; none if there is something wrong with it. -/
def Converted.imports : Converted → List String
  | .ok _ nested => nested
  | .diagnostics .. => []

namespace Compiler

open Notebook.Module Notebook.Tree

/-- The specifiers that a cell comes to, with the directories from which they are sought. -/
inductive Visits (c : Compiler) (fs : Files) (own : List String) : String → String → Prop where
  | own {s : String} : s ∈ own → Visits c fs own s c.rootDir
  | nested {s dir p text s' : String} {nested : List String} : Visits c fs own s dir →
      s ≠ c.selfName → c.locate fs s dir = some p →
      c.convertPath fs p = .ok (.ok text nested) → s' ∈ nested →
      Visits c fs own s' (Path.parent p)

variable {c c' : Compiler} {fs : Files} {own : List String}

def Settled (c : Compiler) (fs : Files) (seen : List String) (s dir : String) : Prop :=
  s = c.selfName ∨ c.locate fs s dir = none ∨ ∃ p ∈ seen, c.locate fs s dir = some p

def Due (c : Compiler) (fs : Files) (seen : List String) (queue : List (String × String))
    (s dir : String) : Prop := (s, dir) ∈ queue ∨ Settled c fs seen s dir

/-- The paths of the modules that specifiers lead to, and on from there the specifiers of every module
that converts. -/
inductive Reaches (c : Compiler) (fs : Files) (own : List String) : String → Prop where
  | own {s p : String} : s ∈ own → s ≠ c.selfName → c.locate fs s c.rootDir = some p →
      Reaches c fs own p
  | nested {p q text s : String} {nested : List String} : Reaches c fs own p →
      c.convertPath fs p = .ok (.ok text nested) → s ∈ nested → s ≠ c.selfName →
      c.locate fs s (Path.parent p) = some q → Reaches c fs own q

/-- What is told of the module at a path. -/
def told (c : Compiler) (fs : Files) (p : String) : List Diagnostic :=
  match c.convertPath fs p with
  | .ok (.diagnostics ds _ _) => ds
  | _ => []

/-- The module at a path, if it converts to another text than the one noted for it. -/
def fresh (c : Compiler) (fs : Files) (p : String) : Option SideModule :=
  match c.convertPath fs p with
  | .ok (.ok text _) => if c.emitted.lookup p = some text then none else some ⟨p, text⟩
  | _ => none

/-- What holds between the rounds of a collection that begins with a compiler and some diagnostics: what
waits is what the cell comes to, the specifiers of the cell and of every module met wait or are settled,
and what was told and handed out on the way is that of the modules met. -/
structure Explores (c : Compiler) (fs : Files) (own : List String) (ds : List Diagnostic)
    (c' : Compiler) (k : Collection) (queue : List (String × String)) : Prop where
  waiting : ∀ e ∈ queue, Visits c fs own e.1 e.2
  given : ∀ s ∈ own, Due c fs k.seen queue s c.rootDir
  met : ∀ p ∈ k.seen, ∃ m, c.convertPath fs p = .ok m ∧
    ∀ s ∈ m.imports, Due c fs k.seen queue s (Path.parent p)
  reached : ∀ p ∈ k.seen, Reaches c fs own p
  distinct : k.seen.Nodup
  told : k.diagnostics = ds ++ k.seen.reverse.flatMap (c.told fs)
  out : k.out = k.seen.reverse.filterMap (c.fresh fs)
  noted : c' = c.note k.out

theorem Settled.mono {seen seen' : List String} {s dir : String} (h : Settled c fs seen s dir)
    (sub : ∀ p ∈ seen, p ∈ seen') : Settled c fs seen' s dir := by
  rcases h with h | h | ⟨p, met, h⟩
  · exact .inl h
  · exact .inr (.inl h)
  · exact .inr (.inr ⟨p, sub p met, h⟩)

theorem Due.next {seen seen' : List String} {queue queue' : List (String × String)}
    {s dir s₀ dir₀ : String} (h : Due c fs seen ((s₀, dir₀) :: queue) s dir)
    (sub : ∀ p ∈ seen, p ∈ seen') (subq : ∀ e ∈ queue, e ∈ queue')
    (settled : Settled c fs seen' s₀ dir₀) : Due c fs seen' queue' s dir := by
  rcases h with h | h
  · rcases List.mem_cons.mp h with same | h
    · cases same
      exact .inr settled
    · exact .inl (subq _ h)
  · exact .inr (h.mono sub)

theorem newPath_none {seen : List String} {s dir : String} (h : c.newPath fs seen s dir = none) :
    Settled c fs seen s dir := by
  unfold newPath at h
  by_cases self : s = c.selfName
  · exact .inl self
  · rw [if_neg (by simpa using self)] at h
    cases located : c.locate fs s dir with
    | none => exact .inr (.inl located)
    | some p =>
      rw [located] at h
      exact .inr (.inr ⟨p, by simpa [Option.filter] using h, located⟩)

/-- A module that is read converts with the specifiers that it imports, or what is wrong with it is
told. -/
theorem convertPath_cases {p : String} {m : Converted} (h : c.convertPath fs p = .ok m) :
    (∃ ds text nested, m = .diagnostics ds text nested ∧ ds ≠ []) ∨
      ∃ text body, m = .ok text (specifiers body) := by
  unfold convertPath at h
  cases read : c.readModule fs p with
  | error t =>
    rw [read] at h
    cases h
  | ok src =>
    rw [read] at h
    change c.convertModule src p = _ at h
    unfold convertModule at h
    cases checked : checkModule p src with
    | error e =>
      rw [checked] at h
      cases e with
      | trouble t => cases h
      | fault f =>
        cases h
        exact .inl ⟨_, _, _, rfl, List.cons_ne_nil _ _⟩
    | ok body =>
      rw [checked] at h
      dsimp only at h
      cases back : readAllBack ((importsOf body).flatMap (requireStmt true)) with
      | error t =>
        rw [back] at h
        cases h
      | ok _ =>
        rw [back] at h
        cases deep : unlessDeep (exceedsChange body || exceedsPrinting body) with
        | error t =>
          rw [deep] at h
          cases h
        | ok _ =>
          rw [deep] at h
          cases text : printed (printBody (requireStmts true body)) with
          | error t =>
            rw [text] at h
            cases h
          | ok _ =>
            rw [text] at h
            cases found : wildcards body with
            | nil =>
              rw [found] at h
              cases h
              exact .inr ⟨_, body, rfl⟩
            | cons p ps =>
              rw [found] at h
              cases h
              exact .inl ⟨_, _, _, rfl, List.cons_ne_nil _ _⟩

theorem Visits.reaches {s dir p : String} (h : Visits c fs own s dir) (other : s ≠ c.selfName)
    (located : c.locate fs s dir = some p) : Reaches c fs own p := by
  induction h generalizing p with
  | own member => exact .own member other located
  | nested _ other' located' converts inside ih =>
    exact .nested (ih other' located') converts inside other located

theorem Reaches.mem_paths {p : String} (h : Reaches c fs own p) : p ∈ c.paths fs := by
  cases h with
  | own _ _ located => exact locate_mem_paths located
  | nested _ _ _ _ located => exact locate_mem_paths located

theorem newPath_other {seen : List String} {s dir p : String}
    (h : c.newPath fs seen s dir = some p) : s ≠ c.selfName := by
  rintro rfl
  simp [newPath] at h

theorem fresh_some {p : String} {m : SideModule} (h : c.fresh fs p = some m) :
    m.path = p ∧ (∃ nested, c.convertPath fs p = .ok (.ok m.source nested)) ∧
      c.emitted.lookup p ≠ some m.source := by
  unfold fresh at h
  split at h
  next text nested converts =>
    split at h
    next => cases h
    next other =>
      cases h
      exact ⟨rfl, ⟨nested, converts⟩, other⟩
  next => cases h

theorem collectPath_eq (c : Compiler) (fs : Files) (k : Collection) (path : String) :
    c.collectPath fs k path = match c.convertPath fs path with
      | .error t => (.error t, c)
      | .ok m =>
        (.ok { queue := k.queue ++ m.imports.map (·, Path.parent path), seen := path :: k.seen
               diagnostics := k.diagnostics ++ c.told fs path
               out := k.out ++ (c.fresh fs path).toList },
          c.note (c.fresh fs path).toList) := by
  unfold collectPath told fresh
  cases c.convertPath fs path with
  | error t => rfl
  | ok m =>
    cases m with
    | diagnostics ds text nested => simp [Converted.imports, note, setKeys]
    | ok text nested =>
      by_cases same : c.emitted.lookup path = some text
      · simp [Converted.imports, note, setKeys, same]
      · simp [Converted.imports, note, setKeys, same]

theorem paths_fresh (c : Compiler) (fs : Files) (ps : List String) :
    ((ps.filterMap (c.fresh fs)).map (·.path)).Sublist ps := by
  induction ps with
  | nil => exact .slnil
  | cons p ps ih =>
    rw [List.filterMap_cons]
    cases handed : c.fresh fs p with
    | none => exact ih.cons p
    | some m =>
      rw [List.map_cons, (fresh_some handed).1]
      exact ih.cons_cons p

theorem lookup_note_other {new : List SideModule} {p : String} (h : ∀ m ∈ new, m.path ≠ p) :
    (c.note new).emitted.lookup p = c.emitted.lookup p := by
  rw [note, lookup_setKeys]
  cases found : (setKeys (new.map fun m => (m.path, m.source)) []).lookup p with
  | none => rfl
  | some text =>
    obtain ⟨e, member, same⟩ := mem_of_lookup_setKeys (Option.isSome_iff_exists.mpr ⟨text, found⟩)
    obtain ⟨m, inside, rfl⟩ := List.mem_map.mp member
    exact absurd same (h m inside)

theorem lookup_note {new : List SideModule} (distinct : (new.map (·.path)).Nodup) {m : SideModule}
    (h : m ∈ new) : (c.note new).emitted.lookup m.path = some m.source := by
  induction new generalizing c with
  | nil => cases h
  | cons n new ih =>
    obtain ⟨apart, distinct⟩ := List.nodup_cons.mp distinct
    have step : c.note (n :: new) = (c.note [n]).note new := (note_note c [n] new).symm
    rw [step]
    rcases List.mem_cons.mp h with rfl | later
    · have others : ∀ m' ∈ new, m'.path ≠ m.path := fun m' member same =>
        apart (List.mem_map.mpr ⟨m', member, same⟩)
      rw [lookup_note_other others]
      exact (lookup_setKey ..).trans (if_pos rfl)
    · exact ih distinct later

namespace Explores

variable {ds : List Diagnostic} {k k' : Collection}

theorem skip {s dir : String} {rest : List (String × String)}
    (h : Explores c fs own ds c' k ((s, dir) :: rest)) (settled : Settled c fs k.seen s dir) :
    Explores c fs own ds c' k rest :=
  { h with
    waiting := fun e member => h.waiting e (List.mem_cons_of_mem _ member)
    given := fun s' member => (h.given s' member).next (fun _ h => h) (fun _ h => h) settled
    met := fun p member => by
      obtain ⟨m, converts, due⟩ := h.met p member
      exact ⟨m, converts, fun s' inside =>
        (due s' inside).next (fun _ h => h) (fun _ h => h) settled⟩ }

theorem fresh_unseen {queue : List (String × String)} (h : Explores c fs own ds c' k queue)
    {p : String} (unseen : p ∉ k.seen) : c'.fresh fs p = c.fresh fs p := by
  have lookup : (c.note k.out).emitted.lookup p = c.emitted.lookup p := by
    refine lookup_note_other fun m handed same => unseen ?_
    rw [h.out] at handed
    obtain ⟨q, met, handed⟩ := List.mem_filterMap.mp handed
    rw [← same, (fresh_some handed).1]
    exact List.mem_reverse.mp met
  rw [h.noted]
  unfold fresh
  rw [lookup]
  rfl

theorem take {s dir path : String} {rest : List (String × String)} {m : Converted}
    (h : Explores c fs own ds c' k ((s, dir) :: rest))
    (new : c.newPath fs k.seen s dir = some path) (converts : c.convertPath fs path = .ok m) :
    Explores c fs own ds (c'.note (c'.fresh fs path).toList)
      { queue := rest ++ m.imports.map (·, Path.parent path), seen := path :: k.seen
        diagnostics := k.diagnostics ++ c'.told fs path
        out := k.out ++ (c'.fresh fs path).toList }
      (rest ++ m.imports.map (·, Path.parent path)) := by
  obtain ⟨located, unseen⟩ := newPath_some new
  have visits : Visits c fs own s dir := h.waiting _ List.mem_cons_self
  have other := newPath_other new
  have settled : Settled c fs (path :: k.seen) s dir :=
    .inr (.inr ⟨path, List.mem_cons_self, located⟩)
  have later : ∀ e ∈ rest, e ∈ rest ++ m.imports.map (·, Path.parent path) :=
    fun _ h => List.mem_append_left _ h
  have next {s' dir' : String} (due : Due c fs k.seen ((s, dir) :: rest) s' dir') :=
    due.next (fun _ h => List.mem_cons_of_mem _ h) later settled
  refine
    { waiting := fun e member => ?_
      given := fun s' member => next (h.given s' member)
      met := fun p member => ?_
      reached := fun p member => ?_
      distinct := List.nodup_cons.mpr ⟨unseen, h.distinct⟩
      told := ?_, out := ?_, noted := ?_ }
  · rcases List.mem_append.mp member with old | added
    · exact h.waiting e (List.mem_cons_of_mem _ old)
    · obtain ⟨s', inside, rfl⟩ := List.mem_map.mp added
      cases m with
      | diagnostics => cases inside
      | ok text nested => exact .nested visits other located converts inside
  · rcases List.mem_cons.mp member with rfl | member
    · exact ⟨m, converts, fun s' inside =>
        .inl (List.mem_append_right _ (List.mem_map_of_mem inside))⟩
    · obtain ⟨m', converts', due⟩ := h.met p member
      exact ⟨m', converts', fun s' inside => next (due s' inside)⟩
  · rcases List.mem_cons.mp member with rfl | member
    · exact visits.reaches other located
    · exact h.reached p member
  · have same : c'.told fs path = c.told fs path := by
      rw [h.noted]
      rfl
    rw [same, h.told, List.reverse_cons, List.flatMap_append, List.flatMap_singleton,
      List.append_assoc]
  · rw [h.fresh_unseen unseen, h.out, List.reverse_cons, List.filterMap_append]
    cases handed : c.fresh fs path <;> simp [handed]
  · rw [h.noted, note_note]

end Explores

/-- What a collection comes to: it has explored all there is, or it met a module that does not
convert. -/
def Ends (c : Compiler) (fs : Files) (own : List String) (ds : List Diagnostic) :
    Except Trouble Collection × Compiler → Prop
  | (.ok k, c') => k.queue = [] ∧ Explores c fs own ds c' k []
  | (.error t, _) => ∃ p, Reaches c fs own p ∧ c.convertPath fs p = .error t

theorem collectQueue_ends (fuel : Nat) {ds : List Diagnostic} {k : Collection}
    (h : Explores c fs own ds c' k k.queue) (enough : (c.paths fs).length < fuel + k.seen.length) :
    Ends c fs own ds (collectQueue fs fuel c' k) := by
  induction fuel generalizing c' k with
  | zero =>
    have := h.distinct.length_le_of_subset fun p met => (h.reached p met).mem_paths
    omega
  | succ fuel ih =>
    have through (queue : List (String × String)) (h : Explores c fs own ds c' k queue) :
        Ends c fs own ds (collectNext fs (collectQueue fs fuel) c' k queue) := by
      induction queue with
      | nil => exact ⟨rfl, { h with }⟩
      | cons pair rest ihq =>
        obtain ⟨s, dir⟩ := pair
        have same : c'.newPath fs k.seen s dir = c.newPath fs k.seen s dir := by
          rw [h.noted]
          rfl
        have convert (path : String) : c'.convertPath fs path = c.convertPath fs path := by
          rw [h.noted]
          rfl
        unfold collectNext
        rw [same]
        cases new : c.newPath fs k.seen s dir with
        | none => exact ihq (h.skip (newPath_none new))
        | some path =>
          dsimp only
          rw [collectPath_eq, convert]
          cases converts : c.convertPath fs path with
          | error t =>
            have visits : Visits c fs own s dir := h.waiting _ List.mem_cons_self
            exact ⟨path, visits.reaches (newPath_other new) (newPath_some new).1, converts⟩
          | ok m =>
            refine ih (h.take new converts) ?_
            simp only [List.length_cons]
            omega
    exact through k.queue h

theorem explores_own (c : Compiler) (fs : Files) (own : List String) (ds : List Diagnostic) :
    Explores c fs own ds c { queue := own.map (·, c.rootDir), diagnostics := ds }
      (own.map (·, c.rootDir)) where
  waiting e member := by
    obtain ⟨s, inside, rfl⟩ := List.mem_map.mp member
    exact .own inside
  given s member := .inl (List.mem_map_of_mem member)
  met p member := absurd member List.not_mem_nil
  reached p member := absurd member List.not_mem_nil
  distinct := List.nodup_nil
  told := by simp
  out := rfl
  noted := rfl

theorem collectSideModules_ends (c : Compiler) (fs : Files) (own : List String)
    (ds : List Diagnostic) : Ends c fs own ds (c.collectSideModules fs own ds) :=
  collectQueue_ends _ (explores_own c fs own ds) (by simp)

theorem Explores.mem_seen {ds : List Diagnostic} {k : Collection}
    (h : Explores c fs own ds c' k []) {p : String} (reaches : Reaches c fs own p) : p ∈ k.seen := by
  have met {s dir : String} (due : Due c fs k.seen [] s dir) (other : s ≠ c.selfName) {p : String}
      (located : c.locate fs s dir = some p) : p ∈ k.seen := by
    rcases due.resolve_left List.not_mem_nil with self | absent | ⟨q, member, located'⟩
    · exact absurd self other
    · cases absent.symm.trans located
    · cases located'.symm.trans located
      exact member
  induction reaches with
  | own member other located => exact met (h.given _ member) other located
  | nested _ converts inside other located ih =>
    obtain ⟨m, converts', due⟩ := h.met _ ih
    cases converts'.symm.trans converts
    exact met (due _ inside) other located

theorem Explores.distinct_out {ds : List Diagnostic} {k : Collection} {queue : List (String × String)}
    (h : Explores c fs own ds c' k queue) : (k.out.map (·.path)).Nodup := by
  rw [h.out]
  exact (paths_fresh c fs _).nodup (List.pairwise_reverse.mpr (h.distinct.imp Ne.symm))

theorem Explores.lookup_met {ds : List Diagnostic} {k : Collection} {queue : List (String × String)}
    (h : Explores c fs own ds c' k queue) {p text : String} {nested : List String}
    (member : p ∈ k.seen) (converts : c.convertPath fs p = .ok (.ok text nested)) :
    c'.emitted.lookup p = some text := by
  rw [h.noted]
  by_cases same : c.emitted.lookup p = some text
  · -- Nothing is handed out for the path, so its text stays.
    rw [lookup_note_other fun m handed path => ?_, same]
    rw [h.out] at handed
    obtain ⟨q, -, handed⟩ := List.mem_filterMap.mp handed
    obtain ⟨rfl, ⟨nested', converts'⟩, other⟩ := fresh_some handed
    rw [path, converts] at converts'
    cases converts'
    exact other (path ▸ same)
  · have handed : c.fresh fs p = some ⟨p, text⟩ := by
      unfold fresh
      rw [converts]
      exact if_neg same
    have out : ⟨p, text⟩ ∈ k.out := by
      rw [h.out]
      exact List.mem_filterMap.mpr ⟨p, List.mem_reverse.mpr member, handed⟩
    exact lookup_note h.distinct_out out

theorem Explores.converts {ds : List Diagnostic} {k : Collection} {queue : List (String × String)}
    (h : Explores c fs own ds c' k queue) (clean : k.diagnostics = []) {p : String}
    (member : p ∈ k.seen) : ∃ text nested, c.convertPath fs p = .ok (.ok text nested) := by
  obtain ⟨m, converts, -⟩ := h.met p member
  have silent : c.told fs p = [] := by
    have told := h.told
    rw [clean] at told
    have all := (List.append_eq_nil_iff.mp told.symm).2
    exact List.flatMap_eq_nil_iff.mp all p (List.mem_reverse.mpr member)
  obtain ⟨ds', text, nested, rfl, some_⟩ | ⟨text, body, rfl⟩ := convertPath_cases converts
  · unfold Compiler.told at silent
    rw [converts] at silent
    exact absurd silent some_
  · exact ⟨text, _, converts⟩

/-- A cell that compiles without diagnostics has met the module of every specifier that it comes to,
and the text of the module is noted. -/
theorem compile_reaches {prior src : String} {d : Compiled} {body : List Stmt}
    (done : c.compile fs prior src = (.ok d, c')) (clean : d.diagnostics = [])
    (checked : checkCell src = .ok body) {s dir : String}
    (visits : Visits c fs (specifiers (importing body)) s dir) (other : s ≠ c.selfName) :
    c.locate fs s dir = none ∨ ∃ p text nested, c.locate fs s dir = some p ∧
      c.convertPath fs p = .ok (.ok text nested) ∧ c'.emitted.lookup p = some text := by
  obtain ⟨r, same, early⟩ | ⟨body', diagnostics, f, checked', kept, same⟩ :=
    compile_cases c fs prior src
  · rw [same] at done
    cases done
    exact absurd clean (early d rfl).2
  · obtain rfl : body' = body := Except.ok.inj (checked'.symm.trans checked)
    rw [same] at done
    cases collected : c.collectSideModules fs (specifiers (importing body')) diagnostics with
    | mk result c'' =>
      rw [collected] at done
      cases result with
      | error t => cases done
      | ok k =>
        cases done
        have clean : k.diagnostics = [] := (kept k).2.symm.trans clean
        have ends := collectSideModules_ends c fs (specifiers (importing body')) diagnostics
        rw [collected] at ends
        obtain ⟨-, explored⟩ := ends
        cases located : c.locate fs s dir with
        | none => exact .inl rfl
        | some p =>
          have member := explored.mem_seen (visits.reaches other located)
          obtain ⟨text, nested, converts⟩ := explored.converts clean member
          exact .inr ⟨p, text, nested, rfl, converts, explored.lookup_met member converts⟩

end Compiler

end Notebook.Cell
