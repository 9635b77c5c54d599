import Notebook.Proofs.Reach

/-! What collecting the modules of a cell comes to, and what the texts that were handed out before have
to do with it: they decide which modules are handed out again, and nothing else. -/

set_option autoImplicit false

namespace Notebook.Cell

/-- A compiled cell but for the modules that it brings. -/
def Compiled.alone (d : Compiled) : Compiled := { d with sideModules := [] }

namespace Compiler

/-- A collection but for the modules that are handed out. -/
def Collection.alone (k : Collection) : Collection := { k with out := [] }

/-- A compiler that remembers other texts. -/
def remembering (c : Compiler) (texts : List (String × String)) : Compiler := { c with emitted := texts }

variable {c c' : Compiler} {fs : Files} {own : List String} {ds : List Diagnostic}

section

variable (c fs) (e : List (String × String)) (p : String)

theorem newPath_remembering (seen : List String) (s dir : String) :
    (c.remembering e).newPath fs seen s dir = c.newPath fs seen s dir := rfl

theorem convertPath_remembering : (c.remembering e).convertPath fs p = c.convertPath fs p := rfl

theorem told_remembering : (c.remembering e).told fs p = c.told fs p := rfl

end

theorem collectQueue_remembering (c : Compiler) (fs : Files) (fuel : Nat)
    (e e' : List (String × String)) {k k' : Collection} (same : k.alone = k'.alone) :
    (collectQueue fs fuel (c.remembering e) k).1.map Collection.alone
      = (collectQueue fs fuel (c.remembering e') k').1.map Collection.alone := by
  induction fuel generalizing e e' k k' with
  | zero => exact congrArg Except.ok same
  | succ fuel ih =>
    obtain ⟨queue, seen, diagnostics, out⟩ := k
    obtain ⟨queue', seen', diagnostics', out'⟩ := k'
    obtain ⟨rfl, rfl, rfl, -⟩ := Collection.mk.inj same
    have through (waiting : List (String × String)) :
        (collectNext fs (collectQueue fs fuel) (c.remembering e)
            { queue, seen, diagnostics, out } waiting).1.map Collection.alone
          = (collectNext fs (collectQueue fs fuel) (c.remembering e')
            { queue, seen, diagnostics, out := out' } waiting).1.map Collection.alone := by
      induction waiting with
      | nil => rfl
      | cons pair rest ihq =>
        obtain ⟨s, dir⟩ := pair
        unfold collectNext
        dsimp only
        rw [newPath_remembering, newPath_remembering]
        cases c.newPath fs seen s dir with
        | none => exact ihq
        | some path =>
          dsimp only
          rw [collectPath_eq, collectPath_eq, convertPath_remembering, convertPath_remembering,
            told_remembering, told_remembering]
          cases c.convertPath fs path with
          | error t => rfl
          | ok m => exact ih _ _ rfl
    exact through queue

/-- A cell compiles to the same, the modules that it brings apart, whatever was handed out before. -/
theorem compile_remembering (c : Compiler) (fs : Files) (prior src : String)
    (e : List (String × String)) :
    ((c.remembering e).compile fs prior src).1.map Compiled.alone
      = (c.compile fs prior src).1.map Compiled.alone := by
  unfold compile
  cases parseDeclarations prior with
  | error t => rfl
  | ok decls =>
    cases checkCell src with
    | error f =>
      cases f with
      | trouble t =>
        dsimp only
        split <;> rfl
      | fault f => rfl
    | ok body =>
      dsimp only
      cases buildBody decls body with
      | error t => rfl
      | ok built =>
        cases declareBody decls body with
        | error t => rfl
        | ok after =>
          dsimp only
          rw [show (c.remembering e).extraGlobals = c.extraGlobals from rfl]
          generalize checkNames c.extraGlobals decls body
            ++ (wildcards (importing body)).map wildcardDiagnostic = ds
          have same : ((c.remembering e).collectSideModules fs (specifiers (importing body)) ds).1.map
              Collection.alone = (c.collectSideModules fs (specifiers (importing body)) ds).1.map .alone :=
            collectQueue_remembering c fs _ e c.emitted rfl
          generalize (c.remembering e).collectSideModules fs _ ds = r at same
          generalize c.collectSideModules fs _ ds = r' at same
          obtain ⟨result, c₁⟩ := r
          obtain ⟨result', c₁'⟩ := r'
          cases result with
          | error t =>
            cases result' with
            | error t' =>
              cases same
              rfl
            | ok k' => cases same
          | ok k =>
            cases result' with
            | error t' => cases same
            | ok k' =>
              obtain ⟨-, -, told, -⟩ := Collection.mk.inj (Except.ok.inj same)
              simp only [Except.map, Compiled.alone, told]

theorem Reaches.remembering {e : List (String × String)} {p : String} (h : Reaches c fs own p) :
    Reaches (c.remembering e) fs own p := by
  induction h with
  | own member other located => exact .own member other located
  | nested _ converts inside other located ih => exact .nested ih converts inside other located

theorem Explores.out_nil {k : Collection} {queue : List (String × String)}
    (h : Explores c fs own ds c' k queue)
    (known : ∀ p text nested, Reaches c fs own p → c.convertPath fs p = .ok (.ok text nested) →
      c.emitted.lookup p = some text) : k.out = [] := by
  rw [h.out, List.filterMap_eq_nil_iff]
  intro p met
  cases handed : c.fresh fs p with
  | none => rfl
  | some m =>
    obtain ⟨-, ⟨nested, converts⟩, other⟩ := fresh_some handed
    exact absurd (known p _ _ (h.reached p (List.mem_reverse.mp met)) converts) other

theorem collect_again {ds' : List Diagnostic} {k k' : Collection} {c'' : Compiler}
    (first : c.collectSideModules fs own ds = (.ok k, c'))
    (again : c'.collectSideModules fs own ds' = (.ok k', c'')) : k'.out = [] := by
  have begun := collectSideModules_ends c fs own ds
  have ends := collectSideModules_ends c' fs own ds'
  rw [first] at begun
  rw [again] at ends
  refine ends.2.out_nil fun p text nested reaches converts => ?_
  have noted : c' = c.remembering c'.emitted := by
    rw [begun.2.noted]
    rfl
  have reached : Reaches c fs own p := by
    have back := reaches.remembering (e := c.emitted)
    rw [noted] at back
    exact back
  have converted : c.convertPath fs p = .ok (.ok text nested) := by
    rw [noted] at converts
    exact converts
  exact begun.2.lookup_met (begun.2.mem_seen reached) converted

theorem compile_ok {prior src : String} {d : Compiled} (h : c.compile fs prior src = (.ok d, c')) :
    (c' = c ∧ d.sideModules = []) ∨ ∃ body ds k, checkCell src = .ok body ∧
      c.collectSideModules fs (specifiers (importing body)) ds = (.ok k, c') ∧ d.sideModules = k.out := by
  obtain ⟨r, early, none⟩ | ⟨body, ds, f, checked, kept, late⟩ := compile_cases c fs prior src
  · rw [h] at early
    cases early
    exact .inl ⟨rfl, (none d rfl).1⟩
  · refine .inr ⟨body, ds, ?_⟩
    rw [h] at late
    cases collected : c.collectSideModules fs (specifiers (importing body)) ds with
    | mk result c₁ =>
      rw [collected] at late
      cases result with
      | error t => cases late
      | ok k =>
        cases late
        exact ⟨k, checked, rfl, (kept k).1⟩

theorem compile_again {prior src : String} {d : Compiled} (h : c.compile fs prior src = (.ok d, c')) :
    c'.compile fs prior src = (.ok d.alone, c') := by
  obtain ⟨new, noted, -, -⟩ := c.compile_notes fs prior src
  rw [h] at noted
  have same := compile_remembering c fs prior src c'.emitted
  rw [show c.remembering c'.emitted = c' by rw [show c' = c.note new from noted]; rfl, h] at same
  obtain ⟨new', noted', -, out⟩ := c'.compile_notes fs prior src
  cases again : c'.compile fs prior src with
  | mk result c'' =>
    rw [again] at same noted' out
    cases result with
    | error t => cases same
    | ok d' =>
      have brings : d'.sideModules = [] := by
        obtain ⟨-, none⟩ | ⟨body', ds', k', checked', second, brought⟩ := compile_ok again
        · exact none
        · obtain ⟨rfl, none⟩ | ⟨body, ds, k, checked, first, -⟩ := compile_ok h
          · -- The first time no modules were collected, so nothing has changed.
            cases h.symm.trans again
            exact none
          · cases checked.symm.trans checked'
            rw [brought]
            exact collect_again first second
      have handed : new' = [] := (out d' rfl).symm.trans brings
      subst handed
      cases noted'
      have alone : d'.alone = d.alone := Except.ok.inj same
      obtain ⟨body', declarations', diagnostics', modules', await', last'⟩ := d'
      cases brings
      exact congrArg (fun d => (Except.ok d, _)) alone

/-- What collecting for specifiers comes to: each module that they reach is converted once, what is wrong
with it is told, and its text is handed out and noted if it is not the one noted before. -/
structure Collected (c : Compiler) (fs : Files) (own : List String) (ds : List Diagnostic)
    (k : Collection) (c' : Compiler) : Prop where
  finished : k.queue = []
  once : k.seen.Nodup
  reached : ∀ p, p ∈ k.seen ↔ Reaches c fs own p
  converts : ∀ p ∈ k.seen, ∃ m, c.convertPath fs p = .ok m
  told : k.diagnostics = ds ++ k.seen.reverse.flatMap (c.told fs)
  out : k.out = k.seen.reverse.filterMap (c.fresh fs)
  noted : ∀ m ∈ k.out,
    c'.emitted.lookup m.path = some m.source ∧ c.emitted.lookup m.path ≠ some m.source
  kept : ∀ p, (∀ m ∈ k.out, m.path ≠ p) → c'.emitted.lookup p = c.emitted.lookup p
  same : c' = c.remembering c'.emitted

theorem Explores.collected {k : Collection} (h : Explores c fs own ds c' k []) (finished : k.queue = []) :
    Collected c fs own ds k c' where
  finished := finished
  once := h.distinct
  reached p := ⟨h.reached p, h.mem_seen⟩
  converts p met := (h.met p met).imp fun _ => And.left
  told := h.told
  out := h.out
  noted m handed := by
    refine ⟨h.noted ▸ lookup_note h.distinct_out handed, ?_⟩
    rw [h.out] at handed
    obtain ⟨p, -, handed⟩ := List.mem_filterMap.mp handed
    obtain ⟨rfl, -, other⟩ := fresh_some handed
    exact other
  kept p others := h.noted ▸ lookup_note_other others
  same := by
    rw [h.noted]
    rfl

/-- Collecting ends, and unless a module that is reached does not convert it comes to all that is
reached. What was handed out before has no part in what else a cell compiles to, and a cell that is
compiled again with nothing changed brings no modules. -/
theorem collects_reached (c : Compiler) (fs : Files) :
    (∀ own ds,
      (∃ k c', c.collectSideModules fs own ds = (.ok k, c') ∧ Collected c fs own ds k c') ∨
      ∃ t p c', c.collectSideModules fs own ds = (.error t, c') ∧ Reaches c fs own p ∧
        c.convertPath fs p = .error t) ∧
    (∀ prior src texts, ((c.remembering texts).compile fs prior src).1.map Compiled.alone
      = (c.compile fs prior src).1.map Compiled.alone) ∧
    ∀ prior src d c', c.compile fs prior src = (.ok d, c') →
      c'.compile fs prior src = (.ok d.alone, c') := by
  refine ⟨fun own ds => ?_, compile_remembering c fs, fun _ _ _ _ => compile_again⟩
  have ends := collectSideModules_ends c fs own ds
  cases collected : c.collectSideModules fs own ds with
  | mk result c' =>
    rw [collected] at ends
    cases result with
    | ok k => exact .inl ⟨k, c', rfl, ends.2.collected ends.1⟩
    | error t =>
      obtain ⟨p, reaches, failed⟩ := ends
      exact .inr ⟨t, p, c', rfl, reaches, failed⟩

set_option maxRecDepth 100000 in
/-- Two modules that import each other, one of them known as it is. -/
example :
    let c : Compiler :=
      { places := ⟨"/w", "/home/user"⟩, rootDir := "/w"
        modules := [("/w/a.py", "import b"), ("/w/b.py", "import a")]
        emitted := [("/w/b.py", "a = __require__('a')\n")] }
    (c.collectSideModules {} ["a", "b"] []).1.toOption.map (fun k => (k.seen, k.out.map (·.path)))
      = some (["/w/b.py", "/w/a.py"], ["/w/a.py"]) := by
  decide +kernel

end Compiler

end Notebook.Cell
