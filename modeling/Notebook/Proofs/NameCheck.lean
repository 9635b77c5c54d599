import Notebook.Proofs.Declared
import Notebook.Proofs.Occurrence
import Notebook.Proofs.Reach

/-! The check of names: a cell is told of each name that it reads and that nothing binds, once and where it
is read first. -/

set_option autoImplicit false

namespace Notebook.Cell

open Notebook.Source Notebook.Tree Notebook.Text
open Notebook.Code (of_toOption_any)

/-- The order of places: by line, then by column. -/
def NotAfter (p q : Pos) : Prop := p.line < q.line ∨ p.line = q.line ∧ p.col ≤ q.col

theorem before_iff {a b : Reading} : a.before b = true ↔ NotAfter a.pos b.pos := by
  simp [Reading.before, NotAfter]

theorem readings_sorted (body : List Stmt) : (readings body).Pairwise fun a b => NotAfter a.pos b.pos := by
  have sorted : (readings body).Pairwise fun a b => a.before b = true := by
    refine List.pairwise_mergeSort (fun a b c first second => ?_) (fun a b => ?_) _
    · rw [before_iff] at first second ⊢
      unfold NotAfter at first second ⊢
      omega
    · rw [Bool.or_eq_true, before_iff, before_iff]
      unfold NotAfter
      omega
  exact sorted.imp before_iff.mp

/-- What a cell is told of a name that nothing binds. -/
def Reading.undefined (r : Reading) : Diagnostic :=
  { message := s!"name '{r.name}' is not defined", line := r.pos.line - 1, character := r.pos.col }

/-! ### Names declared before -/

/-- Whether a line of a text reads as a declaration of a name. -/
def DeclaredIn (prior : String) (n : String) : Prop :=
  ∃ l ∈ lines prior, isBlankText l = false ∧ declarationOfLine l = .ok (some n)

theorem mem_readLines_iff {ls : List String} {ds ds' : Declarations} {n : String} (read : readLines ds ls = .ok ds') :
    n ∈ ds'.names ↔ n ∈ ds.names ∨ ∃ l ∈ ls, isBlankText l = false ∧ declarationOfLine l = .ok (some n) := by
  induction ls generalizing ds with
  | nil =>
    cases read
    simp
  | cons l ls ih =>
    rw [readLines] at read
    simp only [List.mem_cons, exists_eq_or_imp]
    split at read
    next blank => simp [ih read, blank]
    next filled =>
      have filled : isBlankText l = false := Bool.eq_false_iff.mpr filled
      split at read
      next => cases read
      next other => simp [ih read, other]
      next m declares =>
        have same : n = m ↔ isBlankText l = false ∧ declarationOfLine l = .ok (some n) := by
          rw [declares, and_iff_right filled]
          exact ⟨fun h => h ▸ rfl, fun h => (Option.some.inj (Except.ok.inj h)).symm⟩
        rw [ih read, Declarations.mem_names_declare, same, or_assoc]

theorem mem_parseDeclarations_iff {prior : String} {ds : Declarations} (read : parseDeclarations prior = .ok ds)
    {n : String} : n ∈ ds.names ↔ DeclaredIn prior n := by
  rw [mem_readLines_iff read]
  simp [Declarations.names, DeclaredIn]

/-! ### First readings -/

section

variable (known : String → Bool)

theorem undefinedReadings_sublist (rs : List Reading) (reported : List String) :
    (undefinedReadings known rs reported).Sublist rs := by
  fun_induction undefinedReadings known rs reported with
  | case1 => exact .slnil
  | case2 r rs reported skip ih => exact ih.cons r
  | case3 r rs reported new ih => exact ih.cons_cons r

theorem mem_undefinedReadings {rs : List Reading} {reported : List String} {n : String} :
    (∃ r ∈ undefinedReadings known rs reported, r.name = n) ↔
      (∃ r ∈ rs, r.name = n) ∧ known n = false ∧ n ∉ reported := by
  fun_induction undefinedReadings known rs reported with
  | case1 => simp
  | case2 r rs reported skip ih =>
    simp only [Bool.or_eq_true, List.contains_iff_mem] at skip
    rw [ih]
    constructor
    · rintro ⟨⟨x, member, name⟩, rest⟩
      exact ⟨⟨x, .tail r member, name⟩, rest⟩
    · rintro ⟨⟨x, member, rfl⟩, unknown, fresh⟩
      rcases List.mem_cons.mp member with rfl | member
      · rcases skip with here | here
        · rw [unknown] at here
          cases here
        · exact absurd here fresh
      · exact ⟨⟨x, member, rfl⟩, unknown, fresh⟩
  | case3 r rs reported new ih =>
    simp only [Bool.or_eq_true, List.contains_iff_mem, not_or, Bool.not_eq_true] at new
    simp only [List.mem_cons, exists_eq_or_imp, ih, not_or]
    constructor
    · rintro (rfl | ⟨read, unknown, -, fresh⟩)
      · exact ⟨.inl rfl, new⟩
      · exact ⟨.inr read, unknown, fresh⟩
    · rintro ⟨rfl | read, unknown, fresh⟩
      · exact .inl rfl
      · by_cases same : r.name = n
        · exact .inl same
        · exact .inr ⟨read, unknown, Ne.symm same, fresh⟩

theorem nodup_undefinedReadings (rs : List Reading) (reported : List String) :
    ((undefinedReadings known rs reported).map (·.name)).Nodup := by
  fun_induction undefinedReadings known rs reported with
  | case1 => simp
  | case2 r rs reported skip ih => exact ih
  | case3 r rs reported new ih =>
    refine List.nodup_cons.mpr ⟨fun again => ?_, ih⟩
    have found := (mem_undefinedReadings known).mp (List.mem_map.mp again)
    exact found.2.2 List.mem_cons_self

theorem undefinedReadings_first {rs : List Reading} {reported : List String} {R : Reading → Reading → Prop}
    (refl : ∀ r, R r r) (sorted : rs.Pairwise R) {x y : Reading} (found : x ∈ undefinedReadings known rs reported)
    (read : y ∈ rs) (same : y.name = x.name) : R x y := by
  fun_induction undefinedReadings known rs reported with
  | case1 => cases read
  | case2 r rs reported skip ih =>
    rcases List.mem_cons.mp read with rfl | read
    · have fresh := ((mem_undefinedReadings known).mp ⟨x, found, rfl⟩).2
      simp only [Bool.or_eq_true, List.contains_iff_mem, same, fresh, Bool.false_eq_true, or_self] at skip
    · exact ih sorted.of_cons found read
  | case3 r rs reported new ih =>
    rcases List.mem_cons.mp found with rfl | found
    · rcases List.mem_cons.mp read with rfl | read
      · exact refl y
      · exact List.rel_of_pairwise_cons sorted read
    · rcases List.mem_cons.mp read with rfl | read
      · have fresh := ((mem_undefinedReadings known).mp ⟨x, found, rfl⟩).2.2
        exact absurd (same ▸ List.mem_cons_self) fresh
      · exact ih sorted.of_cons found read

end

namespace Compiler

/-- What a cell that parses is told: of its names, of its wildcard imports, and of the modules that
it comes to. -/
theorem compile_told {c : Compiler} {fs : Files} {prior src : String} {body : List Stmt} {r : Compiled}
    (parsed : checkCell src = .ok body) (compiled : (c.compile fs prior src).1 = .ok r) :
    ∃ (ds : Declarations) (met : List String), parseDeclarations prior = .ok ds ∧
      r.diagnostics = checkNames c.extraGlobals ds body
        ++ (wildcards (importing body)).map wildcardDiagnostic ++ met.flatMap (c.told fs) := by
  unfold compile at compiled
  cases declared : parseDeclarations prior with
  | error t =>
    rw [declared] at compiled
    cases compiled
  | ok ds =>
    rw [declared, parsed] at compiled
    dsimp only at compiled
    split at compiled
    next => cases compiled
    next => cases compiled
    next text last after built declares =>
      have ends := collectSideModules_ends c fs (specifiers (importing body))
        (checkNames c.extraGlobals ds body ++ (wildcards (importing body)).map wildcardDiagnostic)
      split at compiled
      next => cases compiled
      next k c' collected =>
        rw [collected] at ends
        cases compiled
        exact ⟨ds, _, rfl, ends.2.told⟩

/-- The check of names is exact: a cell is told of the names that it reads somewhere and that are bound
nowhere in it, not declared before, not built in and not known beside these, each once, at the place where
it is read first, in the order of these places. -/
theorem names_checked {c : Compiler} {fs : Files} {prior src : String} {body : List Stmt} {r : Compiled}
    (parsed : checkCell src = .ok body) (compiled : (c.compile fs prior src).1 = .ok r) :
    ∃ (found : List Reading) (met : List String),
      r.diagnostics = found.map Reading.undefined
        ++ (wildcards (importing body)).map wildcardDiagnostic ++ met.flatMap (c.told fs) ∧
      (∀ n, (∃ x ∈ found, x.name = n) ↔ (∃ p, Loads body p n) ∧ ¬ Binds body n ∧ ¬ DeclaredIn prior n ∧
        n ∉ builtinNames ∧ n ∉ c.extraGlobals) ∧
      (found.map (·.name)).Nodup ∧
      (∀ x ∈ found, Loads body x.pos x.name ∧ ∀ p, Loads body p x.name → NotAfter x.pos p) ∧
      found.Pairwise fun x y => NotAfter x.pos y.pos := by
  obtain ⟨ds, met, declared, told⟩ := compile_told parsed compiled
  let known (n : String) : Bool := (boundAnywhere body).contains n || ds.names.contains n
    || builtinNames.contains n || c.extraGlobals.contains n
  have unknown (n : String) : known n = false ↔
      ¬ Binds body n ∧ ¬ DeclaredIn prior n ∧ n ∉ builtinNames ∧ n ∉ c.extraGlobals := by
    simp [known, mem_boundAnywhere_iff, mem_parseDeclarations_iff declared, and_assoc]
  refine ⟨undefinedReadings known (readings body) [], met, told, fun n => ?_, nodup_undefinedReadings known _ _,
    fun x found => ?_, (readings_sorted body).sublist (undefinedReadings_sublist known _ _)⟩
  · have read : (∃ x ∈ readings body, x.name = n) ↔ ∃ p, Loads body p n := by
      simp only [mem_readings_iff]
      exact ⟨fun ⟨x, loads, name⟩ => ⟨x.pos, name ▸ loads⟩, fun ⟨p, loads⟩ => ⟨⟨p, n⟩, loads, rfl⟩⟩
    rw [mem_undefinedReadings, read, unknown]
    simp
  · refine ⟨mem_readings_iff.mp ((undefinedReadings_sublist known _ _).subset found), fun p loads => ?_⟩
    exact undefinedReadings_first known (fun r => .inr ⟨rfl, Nat.le_refl _⟩) (readings_sorted body) found
      (y := ⟨p, x.name⟩) (mem_readings_iff.mpr loads) rfl

set_option maxRecDepth 100000 in
/-- Of the names that a cell reads, one is a parameter, one declared before, and one unknown. -/
theorem names_checked_lambda :
    let c : Compiler := { places := ⟨"/w", "/home/user"⟩, rootDir := "/w" }
    let src := "lambda x: x + old + a"
    ∃ body r, (checkCell src = .ok body ∧ (c.compile {} "old: object\n" src).1 = .ok r) ∧
      ∃ (found : List Reading) (met : List String),
        r.diagnostics = found.map Reading.undefined
          ++ (wildcards (importing body)).map wildcardDiagnostic ++ met.flatMap (c.told {}) ∧
        (∀ n, (∃ x ∈ found, x.name = n) ↔ (∃ p, Loads body p n) ∧ ¬ Binds body n ∧
          ¬ DeclaredIn "old: object\n" n ∧ n ∉ builtinNames ∧ n ∉ c.extraGlobals) ∧
        (found.map (·.name)).Nodup ∧
        (∀ x ∈ found, Loads body x.pos x.name ∧ ∀ p, Loads body p x.name → NotAfter x.pos p) ∧
        found.Pairwise fun x y => NotAfter x.pos y.pos := by
  intro c src
  have whole : (checkCell src).toOption.any (fun _ => true) = true := by decide +kernel
  have made : (c.compile {} "old: object\n" src).1.toOption.any (fun _ => true) = true := by decide +kernel
  obtain ⟨body, parsed, -⟩ := of_toOption_any whole
  obtain ⟨r, compiled, -⟩ := of_toOption_any made
  exact ⟨body, r, ⟨parsed, compiled⟩, names_checked parsed compiled⟩

end Compiler

end Notebook.Cell
