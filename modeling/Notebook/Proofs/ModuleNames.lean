import Notebook.Proofs.SpecifierAlgebra

/-! The name of a module at a path is read off the path: without its extension, which starts at the last dot,
and from the root directory on. It is the specifier that the path belongs to if the extension has no other dot. -/

set_option autoImplicit false

namespace Notebook.Text

theorem map_joinWith {ps : List String} (h : ∀ p ∈ ps, '/' ∉ p.toList) :
    (joinWith "/" ps).map (fun ch => if ch == '/' then '.' else ch) = joinWith "." ps := by
  have same (p : String) (slashless : '/' ∉ p.toList) :
      p.toList.map (fun ch => if ch == '/' then '.' else ch) = p.toList := by
    have keep : ∀ ch ∈ p.toList, (if ch == '/' then '.' else ch) = id ch := by
      intro ch member
      have other : ch ≠ '/' := fun slash => slashless (slash ▸ member)
      simp [other]
    rw [List.map_congr_left keep, List.map_id]
  rw [← String.toList_inj, String.toList_map]
  induction ps with
  | nil => rfl
  | cons p ps ih =>
    have first := same p (h p List.mem_cons_self)
    cases ps with
    | nil => exact first
    | cons q qs =>
      have later := ih fun r member => h r (List.mem_cons_of_mem _ member)
      simp only [joinWith, String.toList_append, List.map_append, first] at later ⊢
      rw [later]
      rfl

end Notebook.Text

namespace Notebook.Path

open Notebook.Text

variable {n : Nat} {cs : List String}

theorem filter_components_spell (pos : 0 < n) (proper : ∀ c ∈ cs, Proper c) :
    (components (spell n cs)).filter (· != "") = cs := by
  have full : cs.filter (· != "") = cs :=
    List.filter_eq_self.mpr fun c member => by simpa using (proper c member).full
  have empty : (List.replicate n "").filter (· != "") = [] := by
    rw [List.filter_eq_nil_iff]
    intro c member
    simp [List.eq_of_mem_replicate member]
  rw [components, toList_spell pos, splitAt_replicate, List.map_append, List.map_replicate, List.filter_append]
  refine Eq.trans (congrArg (· ++ _) empty) ?_
  by_cases none : cs = []
  · subst none
    decide
  · rw [List.nil_append, splitAt_joinWith rfl none fun c member => (proper c member).slashless, full]

theorem commonPrefix_append (as bs : List String) : commonPrefix as (as ++ bs) = as.length := by
  induction as with
  | nil => cases bs <;> rfl
  | cons a as ih => simp [commonPrefix, ih]

theorem relative_below (w : Places) {d : String} (rooted : isAbsolute d = true) {ps : List String} (full : ps ≠ [])
    (proper : ∀ p ∈ ps, Proper p) :
    relative w (spell (leadingSlashes d) (resolved true (components d) ++ ps)) d = joinWith "/" ps := by
  have two := leadingSlashes_absolute rooted
  have all : ∀ c ∈ resolved true (components d) ++ ps, Proper c := fun c member =>
    (List.mem_append.mp member).elim (resolved_rooted d c) (proper c)
  have below : isAbsolute (spell (leadingSlashes d) (resolved true (components d) ++ ps)) = true := by
    rw [isAbsolute_iff, toList_spell (by omega)]
    rcases two with slashes | slashes <;> rw [slashes] <;> exact ⟨_, rfl⟩
  unfold relative
  rw [absolute_absolute w rooted, absolute_absolute w below, normalize_spell two all, normalize_rooted rooted,
    filter_components_spell (by omega) (resolved_rooted d), filter_components_spell (by omega) all]
  dsimp only
  rw [commonPrefix_append, Nat.sub_self, List.replicate_zero, List.drop_left, List.nil_append]
  cases ps with
  | nil => exact absurd rfl full
  | cons p ps => rfl

theorem spell_last {q : String} (full : q ≠ "") (n : Nat) (cs : List String) :
    spell n (cs ++ [q]) = String.ofList (List.replicate n '/') ++ joinWith "/" (cs ++ [""]) ++ q := by
  have last : joinWith "/" (cs ++ [q]) = joinWith "/" (cs ++ [""]) ++ q := by
    cases cs with
    | nil => simp [joinWith]
    | cons c cs =>
      rw [joinWith_concat (List.cons_ne_nil c cs), joinWith_concat (List.cons_ne_nil c cs), String.append_empty]
  unfold spell
  dsimp only
  rw [last, if_neg (by simp [full]), String.append_assoc]

theorem spell_text {q : String} (full : q ≠ "") (n : Nat) (cs : List String) (t : String) :
    spell n (cs ++ [q]) ++ t = spell n (cs ++ [q ++ t]) := by
  rw [spell_last full, spell_last (q := q ++ t) (by simp [full])]
  simp only [String.append_assoc]

theorem splitExtension_spell {q : String} (name : Name q) (n : Nat) (cs : List String) {e : String} {x : List Char}
    (slashless : '/' ∉ e.toList) (slashless' : '/' ∉ x) (dotless : '.' ∉ x) :
    (splitExtension (spell n (cs ++ [q]) ++ (e ++ String.ofList ('.' :: x)))).1 = spell n (cs ++ [q]) ++ e := by
  have file : (fileName (spell n (cs ++ [q]) ++ (e ++ String.ofList ('.' :: x)))).toList
      = q.toList ++ (e.toList ++ '.' :: x) := by
    rw [fileName_append (by simp [slashless, slashless']), fileName_spell name.full name.slashless]
    simp
  obtain ⟨c, cs', chars⟩ := List.exists_cons_of_ne_nil (mt String.toList_eq_nil_iff.mp name.full)
  have visible : (c == '.') = false := by
    rw [beq_eq_false_iff_ne]
    rintro rfl
    exact name.dotless (by simp [chars])
  generalize shape : q.toList ++ (e.toList ++ '.' :: x) = whole at file
  have leads : whole.takeWhile (· == '.') = [] := by simp [← shape, chars, visible]
  have rest : whole.dropWhile (· == '.') = whole := by simp [← shape, chars, visible]
  have ending : whole.reverse.takeWhile (· != '.') = x.reverse := by
    have all : ∀ ch ∈ x.reverse, (ch != '.') = true := fun ch member => by
      rw [bne_iff_ne]
      exact fun dot => dotless (dot ▸ List.mem_reverse.mp member)
    simp [← shape, List.takeWhile_append_of_pos all]
  have stem : whole.take (whole.length - x.length - 1) = q.toList ++ e.toList := by
    rw [← shape, ← List.append_assoc]
    refine (List.take_append_of_le_length ?_).trans (List.take_of_length_le ?_) <;> simp <;> omega
  unfold splitExtension
  dsimp only
  rw [file, leads, rest, ending, if_pos (by simp [← shape]), List.reverse_reverse, stem, spell_last name.full]
  generalize String.ofList (List.replicate n '/') ++ joinWith "/" (cs ++ [""]) = dir
  have text : (dir ++ q ++ (e ++ String.ofList ('.' :: x))).toList = dir.toList ++ whole := by simp [← shape]
  have length : (dir ++ q ++ (e ++ String.ofList ('.' :: x))).length - whole.length = dir.toList.length := by
    rw [← String.length_toList, text, List.length_append, Nat.add_sub_cancel]
  rw [text, length, List.take_left, ← String.toList_inj]
  simp

theorem splitExtension_name {q : String} (name : Name q) (n : Nat) (cs : List String) :
    (splitExtension (spell n (cs ++ [q]))).1 = spell n (cs ++ [q]) := by
  have plain : (fileName (spell n (cs ++ [q]))) = q := fileName_spell name.full name.slashless n cs
  have none : ¬ (q.toList.dropWhile (· == '.')).contains '.' = true := by
    rw [List.contains_iff_mem]
    exact fun member => name.dotless ((List.dropWhile_suffix _).subset member)
  unfold splitExtension
  dsimp only
  rw [plain, if_neg none]

end Notebook.Path

namespace Notebook.Module

open Notebook.Text Notebook.Path Specifier

def stripInit (name : String) : String :=
  if name.endsWith ("." ++ initName) then
    String.ofList (name.toList.take (name.length - ("." ++ initName).length))
  else name

theorem stripInit_package (s : String) : stripInit (s ++ "." ++ initName) = s := by
  have chars : (s ++ "." ++ initName).toList = s.toList ++ ("." ++ initName).toList := by
    simp [String.toList_append]
  have ends : (s ++ "." ++ initName).endsWith ("." ++ initName) = true := by
    rw [endsWith_iff, chars]
    exact List.suffix_append _ _
  have length : (s ++ "." ++ initName).length - ("." ++ initName).length = s.toList.length := by
    rw [← String.length_toList, ← String.length_toList, chars, List.length_append, Nat.add_sub_cancel]
  rw [stripInit, if_pos ends, chars, length, List.take_left, String.ofList_toList]

theorem stripInit_names {ps : List String} (names : ∀ p ∈ ps, Name p) (full : ps ≠ []) (plain : initName ∉ ps) :
    stripInit (joinWith "." ps) = joinWith "." ps := by
  have open_ : ¬ (joinWith "." ps).endsWith ("." ++ initName) = true := by
    rw [endsWith_iff]
    rintro ⟨front, same⟩
    have whole : joinWith "." ps = String.ofList front ++ "." ++ initName := by
      rw [← String.toList_inj, ← same]
      simp [String.toList_append]
    have parts_ := (joinWith_names names full).1
    rw [whole, parts_inside _ (by decide)] at parts_
    exact plain (parts_ ▸ by simp)
  rw [stripInit, if_neg open_]

theorem length_le_stripInit (name : String) : name.length ≤ (stripInit name).length + ("." ++ initName).length := by
  unfold stripInit
  split
  · rw [String.length_ofList, List.length_take, String.length_toList]
    omega
  · omega

namespace Cache

variable {μ : Type} {c : Cache μ} {ps : List String}

theorem moduleName_eq (c : Cache μ) (path : String) : c.moduleName path = stripInit
    ((relative c.places (splitExtension path).1 c.rootDir).map fun ch => if ch == '/' then '.' else ch) := rfl

section

variable (rooted : isAbsolute c.rootDir = true)

/-- The directory or file of names below the root directory, without an extension. -/
def below (c : Cache μ) (ps : List String) : String :=
  spell (leadingSlashes c.rootDir) (resolved true (components c.rootDir) ++ ps)

include rooted

theorem moduleName_way {path : String} {qs : List String} (proper : ∀ q ∈ qs, Proper q) (full : qs ≠ [])
    (stem : (splitExtension path).1 = c.below qs) : c.moduleName path = stripInit (joinWith "." qs) := by
  rw [moduleName_eq, stem, below, relative_below c.places rooted full proper,
    map_joinWith fun q member => (proper q member).slashless]

/-- The name of the module in a file of names below the root directory: all of the extension but what
follows its last dot stays. -/
theorem moduleName_file (names : ∀ p ∈ ps, Name p) (full : ps ≠ []) {e : String} {x : List Char}
    (slashless : '/' ∉ e.toList) (slashless' : '/' ∉ x) (dotless : '.' ∉ x) :
    c.moduleName (c.below ps ++ (e ++ String.ofList ('.' :: x))) = stripInit (joinWith "." ps ++ e) := by
  obtain ⟨before, q, rfl⟩ := (List.eq_nil_or_concat ps).resolve_left full
  rw [List.concat_eq_append] at *
  have name := names q (by simp)
  have last : Proper (q ++ e) := by
    obtain ⟨c, cs, chars⟩ := List.exists_cons_of_ne_nil (mt String.toList_eq_nil_iff.mp name.full)
    have visible : c ≠ '.' := fun dot => name.dotless (by simp [chars, dot])
    have start : (q ++ e).toList = c :: (cs ++ e.toList) := by simp [chars]
    refine ⟨by simp [name.slashless, slashless], by simp [name.full], fun same => ?_, fun same => ?_⟩ <;>
      · rw [same] at start
        exact visible (List.cons.inj start).1.symm
  have stem : (splitExtension (c.below (before ++ [q]) ++ (e ++ String.ofList ('.' :: x)))).1
      = c.below (before ++ [q ++ e]) := by
    rw [below, ← List.append_assoc, splitExtension_spell name _ _ slashless slashless' dotless, below,
      ← List.append_assoc, spell_text name.full]
  have text : joinWith "." (before ++ [q]) ++ e = joinWith "." (before ++ [q ++ e]) := by
    cases before with
    | nil => rfl
    | cons b bs =>
      rw [joinWith_concat (List.cons_ne_nil b bs), joinWith_concat (List.cons_ne_nil b bs), String.append_assoc]
  rw [text]
  refine moduleName_way rooted (fun r member => ?_) (by simp) stem
  rcases List.mem_append.mp member with inside | member
  · exact (names r (by simp [inside])).proper
  · exact List.mem_singleton.mp member ▸ last

theorem moduleName_directory (names : ∀ p ∈ ps, Name p) (full : ps ≠ []) :
    c.moduleName (c.below ps) = stripInit (joinWith "." ps) := by
  obtain ⟨before, q, rfl⟩ := (List.eq_nil_or_concat ps).resolve_left full
  rw [List.concat_eq_append] at *
  refine moduleName_way rooted (fun r member => (names r member).proper) full ?_
  rw [below, ← List.append_assoc, splitExtension_name (names q (by simp))]

omit rooted in
theorem lastDot {t : String} (start : t.startsWith "." = true) :
    ∃ e x, t = e ++ String.ofList ('.' :: x) ∧ '.' ∉ x ∧ (e = "" ↔ '.' ∉ t.toList.tail) := by
  obtain ⟨rest, chars⟩ := String.startsWith_string_iff.mp start
  have member : '.' ∈ t.toList.reverse := by rw [← chars]; simp
  obtain ⟨as, bs, split, dotless⟩ := List.eq_append_cons_of_mem member
  have whole : t.toList = bs.reverse ++ '.' :: as.reverse := by
    rw [← List.reverse_reverse t.toList, split]
    simp
  refine ⟨String.ofList bs.reverse, as.reverse, ?_, by simpa using dotless, ?_⟩
  · rw [← String.toList_inj, String.toList_append, whole]
    simp
  · rw [whole]
    cases shape : bs.reverse with
    | nil => simp [dotless]
    | cons b before => simp [← String.toList_inj]

theorem moduleName_package (names : ∀ p ∈ ps, Name p) (full : ps ≠ []) {e : String} {x : List Char}
    (slashless : '/' ∉ e.toList) (slashless' : '/' ∉ x) (dotless : '.' ∉ x)
    (named : c.moduleName (c.below (ps ++ [initName]) ++ (e ++ String.ofList ('.' :: x))) = joinWith "." ps) :
    e = "" := by
  have all : ∀ p ∈ ps ++ [initName], Name p := by simpa [or_imp, forall_and] using ⟨names, name_init⟩
  rw [moduleName_file rooted all (by simp) slashless slashless' dotless] at named
  have long := length_le_stripInit (joinWith "." (ps ++ [initName]) ++ e)
  rw [named, joinWith_concat full] at long
  simp only [String.length_append] at long
  exact String.length_eq_zero_iff.mp (by omega)

/-- The modules of a specifier are named after it wherever they are, exactly if the extension has no dot but
its first, and so is the package that its directory makes, in any case. -/
theorem moduleName_candidates (names : ∀ p ∈ ps, Name p) (full : ps ≠ []) (plain : initName ∉ ps)
    (dotted_ : c.extension.startsWith "." = true) (slashless : '/' ∉ c.extension.toList) :
    ((∀ p ∈ candidates (dotted 0 ps) c.rootDir c.extension, c.moduleName p = dotted 0 ps) ↔
      '.' ∉ c.extension.toList.tail) ∧
    c.moduleName (toPath (dotted 0 ps) c.rootDir) = dotted 0 ps := by
  have text : dotted 0 ps = joinWith "." ps := by simp [dotted, dots]
  obtain ⟨e, x, parted, dotless, single⟩ := lastDot dotted_
  rw [parted] at slashless
  have slashless' : '/' ∉ e.toList ∧ '/' ∉ x := by simpa [not_or] using slashless
  refine ⟨⟨fun named => single.mp ?_, fun alone p member => ?_⟩, ?_⟩
  · refine moduleName_package rooted names full slashless'.1 slashless'.2 dotless ?_
    rw [← text, ← parted]
    refine named _ ((mem_candidates_dotted names full rooted).mpr ⟨[initName], .inr rfl, rfl⟩)
  · obtain rfl := single.mpr alone
    obtain ⟨more, package, rfl⟩ := (mem_candidates_dotted names full rooted).mp member
    rw [parted, text]
    rcases package with rfl | rfl
    · rw [List.append_nil]
      refine (moduleName_file rooted names full slashless'.1 slashless'.2 dotless).trans ?_
      rw [String.append_empty, stripInit_names names full plain]
    · have all : ∀ p ∈ ps ++ [initName], Name p := by simpa [or_imp, forall_and] using ⟨names, name_init⟩
      refine (moduleName_file rooted all (by simp) slashless'.1 slashless'.2 dotless).trans ?_
      rw [String.append_empty, joinWith_concat full, stripInit_package]
  · rw [toPath_names names rooted, text]
    exact (moduleName_directory rooted names full).trans (stripInit_names names full plain)

end

/-- No modules yet, below `/w`, with an extension. -/
def empty (extension : String) : Cache Unit := { places := ⟨"/w", "/w"⟩, rootDir := "/w", extension }

theorem moduleName_candidates_nested :
    let c := empty ".py"
    let names := ["a", "b"]
    isAbsolute c.rootDir = true ∧ (∀ p ∈ names, Name p) ∧ c.extension.startsWith "." = true ∧
      (∀ p ∈ candidates (dotted 0 names) c.rootDir c.extension, c.moduleName p = dotted 0 names) ∧
      c.moduleName (toPath (dotted 0 names) c.rootDir) = dotted 0 names := by
  intro c names
  have rooted : isAbsolute "/w" = true := isAbsolute_iff.mpr ⟨['w'], rfl⟩
  have all : ∀ p ∈ names, Name p := by
    have a : Name "a" := ⟨⟨by decide, by decide⟩, by decide⟩
    have b : Name "b" := ⟨⟨by decide, by decide⟩, by decide⟩
    simp [names, a, b]
  have dotted_ : ".py".startsWith "." = true := String.startsWith_string_iff.mpr ⟨['p', 'y'], rfl⟩
  obtain ⟨files, directory⟩ :=
    moduleName_candidates (c := c) rooted all (List.cons_ne_nil _ _) (by decide) dotted_ (by decide)
  exact ⟨rooted, all, dotted_, files.mpr (by decide), directory⟩

/-- With two dots in the extension a module is named after more than its specifier. -/
theorem not_named_two_dots :
    candidates "a" "/w" ".cell.py" = ["/w/a.cell.py", "/w/a/__init__.cell.py"] ∧
      (empty ".cell.py").moduleName "/w/a.cell.py" = "a.cell" ∧
      (empty ".cell.py").moduleName "/w/a/__init__.cell.py" = "a.__init__.cell" := by
  decide +kernel

end Cache

end Notebook.Module
