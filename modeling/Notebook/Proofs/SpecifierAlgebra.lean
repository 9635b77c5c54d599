import Notebook.Proofs.NormalPath

/-! Specifiers put together from leading dots and names: one more name leads one directory further down, the
prefixes lead down step by step, and what different names stand for is in different files. -/

set_option autoImplicit false

namespace Notebook.Path

open Notebook.Text

/-- A component that is a name without dots. -/
structure Name (q : String) : Prop extends Plain q where
  full : q ≠ ""

theorem Name.proper {q : String} (h : Name q) : Proper q where
  slashless := h.slashless
  full := h.full
  here := fun same => h.dotless (same ▸ by decide)
  up := fun same => h.dotless (same ▸ by decide)

theorem isAbsolute_join {p : String} (rooted : isAbsolute p = true) (qs : List String) :
    isAbsolute (join p qs) = true := by
  induction qs generalizing p with
  | nil => exact rooted
  | cons q qs ih => exact ih (isAbsolute_append rooted q)

theorem normalize_rooted {p : String} (rooted : isAbsolute p = true) :
    normalize p = spell (leadingSlashes p) (resolved true (components p)) := by
  rcases leadingSlashes_absolute rooted with slashes | slashes <;> rw [normalize_eq, slashes] <;> rfl

variable {n : Nat} {cs ds : List String}

theorem spell_injective (pos : 0 < n) (h : ∀ c ∈ cs, Proper c) (h' : ∀ d ∈ ds, Proper d)
    (same : spell n cs = spell n ds) : cs = ds := by
  rw [← resolved_spell pos h true, same, resolved_spell pos h']

theorem append_spell (pos : 0 < n) (h : ∀ c ∈ cs, Proper c) {q : String} (relative : isAbsolute q = false) :
    append (spell n cs) q = spell n (cs ++ [q]) := by
  rcases List.eq_nil_or_concat cs with rfl | ⟨before, c, rfl⟩
  · have chars := toList_spell pos []
    have slash : (spell n []).endsWith "/" = true := by
      rw [endsWith_iff, chars, ← Nat.sub_add_cancel pos, List.replicate_succ']
      simp [joinWith]
    unfold append
    rw [relative, if_neg Bool.false_ne_true, slash, Bool.or_true, if_pos rfl, ← String.toList_inj,
      String.toList_append, chars, toList_spell pos]
    simp [joinWith]
  · rw [List.concat_eq_append] at h ⊢
    have last := h c (by simp)
    have text : joinWith "/" (before ++ [c]) ≠ "" := by
      cases before with
      | nil => exact last.full
      | cons b bs =>
        rw [joinWith_concat (List.cons_ne_nil b bs)]
        simp [last.full]
    have name : fileName (spell n (before ++ [c])) ≠ "" := by
      rw [fileName_spell last.full last.slashless]
      exact last.full
    rw [append_below name relative, spell_concat q n (by simp) text]

theorem append_text {q t : String} (p : String) (relative : isAbsolute q = false)
    (relative' : isAbsolute (q ++ t) = false) : append p (q ++ t) = append p q ++ t := by
  unfold append
  rw [relative, relative', if_neg Bool.false_ne_true, if_neg Bool.false_ne_true]
  split <;> simp only [String.append_assoc]

/-- A name below the normal form of a directory is the normal form of the name below the directory. -/
theorem normalize_append {p q : String} (rooted : isAbsolute p = true) (name : Name q) :
    normalize (append p q) = append (normalize p) q := by
  have two := leadingSlashes_absolute rooted
  have single : ∀ r ∈ [q], Plain r := by simpa using name.toPlain
  have one : normalize (append p q) = spell (leadingSlashes p)
      (resolved (leadingSlashes p != 0) (components p) ++ [q].filter (· != "")) :=
    normalize_join single p
  have some_ : (leadingSlashes p != 0) = true := by rcases two with slashes | slashes <;> rw [slashes] <;> rfl
  rw [one, normalize_rooted rooted, some_,
    append_spell (by omega) (resolved_rooted p) (isAbsolute_plain name.toPlain)]
  simp [name.full]

end Notebook.Path

namespace Notebook.Module.Specifier

open Notebook.Text Notebook.Path

/-- Names with dots between them after leading dots. -/
def dotted (k : Nat) (ps : List String) : String := dots k ++ joinWith "." ps

section

variable {k : Nat} {ps qs : List String} {n d : String}

theorem head?_names (names : ∀ p ∈ ps, Name p) : (joinWith "." ps).toList.head? ≠ some '.' := by
  cases ps with
  | nil => simp [joinWith]
  | cons p ps =>
    have name := names p List.mem_cons_self
    rw [head?_joinWith ps name.full]
    exact fun dot => name.dotless (List.mem_of_mem_head? dot)

theorem isPath_dotted (names : ∀ p ∈ ps, Name p) : isPath (dotted k ps) = false := by
  rw [isPath_eq_false, dotted, String.toList_append]
  exact (slashless_dots k).append (slashless_joinWith fun p member => (names p member).slashless)

theorem stem_dotted (names : ∀ p ∈ ps, Name p) : stem (dotted k ps) = joinWith "." ps :=
  stem_dots k (head?_names names)

theorem level_dotted (names : ∀ p ∈ ps, Name p) : level (dotted k ps) = k :=
  level_dots k (head?_names names)

theorem joinWith_names (names : ∀ p ∈ ps, Name p) (full : ps ≠ []) :
    parts (joinWith "." ps) = ps ∧ joinWith "." ps ≠ "" := by
  refine ⟨dottedParts_joinWith full fun p member => (names p member).dotless, fun none => ?_⟩
  obtain ⟨p, rest, rfl⟩ := List.exists_cons_of_ne_nil full
  have name := (names p List.mem_cons_self).full
  have start := head?_joinWith rest name
  rw [none] at start
  exact name (String.toList_eq_nil_iff.mp (List.head?_eq_none_iff.mp start.symm))

theorem isOnlyDots_dotted (names : ∀ p ∈ ps, Name p) : isOnlyDots (dotted k ps) = ps.isEmpty := by
  cases ps with
  | nil => simp [isOnlyDots, dotted, dots, joinWith]
  | cons p ps =>
    have name := names p List.mem_cons_self
    obtain ⟨c, cs, chars⟩ := List.exists_cons_of_ne_nil (mt String.toList_eq_nil_iff.mp name.full)
    have first := head?_joinWith ps name.full
    rw [chars, List.head?_cons] at first
    have inside := List.mem_of_mem_head? first
    have other : c ≠ '.' := fun same => name.dotless (by simp [chars, same])
    simp only [isOnlyDots, dotted, String.toList_append, List.all_append, List.isEmpty_cons,
      Bool.and_eq_false_iff, List.all_eq_false]
    exact .inr ⟨c, inside, by simpa using other⟩

theorem join_dotted (names : ∀ p ∈ ps, Name p) : join (dotted k ps) n = dotted k (ps ++ [n]) := by
  unfold join
  rw [isOnlyDots_dotted names]
  cases ps with
  | nil => simp [dotted, joinWith]
  | cons p ps =>
    rw [List.isEmpty_cons, if_neg Bool.false_ne_true, dotted, dotted, joinWith_concat (List.cons_ne_nil p ps)]
    simp only [String.append_assoc]

theorem toPath_dotted (names : ∀ p ∈ ps, Name p) :
    toPath (dotted k ps) d = normalize (Path.join d (List.replicate (k - 1) ".." ++ ps)) := by
  unfold toPath
  rw [isPath_dotted names, if_neg Bool.false_ne_true, stem_dotted names, level_dotted names]
  by_cases full : ps = []
  · subst full
    simp [joinWith]
  · obtain ⟨parts_, some_⟩ := joinWith_names names full
    dsimp only
    rw [parts_, if_neg (by simpa using some_)]

theorem toPath_join (names : ∀ p ∈ ps, Name p) (name : Name n) (rooted : isAbsolute d = true) :
    toPath (join (dotted k ps) n) d = Path.append (toPath (dotted k ps) d) n := by
  have all : ∀ p ∈ ps ++ [n], Name p := by simpa [or_imp, forall_and] using ⟨names, name⟩
  rw [join_dotted names, toPath_dotted all, toPath_dotted names,
    ← normalize_append (isAbsolute_join rooted _) name, ← List.append_assoc, Path.join, List.foldl_append]
  rfl

/-! Prefixes. -/

theorem length_initials (xs : List String) : (initials xs).length = xs.length := by
  induction xs with
  | nil => rfl
  | cons x xs ih => simp [initials, ih]

theorem getElem?_initials (xs : List String) (i : Nat) :
    (initials xs)[i]? = if i < xs.length then some (xs.take (i + 1)) else none := by
  induction xs generalizing i with
  | nil => simp [initials]
  | cons x xs ih =>
    cases i with
    | zero => simp [initials]
    | succ i => simp [initials, ih]

theorem prefixes_dotted (names : ∀ p ∈ ps, Name p) (full : ps ≠ []) :
    prefixes (dotted k ps) = (initials ps).map (dotted k) := by
  obtain ⟨parts_, some_⟩ := joinWith_names names full
  unfold prefixes
  rw [stem_dotted names, level_dotted names, isPath_dotted names]
  dsimp only
  rw [parts_, Bool.or_false, if_neg (by simpa using some_)]
  rfl

theorem getElem?_prefixes (names : ∀ p ∈ ps, Name p) {i : Nat} {p : String} (here : ps[i]? = some p) :
    (dots k :: prefixes (dotted k ps))[i]? = some (dotted k (ps.take i)) ∧
      (prefixes (dotted k ps))[i]? = some (join (dotted k (ps.take i)) p) := by
  obtain ⟨inside, same⟩ := List.getElem?_eq_some_iff.mp here
  have before : ∀ q ∈ ps.take i, Name q := fun q member => names q (List.mem_of_mem_take member)
  have next : ps.take i ++ [p] = ps.take (i + 1) := by rw [List.take_add_one, here]; rfl
  rw [prefixes_dotted names (List.ne_nil_of_length_pos (by omega)), join_dotted before, next]
  refine ⟨?_, by simp [getElem?_initials, inside]⟩
  cases i with
  | zero => simp [dotted, joinWith]
  | succ i => simp [getElem?_initials, show i < ps.length by omega]

/-! Files. -/

theorem proper_below (names : ∀ p ∈ ps, Name p) (d : String) :
    ∀ c ∈ resolved true (components d) ++ ps, Proper c := by
  intro c member
  exact (List.mem_append.mp member).elim (resolved_rooted d c) fun inside => (names c inside).proper

theorem toPath_names (names : ∀ p ∈ ps, Name p) (rooted : isAbsolute d = true) :
    toPath (dotted 0 ps) d = spell (leadingSlashes d) (resolved true (components d) ++ ps) := by
  have some_ : (leadingSlashes d != 0) = true := by
    rcases leadingSlashes_absolute rooted with slashes | slashes <;> rw [slashes] <;> rfl
  have all : ps.filter (· != "") = ps := List.filter_eq_self.mpr fun p member => by simpa using (names p member).full
  rw [toPath_dotted names, List.replicate, List.nil_append, normalize_join fun p member => (names p member).toPlain,
    some_, all]

theorem name_init : Name initName := ⟨⟨by decide, by decide⟩, by decide⟩

theorem mem_candidates_dotted (names : ∀ p ∈ ps, Name p) (full : ps ≠ []) (rooted : isAbsolute d = true)
    {ext p : String} : p ∈ candidates (dotted 0 ps) d ext ↔ ∃ more, (more = [] ∨ more = [initName]) ∧
      p = spell (leadingSlashes d) (resolved true (components d) ++ (ps ++ more)) ++ ext := by
  have two := leadingSlashes_absolute rooted
  have proper := proper_below names d
  have package : Path.append (spell (leadingSlashes d) (resolved true (components d) ++ ps)) (initName ++ ext)
      = spell (leadingSlashes d) (resolved true (components d) ++ (ps ++ [initName])) ++ ext := by
    have relative := isAbsolute_plain name_init.toPlain
    rw [append_text _ relative (Cache.isAbsolute_init ext), append_spell (by omega) proper relative, List.append_assoc]
  have apart : ps.isEmpty = false := by simpa using full
  unfold candidates
  rw [isPath_dotted names, isOnlyDots_dotted names, apart, toPath_names names rooted]
  simp [package, or_and_right, exists_or]

/-- Different names are never in the same file, unless one of them names the file of a package. -/
theorem candidates_disjoint (names : ∀ p ∈ ps, Name p) (full : ps ≠ []) (plain : initName ∉ ps)
    (names' : ∀ q ∈ qs, Name q) (full' : qs ≠ []) (plain' : initName ∉ qs) (other : ps ≠ qs)
    (rooted : isAbsolute d = true) {ext p : String} (here : p ∈ candidates (dotted 0 ps) d ext) :
    p ∉ candidates (dotted 0 qs) d ext := by
  intro there
  obtain ⟨as, package, rfl⟩ := (mem_candidates_dotted names full rooted).mp here
  obtain ⟨bs, package', same⟩ := (mem_candidates_dotted names' full' rooted).mp there
  have pos : 0 < leadingSlashes d := by have := leadingSlashes_absolute rooted; omega
  have proper {rs more : List String} (h : ∀ r ∈ rs, Name r) (package : more = [] ∨ more = [initName]) :
      ∀ c ∈ resolved true (components d) ++ (rs ++ more), Proper c := by
    refine proper_below (fun r member => (List.mem_append.mp member).elim (h r) fun last => ?_) d
    rcases package with rfl | rfl
    · cases last
    · exact List.mem_singleton.mp last ▸ name_init
  have chars := same
  rw [← String.toList_inj, String.toList_append, String.toList_append] at chars
  have whole := spell_injective pos (proper names package) (proper names' package')
    (String.toList_inj.mp (List.append_cancel_right chars))
  have parted := List.append_cancel_left whole
  rcases package with rfl | rfl <;> rcases package' with rfl | rfl
  · exact other (by simpa using parted)
  · exact plain (by simp [show ps = qs ++ [initName] by simpa using parted])
  · exact plain' (by simp [show qs = ps ++ [initName] by simpa using parted.symm])
  · exact other (List.append_cancel_right parted)

/-- One more name leads one directory further down, the prefixes lead to a specifier name by name, and
different names below a directory are in different files. -/
theorem specifier_algebra (k : Nat) (names : ∀ p ∈ ps, Name p) (name : Name n) (rooted : isAbsolute d = true) :
    let s := dotted k ps
    toPath (join s n) d = normalize (Path.append (toPath s d) n) ∧
    (ps ≠ [] → (prefixes s).length = ps.length ∧ (prefixes s).getLast? = some s ∧
      ∀ (i : Nat) (p : String), ps[i]? = some p →
        ∃ q, (dots k :: prefixes s)[i]? = some q ∧ (prefixes s)[i]? = some (join q p) ∧
          toPath (join q p) d = Path.append (toPath q d) p) ∧
    (ps ≠ [] → initName ∉ ps →
      ∀ qs, (∀ q ∈ qs, Name q) → qs ≠ [] → initName ∉ qs → dotted 0 ps ≠ dotted 0 qs →
        ∀ ext, ∀ p ∈ candidates (dotted 0 ps) d ext, p ∉ candidates (dotted 0 qs) d ext) := by
  intro s
  refine ⟨?_, fun full => ⟨?_, ?_, fun i p here => ?_⟩, ?_⟩
  · have normal := normalize_absolute (isAbsolute_join rooted (List.replicate (k - 1) ".." ++ ps))
    rw [← toPath_dotted names] at normal
    rw [toPath_join names name rooted, normalize_append normal.1 name, normal.2]
  · rw [prefixes_dotted names full, List.length_map, length_initials]
  · obtain ⟨before, same⟩ := prefixes_self s
    simp [same]
  · obtain ⟨before, this⟩ := getElem?_prefixes (k := k) names here
    have outer : ∀ q ∈ ps.take i, Name q := fun q member => names q (List.mem_of_mem_take member)
    exact ⟨_, before, this, toPath_join outer (names p (List.mem_of_getElem? here)) rooted⟩
  · intro full plain qs names' full' plain' other ext p here
    exact candidates_disjoint names full plain names' full' plain' (fun same => other (same ▸ rfl)) rooted here

end

theorem specifier_algebra_climbing :
    let names := ["a", "b"]
    (∀ p ∈ names, Name p) ∧ Name "c" ∧ isAbsolute "/w" = true ∧ initName ∉ names ∧
      toPath (join (dotted 4 names) "c") "/w" = normalize (Path.append (toPath (dotted 4 names) "/w") "c") ∧
      ∀ p ∈ candidates (dotted 0 names) "/w" ".py", p ∉ candidates (dotted 0 ["a", "c"]) "/w" ".py" := by
  intro names
  have a : Name "a" := ⟨⟨by decide, by decide⟩, by decide⟩
  have b : Name "b" := ⟨⟨by decide, by decide⟩, by decide⟩
  have c : Name "c" := ⟨⟨by decide, by decide⟩, by decide⟩
  have all : ∀ p ∈ names, Name p := by simp [names, a, b]
  have rooted : isAbsolute "/w" = true := by rw [isAbsolute_iff]; exact ⟨['w'], rfl⟩
  obtain ⟨below, -, apart⟩ := specifier_algebra 4 all c rooted
  exact ⟨all, c, rooted, by decide, below,
    apart (by decide) (by decide) ["a", "c"] (by simp [a, c]) (by decide) (by decide) (by decide +kernel) ".py"⟩

end Notebook.Module.Specifier
