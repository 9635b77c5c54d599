import Notebook.Proofs.Dotted
import Notebook.Proofs.Resolution

/-! Packages around modules: the path of a submodule lies below that of its package, so a package is found
wherever a module in it is. -/

set_option autoImplicit false

namespace Notebook.Text

variable {sep : Char}

theorem splitAt_concat (xs ys : List Char) :
    splitAt sep (xs ++ sep :: ys) = splitAt sep xs ++ splitAt sep ys := by
  induction xs with
  | nil => simp [splitAt]
  | cons c cs ih =>
    rw [List.cons_append, splitAt, splitAt]
    split
    · rw [ih, List.cons_append]
    · cases rest : splitAt sep cs with
      | nil => exact absurd rest (splitAt_ne_nil sep cs)
      | cons p ps =>
        rw [ih, rest]
        rfl

theorem joinWith_concat {sep : String} {ps : List String} (full : ps ≠ []) (p : String) :
    joinWith sep (ps ++ [p]) = joinWith sep ps ++ sep ++ p := by
  induction ps with
  | nil => exact absurd rfl full
  | cons q qs ih =>
    cases qs with
    | nil => rfl
    | cons r rs =>
      rw [List.cons_append, List.cons_append, joinWith, ← List.cons_append, ih (List.cons_ne_nil r rs),
        joinWith]
      simp only [String.append_assoc]

end Notebook.Text

namespace Notebook.Path

open Notebook.Text

/-! Normal paths: some slashes, then components. -/

def spell (slashes : Nat) (cs : List String) : String :=
  let s := String.ofList (List.replicate slashes '/') ++ joinWith "/" cs
  if s == "" then "." else s

theorem normalize_eq (p : String) :
    normalize p = spell (leadingSlashes p) (resolved (leadingSlashes p != 0) (components p)) := rfl

/-- Whether a text can be a component that stands for itself. -/
structure Plain (q : String) : Prop where
  slashless : '/' ∉ q.toList
  dotless : '.' ∉ q.toList

theorem climb_plain {q : String} (h : Plain q) (rooted : Bool) (done : List String) :
    climb rooted done q = if q = "" then done else q :: done := by
  have dot : q ≠ "." := fun e => h.dotless (e ▸ by decide)
  have dots : q ≠ ".." := fun e => h.dotless (e ▸ by decide)
  unfold climb
  by_cases none : q = "" <;> simp [none, dot, dots]

theorem isAbsolute_plain {q : String} (h : Plain q) : isAbsolute q = false := by
  rw [isAbsolute, String.startsWith_string_eq_false_iff]
  intro start
  exact h.slashless (start.subset (by decide))

theorem endsWith_iff {p t : String} : p.endsWith t = true ↔ t.toList <:+ p.toList := by
  change p.toSlice.endsWith t = true ↔ _
  rw [String.Slice.endsWith_string_iff, String.copy_toSlice]

theorem components_plain {q : String} (h : Plain q) : components q = [q] := by
  rw [components, splitAt_plain h.slashless, List.map_singleton, String.ofList_toList]

theorem foldl_append {q : String} (h : Plain q) (p : String) (rooted : Bool) :
    (components (append p q)).foldl (climb rooted) []
      = climb rooted ((components p).foldl (climb rooted) []) q := by
  have split (cs : List Char) : (splitAt '/' (cs ++ '/' :: q.toList)).map String.ofList
      = (splitAt '/' cs).map String.ofList ++ [q] := by
    have last := components_plain h
    rw [components] at last
    rw [splitAt_concat, List.map_append, last]
  unfold append
  rw [isAbsolute_plain h, if_neg Bool.false_ne_true]
  by_cases none : p = ""
  · subst none
    rw [if_pos (by simp), String.empty_append, components_plain h]
    rfl
  by_cases slash : p.endsWith "/" = true
  · obtain ⟨cs, chars⟩ := endsWith_iff.mp slash
    have chars : p.toList = cs ++ '/' :: [] := chars.symm
    have whole : (p ++ q).toList = cs ++ '/' :: q.toList := by
      rw [String.toList_append, chars, List.append_assoc]
      rfl
    rw [if_pos (by simp [slash]), components, whole, split, components, chars, splitAt_concat]
    simp [splitAt, climb]
  · have whole : (p ++ "/" ++ q).toList = p.toList ++ '/' :: q.toList := by
      rw [String.toList_append, String.toList_append, List.append_assoc]
      rfl
    rw [if_neg (by simp [none, slash]), components, whole, split, components, List.foldl_append]
    rfl

theorem leadingSlashes_eq (p : String) :
    leadingSlashes p = match (p.toList.takeWhile (· == '/')).length with
      | 0 => 0
      | 2 => 2
      | _ => 1 := by
  unfold leadingSlashes
  generalize p.toList = cs
  split
  next => simp
  next cs other =>
    cases cs with
    | nil => rfl
    | cons c cs =>
      have stop : (c == '/') = false := beq_eq_false_iff_ne.mpr fun same => other cs (same ▸ rfl)
      simp [stop]
  next cs _ other =>
    cases cs with
    | nil => rfl
    | cons c cs =>
      have stop : (c == '/') = false := beq_eq_false_iff_ne.mpr fun same => other cs (same ▸ rfl)
      simp [stop]
  next other =>
    cases cs with
    | nil => rfl
    | cons c cs =>
      have stop : (c == '/') = false := beq_eq_false_iff_ne.mpr fun same => other cs (same ▸ rfl)
      simp [stop]

theorem leadingSlashes_append {p q : String} (h : '/' ∉ q.toList ∨ ∃ c ∈ p.toList, c ≠ '/') :
    leadingSlashes (p ++ q) = leadingSlashes p := by
  have same : (p.toList ++ q.toList).takeWhile (· == '/') = p.toList.takeWhile (· == '/') := by
    rw [List.takeWhile_append]
    split
    next all =>
      -- All of the first text are slashes, so none follow.
      have whole := (List.takeWhile_prefix (· == '/')).eq_of_length all
      rcases h with slashless | ⟨c, hc, other⟩
      · cases chars : q.toList with
        | nil => rw [List.takeWhile_nil, List.append_nil, whole]
        | cons d ds =>
          have stop : (d == '/') = false :=
            beq_eq_false_iff_ne.mpr fun same => slashless (by simp [chars, same])
          rw [List.takeWhile_cons_of_neg (by simp [stop]), List.append_nil, whole]
      · rw [← whole] at hc
        have slash := List.all_eq_true.mp List.all_takeWhile c hc
        exact absurd (beq_iff_eq.mp slash) other
    next => rfl
  rw [leadingSlashes_eq, leadingSlashes_eq, String.toList_append, same]

theorem leadingSlashes_component {q : String} (h : Plain q) (p : String) :
    leadingSlashes (append p q) = leadingSlashes p := by
  unfold append
  rw [isAbsolute_plain h, if_neg Bool.false_ne_true]
  split
  · exact leadingSlashes_append (.inl h.slashless)
  next other =>
    simp only [Bool.or_eq_true, beq_iff_eq, not_or, Bool.not_eq_true] at other
    have full : p.toList ≠ [] := fun none => other.1 (String.toList_eq_nil_iff.mp none)
    -- The path ends with another character than a slash.
    have last : p.toList.getLast full ≠ '/' := by
      intro slash
      have ends : p.endsWith "/" = true := by
        rw [endsWith_iff, ← List.dropLast_concat_getLast full, slash]
        exact List.suffix_append _ _
      exact Bool.false_ne_true (other.2.symm.trans ends)
    rw [leadingSlashes_append (.inl h.slashless)]
    exact leadingSlashes_append (.inr ⟨_, List.getLast_mem full, last⟩)

theorem foldl_join {qs : List String} (h : ∀ q ∈ qs, Plain q) (p : String) (rooted : Bool) :
    leadingSlashes (join p qs) = leadingSlashes p ∧
    (components (join p qs)).foldl (climb rooted) []
      = (qs.filter (· != "")).reverse ++ (components p).foldl (climb rooted) [] := by
  induction qs generalizing p with
  | nil => exact ⟨rfl, rfl⟩
  | cons q qs ih =>
    have plain := h q List.mem_cons_self
    obtain ⟨lead, done⟩ := ih (fun q hq => h q (List.mem_cons_of_mem _ hq)) (append p q)
    refine ⟨lead.trans (leadingSlashes_component plain p), done.trans ?_⟩
    rw [foldl_append plain, climb_plain plain]
    by_cases none : q = ""
    · simp [none]
    · simp [none]

theorem normalize_join {qs : List String} (h : ∀ q ∈ qs, Plain q) (p : String) :
    normalize (join p qs) = spell (leadingSlashes p)
      (resolved (leadingSlashes p != 0) (components p) ++ qs.filter (· != "")) := by
  obtain ⟨lead, done⟩ := foldl_join h p (leadingSlashes p != 0)
  rw [normalize_eq, lead, resolved, done]
  simp [resolved]

theorem spell_concat (q : String) (n : Nat) {cs : List String} (full : cs ≠ [])
    (whole : joinWith "/" cs ≠ "") : spell n (cs ++ [q]) = spell n cs ++ "/" ++ q := by
  have some (s : String) (h : s ≠ "") : spell n [s] = String.ofList (List.replicate n '/') ++ s := by
    simp [spell, joinWith, h]
  have shorter : spell n cs = spell n [joinWith "/" cs] := rfl
  have longer : spell n (cs ++ [q]) = spell n [joinWith "/" cs ++ "/" ++ q] := by
    rw [← joinWith_concat full]
    rfl
  rw [shorter, longer, some _ whole, some _ (by simp [whole])]
  simp only [String.append_assoc]

end Notebook.Path

namespace Notebook.Module.Specifier

open Notebook.Text

theorem plain_parts {s q : String} (slashless : isPath s = false) (h : q ∈ parts s) : Path.Plain q :=
  ⟨slashless_parts (isPath_eq_false.mp slashless) h, parts_dotless h⟩

theorem stem_subset {s : String} : ∀ c ∈ (stem s).toList, c ∈ s.toList := by
  intro c hc
  rw [stem, String.toList_ofList] at hc
  exact (List.dropWhile_suffix _).subset hc

theorem isPath_stem {s : String} (slashless : isPath s = false) : isPath (stem s) = false :=
  isPath_eq_false.mpr ((isPath_eq_false.mp slashless).of_subset stem_subset)

def top (s dir : String) : String := Path.join dir (List.replicate (level s - 1) "..")

theorem toPath_eq {s : String} (slashless : isPath s = false) (dir : String) :
    toPath s dir = Path.spell (Path.leadingSlashes (top s dir))
      (Path.resolved (Path.leadingSlashes (top s dir) != 0) (Path.components (top s dir))
        ++ (parts (stem s)).filter (· != "")) := by
  have plain (q : String) (h : q ∈ parts (stem s)) : Path.Plain q :=
    plain_parts (isPath_stem slashless) h
  rw [← Path.normalize_join plain]
  unfold toPath top
  rw [slashless, if_neg Bool.false_ne_true]
  dsimp only
  split
  next none =>
    have empty : (parts (stem s)).filter (· != "") = [] := by
      rw [beq_iff_eq.mp none]
      decide
    rw [List.append_nil, Path.normalize_join plain, empty, List.append_nil, Path.normalize_eq]
  next => rw [Path.join, Path.join, Path.join, List.foldl_append]

/-! A specifier in another: the dots and parts of the package, and one more part. -/

section Inside

variable {h l : String}

theorem dropWhile_dots {xs : List Char} (named : xs.all (· == '.') = false) (ys : List Char) :
    (xs ++ ys).takeWhile (· == '.') = xs.takeWhile (· == '.') ∧
      (xs ++ ys).dropWhile (· == '.') = xs.dropWhile (· == '.') ++ ys := by
  induction xs with
  | nil => cases named
  | cons x xs ih =>
    by_cases dot : x = '.'
    · have rest : xs.all (· == '.') = false := by simpa [dot] using named
      simp [dot, ih rest]
    · simp [dot]

theorem level_append (named : isOnlyDots h = false) (t : String) : level (h ++ t) = level h := by
  rw [level, String.toList_append, (dropWhile_dots named t.toList).1, level]

theorem stem_append (named : isOnlyDots h = false) (t : String) : stem (h ++ t) = stem h ++ t := by
  rw [stem, String.toList_append, (dropWhile_dots named t.toList).2, String.ofList_append,
    String.ofList_toList, stem]

theorem parts_inside (h : String) (dotless : '.' ∉ l.toList) : parts (h ++ "." ++ l) = parts h ++ [l] := by
  have chars : (h ++ "." ++ l).toList = h.toList ++ '.' :: l.toList := by
    rw [String.toList_append, String.toList_append, List.append_assoc]
    rfl
  rw [parts, dottedParts, chars, splitAt_concat, splitAt_plain dotless]
  simp [parts, dottedParts]

theorem stem_ne_empty (named : isOnlyDots h = false) : stem h ≠ "" := by
  intro none
  have all : h.toList.dropWhile (· == '.') = [] := by
    have chars := congrArg String.toList none
    rwa [stem, String.toList_ofList] at chars
  have whole := List.takeWhile_append_dropWhile (p := (· == '.')) (l := h.toList)
  rw [all, List.append_nil] at whole
  rw [isOnlyDots, ← whole, List.all_takeWhile] at named
  cases named

theorem filter_parts_ne_nil (named : isOnlyDots h = false) :
    (parts (stem h)).filter (· != "") ≠ [] := by
  obtain ⟨p, ps, same⟩ := List.exists_cons_of_ne_nil (parts_ne_nil (stem h))
  have first : p ≠ "" := head?_parts (stem_ne_empty named) (stem_head h) (by rw [same]; rfl)
  simp [same, first]

theorem isPath_left (slashless : isPath (h ++ "." ++ l) = false) : isPath h = false := by
  rw [isPath_eq_false] at slashless ⊢
  refine slashless.of_subset fun c hc => ?_
  rw [String.append_assoc, String.toList_append]
  exact List.mem_append_left _ hc

/-- The path of a specifier in another lies below the path of that, or is the same if it has no name. -/
theorem toPath_inside (slashless : isPath (h ++ "." ++ l) = false) (named : isOnlyDots h = false)
    (dotless : '.' ∉ l.toList) (dir : String) :
    toPath (h ++ "." ++ l) dir = if l = "" then toPath h dir else toPath h dir ++ "/" ++ l := by
  have top' : top (h ++ "." ++ l) dir = top h dir := by
    rw [top, String.append_assoc, level_append named, top]
  have stem' : stem (h ++ "." ++ l) = stem h ++ "." ++ l := by
    rw [String.append_assoc, stem_append named, String.append_assoc]
  rw [toPath_eq slashless, toPath_eq (isPath_left slashless), top', stem', parts_inside _ dotless,
    List.filter_append]
  split
  next none => simp [none]
  next full =>
    have some := filter_parts_ne_nil named
    have last : [l].filter (· != "") = [l] := by simp [full]
    rw [last, ← List.append_assoc]
    refine Path.spell_concat l _ (by simp [some]) ?_
    -- The last component of the package has a name.
    obtain ⟨before, p, split⟩ := (List.eq_nil_or_concat _).resolve_left some
    have inside : p ∈ (parts (stem h)).filter (· != "") := by simp [split]
    have full : p ≠ "" := by simpa using (List.mem_filter.mp inside).2
    rw [split, List.concat_eq_append, ← List.append_assoc]
    generalize Path.resolved _ _ ++ before = cs
    cases cs with
    | nil => exact full
    | cons c cs =>
      rw [joinWith_concat (List.cons_ne_nil c cs)]
      simp [full]

theorem isOnlyDots_inside (named : isOnlyDots h = false) : isOnlyDots (h ++ "." ++ l) = false := by
  unfold isOnlyDots at named ⊢
  simp [String.toList_append, List.all_append, named]

theorem parent_append {s : String} (named : isOnlyDots (parent s) = false) :
    s = parent s ++ "." ++ last s ∧ '.' ∉ (last s).toList := by
  obtain ⟨before, l, split⟩ := (List.eq_nil_or_concat _).resolve_left (parts_ne_nil s)
  rw [List.concat_eq_append] at split
  have last' : last s = l := by rw [last, split, List.getLastD_concat]
  have dotless : '.' ∉ l.toList := parts_dotless (show l ∈ parts s by simp [split])
  have parent' : parent s = joinWith "." before := by
    rw [parent, split, List.dropLast_concat]
    cases before <;> rfl
  have full : before ≠ [] := by
    rintro rfl
    rw [parent'] at named
    cases named
  refine ⟨?_, last' ▸ dotless⟩
  rw [parent', last', ← joinWith_concat full, ← split]
  exact (joinWith_dottedParts s).symm

theorem parent_inside (h : String) (dotless : '.' ∉ l.toList) :
    parent (h ++ "." ++ l) = h ∧ last (h ++ "." ++ l) = l := by
  have whole : joinWith "." (parts h) = h := joinWith_dottedParts h
  refine ⟨?_, by rw [last, parts_inside h dotless, List.getLastD_concat]⟩
  rw [parent, parts_inside h dotless, List.dropLast_concat]
  split
  next none => exact absurd none (parts_ne_nil h)
  next => exact whole

theorem toPath_parent {s : String} (slashless : isPath s = false) (named : isOnlyDots (parent s) = false)
    (dir : String) :
    toPath s dir = if last s = "" then toPath (parent s) dir else toPath (parent s) dir ++ "/" ++ last s := by
  obtain ⟨whole, dotless⟩ := parent_append named
  rw [whole] at slashless
  have below := toPath_inside slashless named dotless dir
  rwa [← whole] at below

end Inside

end Notebook.Module.Specifier

namespace Notebook.Module.Cache

open Specifier

variable {μ : Type} {c : Cache μ} {s dir : String}

/-- Whether the cache has a module for a specifier: an instance, recorded source or a directory. -/
def serves (c : Cache μ) (s dir : String) : Bool :=
  (c.find s dir).isSome || (c.namespaceDir s dir).isSome

/-- Instances are those of paths of modules. -/
def Held (c : Cache μ) : Prop := ∀ p, (c.instances.lookup p).isSome → c.holds p = true

theorem isAbsolute_init (ext : String) : Path.isAbsolute (initName ++ ext) = false := by
  rw [Path.isAbsolute, String.startsWith_string_eq_false_iff, String.toList_append]
  exact fun start => absurd (List.cons_prefix_cons.mp start).1 (by decide)

theorem append_below (d ext : String) : ∃ t, Path.append d (initName ++ ext) = d ++ t := by
  unfold Path.append
  rw [isAbsolute_init, if_neg Bool.false_ne_true]
  split
  · exact ⟨_, rfl⟩
  · exact ⟨_, String.append_assoc ..⟩

theorem isAround_of_below {d p : String} (below : ∃ t, p = d ++ "/" ++ t)
    (h : c.holds p = true) : c.isAround d = true := by
  obtain ⟨t, rfl⟩ := below
  rcases Bool.or_eq_true_iff.mp h with recorded | around
  · obtain ⟨source, recorded⟩ := Option.isSome_iff_exists.mp recorded
    obtain ⟨before, after, same, -⟩ := List.lookup_eq_some_iff.mp recorded
    refine List.any_eq_true.mpr ⟨(d ++ "/" ++ t, source), by simp [same], ?_⟩
    rw [String.startsWith_string_iff]
    simp [String.toList_append]
  · obtain ⟨e, he, starts⟩ := List.any_eq_true.mp around
    refine List.any_eq_true.mpr ⟨e, he, ?_⟩
    rw [String.startsWith_string_iff] at starts ⊢
    refine List.IsPrefix.trans ?_ starts
    simp [String.toList_append]

theorem isAround_parent (held : c.Held) (slashless : isPath s = false)
    (named : isOnlyDots (parent s) = false) (full : last s ≠ "") (h : c.serves s dir = true) :
    c.isAround (toPath (parent s) dir) = true := by
  obtain ⟨whole, dotless⟩ := parent_append named
  generalize parent s = k at whole named ⊢
  generalize last s = l at whole dotless full
  subst whole
  have place := toPath_inside slashless named dotless dir
  rw [if_neg full] at place
  rcases Bool.or_eq_true_iff.mp h with found | directory
  · obtain ⟨p, found⟩ := Option.isSome_iff_exists.mp found
    have known : c.knows p = true := List.find?_some found
    have candidate := List.mem_of_find?_eq_some found
    have held : c.holds p = true := by
      rcases Bool.or_eq_true_iff.mp known with there | recorded
      · exact held p there
      · exact Bool.or_eq_true_iff.mpr (.inl recorded)
    refine isAround_of_below ?_ held
    simp only [candidates, place, slashless, Bool.false_and, Bool.false_eq_true, if_false,
      isOnlyDots_inside named] at candidate
    rcases List.mem_cons.mp candidate with rfl | candidate
    · exact ⟨l ++ c.extension, by simp [String.append_assoc]⟩
    · cases List.mem_singleton.mp candidate
      obtain ⟨t, same⟩ := append_below (toPath k dir ++ "/" ++ l) c.extension
      exact ⟨l ++ t, by rw [same]; simp [String.append_assoc]⟩
  · simp only [namespaceDir, place, slashless, Bool.false_eq_true, if_false] at directory
    split at directory
    next around => exact isAround_of_below ⟨l, rfl⟩ (Bool.or_eq_true_iff.mpr (.inr around))
    next => cases directory

theorem isAround_namespaceDir {d : String} (directory : c.namespaceDir s dir = some d) : c.isAround d = true := by
  simp only [namespaceDir] at directory
  split at directory
  · cases directory
  · split at directory
    · cases directory
      assumption
    · cases directory

theorem serves_parent (held : c.Held) (slashless : isPath s = false)
    (named : isOnlyDots (parent s) = false) (h : c.serves s dir = true) :
    c.serves (parent s) dir = true := by
  obtain ⟨whole, dotless⟩ := parent_append named
  have slashless' : isPath (parent s) = false := by
    rw [whole] at slashless
    exact isPath_left slashless
  by_cases none : last s = ""
  · -- The specifier ends with a dot, which names nothing.
    generalize parent s = k at whole named slashless' ⊢
    rw [none] at whole dotless
    subst whole
    have place := toPath_inside slashless named dotless dir
    rw [if_pos rfl] at place
    have found : c.find (k ++ "." ++ "") dir = c.find k dir := by
      simp only [find, candidates, place, slashless, slashless', named, isOnlyDots_inside named]
    have around : c.namespaceDir (k ++ "." ++ "") dir = c.namespaceDir k dir := by
      simp only [namespaceDir, place, slashless, slashless']
    rwa [serves, found, around] at h
  · simp [serves, namespaceDir, slashless', isAround_parent held slashless named none h]

end Notebook.Module.Cache
