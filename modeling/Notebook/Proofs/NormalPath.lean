import Notebook.Proofs.Packages

/-! Normal paths from the root: they are put together of components that nothing is left to do about, so
normalising them again changes nothing. -/

set_option autoImplicit false

namespace Notebook.Path

open Notebook.Text

/-- A component of a path from the root that nothing is left to do about. -/
structure Proper (c : String) : Prop where
  slashless : '/' ∉ c.toList
  full : c ≠ ""
  here : c ≠ "."
  up : c ≠ ".."

theorem climb_rooted {done : List String} (h : ∀ d ∈ done, Proper d) {c : String} (slashless : '/' ∉ c.toList) :
    ∀ d ∈ climb true done c, Proper d := by
  unfold climb
  split
  · exact h
  next stays =>
    split
    next down =>
      simp only [Bool.or_eq_true, beq_iff_eq, not_or] at stays
      exact List.forall_mem_cons.mpr ⟨⟨slashless, stays.1, stays.2, by simpa using down⟩, h⟩
    next =>
      cases done with
      | nil => simp
      | cons d rest =>
        rw [List.forall_mem_cons] at h
        have apart : ¬ (d == "..") = true := fun e => h.1.up (eq_of_beq e)
        dsimp only
        rw [if_neg apart]
        exact h.2

theorem resolved_rooted (p : String) : ∀ c ∈ resolved true (components p), Proper c := by
  have all : ∀ c ∈ components p, '/' ∉ c.toList := by
    intro c member
    obtain ⟨cs, inside, rfl⟩ := List.mem_map.mp member
    rw [String.toList_ofList]
    exact not_mem_of_mem_splitAt inside
  have keep (cs done : List String) (slashless : ∀ c ∈ cs, '/' ∉ c.toList) (h : ∀ d ∈ done, Proper d) :
      ∀ d ∈ cs.foldl (climb true) done, Proper d := by
    induction cs generalizing done with
    | nil => exact h
    | cons c cs ih =>
      rw [List.forall_mem_cons] at slashless
      exact ih _ slashless.2 (climb_rooted h slashless.1)
  intro c member
  exact keep _ [] all (by simp) c (List.mem_reverse.mp member)

theorem foldl_climb_proper {cs : List String} (h : ∀ c ∈ cs, Proper c) (rooted : Bool) (done : List String) :
    cs.foldl (climb rooted) done = cs.reverse ++ done := by
  induction cs generalizing done with
  | nil => rfl
  | cons c cs ih =>
    rw [List.forall_mem_cons] at h
    have step : climb rooted done c = c :: done := by
      simp [climb, h.1.full, h.1.here, h.1.up]
    rw [List.foldl_cons, step, ih h.2]
    simp

theorem head?_joinWith_proper {cs : List String} (h : ∀ c ∈ cs, Proper c) :
    (joinWith "/" cs).toList.head? ≠ some '/' := by
  cases cs with
  | nil => simp [joinWith]
  | cons c cs =>
    have proper := h c List.mem_cons_self
    have start : (joinWith "/" (c :: cs)).toList.head? = c.toList.head? := by
      cases chars : c.toList with
      | nil => exact absurd (String.toList_eq_nil_iff.mp chars) proper.full
      | cons d ds => cases cs <;> simp [joinWith, String.toList_append, chars]
    rw [start]
    exact fun slash => proper.slashless (List.mem_of_mem_head? slash)

variable {n : Nat} {cs : List String}

theorem toList_spell (pos : 0 < n) (cs : List String) :
    (spell n cs).toList = List.replicate n '/' ++ (joinWith "/" cs).toList := by
  have full : ¬ (String.ofList (List.replicate n '/') ++ joinWith "/" cs == "") = true := by
    intro empty
    have chars := congrArg String.toList (eq_of_beq empty)
    rw [String.toList_append, String.toList_ofList] at chars
    have : n = 0 := by simpa using (List.append_eq_nil_iff.mp chars).1
    omega
  unfold spell
  dsimp only
  rw [if_neg full, String.toList_append, String.toList_ofList]

theorem splitAt_replicate (sep : Char) (n : Nat) (xs : List Char) :
    splitAt sep (List.replicate n sep ++ xs) = List.replicate n [] ++ splitAt sep xs := by
  induction n with
  | zero => rfl
  | succ n ih =>
    rw [List.replicate_succ, List.cons_append, splitAt, if_pos rfl, ih]
    rfl

theorem foldl_spell (pos : 0 < n) (proper : ∀ c ∈ cs, Proper c) (rooted : Bool) :
    (components (spell n cs)).foldl (climb rooted) [] = cs.reverse := by
  have empties (k : Nat) (rest : List String) :
      (List.replicate k "" ++ rest).foldl (climb rooted) [] = rest.foldl (climb rooted) [] := by
    induction k with
    | zero => rfl
    | succ k ih => rwa [List.replicate_succ, List.cons_append, List.foldl_cons]
  rw [components, toList_spell pos, splitAt_replicate, List.map_append, List.map_replicate]
  refine (empties n _).trans ?_
  by_cases none : cs = []
  · subst none
    rfl
  · rw [splitAt_joinWith rfl none fun c member => (proper c member).slashless, foldl_climb_proper proper,
      List.append_nil]

theorem resolved_spell (pos : 0 < n) (proper : ∀ c ∈ cs, Proper c) (rooted : Bool) :
    resolved rooted (components (spell n cs)) = cs := by
  rw [resolved, foldl_spell pos proper, List.reverse_reverse]

theorem leadingSlashes_spell (two : n = 1 ∨ n = 2) (proper : ∀ c ∈ cs, Proper c) :
    leadingSlashes (spell n cs) = n := by
  rw [leadingSlashes_eq, toList_spell (by omega), (takeWhile_run '/' n (head?_joinWith_proper proper)).1,
    List.length_replicate]
  rcases two with rfl | rfl <;> rfl

theorem normalize_spell (two : n = 1 ∨ n = 2) (proper : ∀ c ∈ cs, Proper c) :
    normalize (spell n cs) = spell n cs := by
  rw [normalize_eq, leadingSlashes_spell two proper, resolved_spell (by omega) proper]

theorem isAbsolute_iff {p : String} : isAbsolute p = true ↔ ∃ cs, p.toList = '/' :: cs := by
  rw [isAbsolute, String.startsWith_string_iff]
  constructor
  · rintro ⟨rest, same⟩
    exact ⟨rest, same.symm⟩
  · rintro ⟨cs, same⟩
    exact ⟨cs, same.symm⟩

theorem leadingSlashes_absolute {p : String} (h : isAbsolute p = true) :
    leadingSlashes p = 1 ∨ leadingSlashes p = 2 := by
  obtain ⟨cs, chars⟩ := isAbsolute_iff.mp h
  rw [leadingSlashes_eq, chars]
  simp only [List.takeWhile_cons, beq_self_eq_true, if_true, List.length_cons]
  split <;> simp_all

theorem normalize_absolute {p : String} (h : isAbsolute p = true) :
    isAbsolute (normalize p) = true ∧ normalize (normalize p) = normalize p := by
  have two := leadingSlashes_absolute h
  have rooted : (leadingSlashes p != 0) = true := by rcases two with e | e <;> rw [e] <;> rfl
  have proper := resolved_rooted p
  rw [normalize_eq, rooted]
  refine ⟨?_, normalize_spell two proper⟩
  rw [isAbsolute_iff, toList_spell (by omega)]
  rcases two with e | e <;> rw [e] <;> exact ⟨_, rfl⟩

theorem isAbsolute_append {p : String} (h : isAbsolute p = true) (q : String) :
    isAbsolute (append p q) = true := by
  obtain ⟨cs, chars⟩ := isAbsolute_iff.mp h
  unfold append
  split
  next away => exact away
  next =>
    rw [isAbsolute_iff]
    split <;> exact ⟨_, by simp [String.toList_append, chars]; rfl⟩

theorem absolute_absolute (w : Places) {p : String} (h : isAbsolute p = true) :
    absolute w p = normalize p := by
  rw [absolute, if_pos h]

theorem expandHome_absolute (w : Places) {p : String} (h : isAbsolute p = true) : expandHome w p = p := by
  obtain ⟨cs, chars⟩ := isAbsolute_iff.mp h
  unfold expandHome
  split
  next same => simp [chars] at same
  next same => simp [chars] at same
  next => rfl

theorem isNormal_absolute {w : Places} (h : isAbsolute w.current = true) (p : String) :
    isAbsolute (absolute w p) = true ∧ normalize (absolute w p) = absolute w p := by
  unfold absolute
  split
  next rooted => exact normalize_absolute rooted
  next => exact normalize_absolute (isAbsolute_append h p)

theorem getLast?_suffix {xs ys : List Char} (h : xs <:+ ys) (full : xs ≠ []) : xs.getLast? = ys.getLast? := by
  obtain ⟨before, rfl⟩ := h
  rw [List.getLast?_append]
  cases last : xs.getLast? with
  | none => exact absurd (List.getLast?_eq_none_iff.mp last) full
  | some c => rfl

theorem isAbsolute_parent {p : String} (h : isAbsolute p = true) : isAbsolute (parent p) = true := by
  obtain ⟨cs, chars⟩ := isAbsolute_iff.mp h
  have last : p.toList.reverse.getLast? = some '/' := by rw [List.getLast?_reverse, chars]; rfl
  have starts {xs : List Char} (suffix : xs <:+ p.toList.reverse) (full : xs ≠ []) :
      ∃ ys, xs.reverse = '/' :: ys := by
    have same := getLast?_suffix suffix full
    rw [last] at same
    obtain ⟨ys, split⟩ := List.getLast?_eq_some_iff.mp same
    exact ⟨ys.reverse, by rw [split]; simp⟩
  have head : p.toList.reverse.dropWhile (· != '/') ≠ [] := by
    obtain ⟨ys, split⟩ := List.getLast?_eq_some_iff.mp last
    rw [split, List.dropWhile_append]
    split <;> simp_all
  rw [isAbsolute_iff, parent, String.toList_ofList]
  split
  · exact starts (List.dropWhile_suffix _) head
  next cut =>
    exact starts ((List.dropWhile_suffix _).trans (List.dropWhile_suffix _))
      (by simpa using cut)

/-! File names. -/

structure Named (p : String) : Prop where
  full : fileName p ≠ ""
  dotless : '.' ∉ (fileName p).toList

variable {p q : String}

theorem fileName_append (slashless : '/' ∉ q.toList) (p : String) : fileName (p ++ q) = fileName p ++ q := by
  have whole : ∀ c ∈ q.toList.reverse, (c != '/') = true := by
    intro c member
    rw [bne_iff_ne]
    rintro rfl
    exact slashless (List.mem_reverse.mp member)
  rw [fileName, String.toList_append, List.reverse_append, List.takeWhile_append_of_pos whole, List.reverse_append,
    List.reverse_reverse, String.ofList_append, String.ofList_toList, fileName]

theorem fileName_slash (p : String) : fileName (p ++ "/") = "" := by
  simp [fileName]

theorem fileName_below (slashless : '/' ∉ q.toList) (p : String) : fileName (p ++ "/" ++ q) = q := by
  rw [fileName_append slashless, fileName_slash, String.empty_append]

theorem append_below (full : fileName p ≠ "") (relative : isAbsolute q = false) : append p q = p ++ "/" ++ q := by
  have some_ : p ≠ "" := by
    rintro rfl
    exact full rfl
  have open_ : p.endsWith "/" = false := by
    rw [← Bool.not_eq_true, endsWith_iff]
    rintro ⟨cs, chars⟩
    refine full ?_
    rw [← String.ofList_toList (s := p), ← chars]
    simp [fileName]
  unfold append
  rw [relative, open_, if_neg Bool.false_ne_true, if_neg (by simp [some_])]

namespace Named

theorem append (named : Named p) (relative : isAbsolute q = false) : Path.append p q = p ++ "/" ++ q :=
  append_below named.full relative

theorem ne_file (named : Named p) {ext : String} (dotted : '.' ∈ ext.toList) (slashless : '/' ∉ ext.toList)
    (d : String) : p ≠ d ++ ext := by
  rintro rfl
  refine named.dotless ?_
  rw [fileName_append slashless, String.toList_append]
  exact List.mem_append_right _ dotted

end Named

theorem fileName_spell {q : String} (full : q ≠ "") (slashless : '/' ∉ q.toList) (n : Nat) (cs : List String) :
    fileName (spell n (cs ++ [q])) = q := by
  have last (p : String) (h : fileName (String.ofList (List.replicate n '/') ++ p) = q) :
      fileName (if String.ofList (List.replicate n '/') ++ p == "" then "."
        else String.ofList (List.replicate n '/') ++ p) = q := by
    rw [if_neg, h]
    rw [beq_iff_eq]
    intro none
    rw [none] at h
    exact full h.symm
  refine last _ ?_
  cases cs with
  | nil =>
    rw [List.nil_append, Text.joinWith, fileName_append slashless]
    have slashes : fileName (String.ofList (List.replicate n '/')) = "" := by
      cases n with
      | zero => rfl
      | succ n => rw [fileName, String.toList_ofList, List.reverse_replicate, List.replicate_succ]; rfl
    rw [slashes, String.empty_append]
  | cons c cs =>
    rw [Text.joinWith_concat (List.cons_ne_nil c cs), ← String.append_assoc, ← String.append_assoc,
      fileName_below slashless]

end Notebook.Path
