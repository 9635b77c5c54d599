import Notebook.Proofs.Slashless

/-! Specifiers as dotted parts after leading dots, and the specifiers of the packages around one. -/

set_option autoImplicit false

namespace Notebook.Text

variable {sep : Char} {xs ys part : List Char}

theorem not_mem_of_mem_splitAt (h : part ∈ splitAt sep xs) : sep ∉ part := by
  induction xs generalizing part with
  | nil =>
    cases List.mem_singleton.mp h
    exact List.not_mem_nil
  | cons c cs ih =>
    unfold splitAt at h
    split at h
    · rcases List.mem_cons.mp h with rfl | h
      · exact List.not_mem_nil
      · exact ih h
    next other =>
      split at h
      next none => exact absurd none (splitAt_ne_nil sep cs)
      next q qs same =>
        rcases List.mem_cons.mp h with rfl | h
        · rw [List.mem_cons, not_or]
          exact ⟨fun e => other e.symm, ih (same ▸ List.mem_cons_self)⟩
        · exact ih (same ▸ List.mem_cons_of_mem _ h)

theorem splitAt_cons (sep : Char) (xs : List Char) :
    ∃ rest, splitAt sep xs = xs.takeWhile (· != sep) :: rest := by
  induction xs with
  | nil => exact ⟨[], rfl⟩
  | cons c cs ih =>
    obtain ⟨rest, same⟩ := ih
    by_cases here : c = sep
    · exact ⟨splitAt sep cs, by rw [splitAt, if_pos here]; simp [here]⟩
    · exact ⟨rest, by rw [splitAt, if_neg here, same]; simp [here]⟩

theorem splitAt_plain (h : sep ∉ xs) : splitAt sep xs = [xs] := by
  induction xs with
  | nil => rfl
  | cons c cs ih =>
    rw [List.mem_cons, not_or] at h
    rw [splitAt, if_neg (Ne.symm h.1), ih h.2]

theorem splitAt_append (h : sep ∉ xs) : splitAt sep (xs ++ sep :: ys) = xs :: splitAt sep ys := by
  induction xs with
  | nil => rw [List.nil_append, splitAt, if_pos rfl]
  | cons c cs ih =>
    rw [List.mem_cons, not_or] at h
    rw [List.cons_append, splitAt, if_neg (Ne.symm h.1), ih h.2]

theorem splitAt_joinWith {t : String} (one : t.toList = [sep]) {ps : List String} (full : ps ≠ [])
    (h : ∀ p ∈ ps, sep ∉ p.toList) : (splitAt sep (joinWith t ps).toList).map String.ofList = ps := by
  induction ps with
  | nil => exact absurd rfl full
  | cons p ps ih =>
    have first := h p List.mem_cons_self
    cases ps with
    | nil => simp [joinWith, splitAt_plain first]
    | cons q qs =>
      have later := ih (List.cons_ne_nil q qs) fun r hr => h r (List.mem_cons_of_mem _ hr)
      rw [joinWith, String.append_assoc, String.toList_append, String.toList_append, one,
        List.singleton_append, splitAt_append first, List.map_cons, later, String.ofList_toList]

theorem takeWhile_run (c : Char) (n : Nat) {rest : List Char} (h : rest.head? ≠ some c) :
    (List.replicate n c ++ rest).takeWhile (· == c) = List.replicate n c ∧
      (List.replicate n c ++ rest).dropWhile (· == c) = rest := by
  induction n with
  | zero =>
    cases rest with
    | nil => exact ⟨rfl, rfl⟩
    | cons d ds =>
      have other : d ≠ c := fun e => h (e ▸ rfl)
      simp [other]
  | succ n ih =>
    rw [List.replicate_succ, List.cons_append]
    simpa using ih

theorem dottedParts_joinWith {ps : List String} (full : ps ≠ []) (h : ∀ p ∈ ps, '.' ∉ p.toList) :
    dottedParts (joinWith "." ps) = ps :=
  splitAt_joinWith rfl full h

theorem joinWith_dottedParts (s : String) : joinWith "." (dottedParts s) = s := by
  have chars (cs : List Char) :
      (joinWith "." ((splitAt '.' cs).map String.ofList)).toList = cs := by
    induction cs with
    | nil => rfl
    | cons c cs ih =>
      unfold splitAt
      cases rest : splitAt '.' cs with
      | nil => exact absurd rest (splitAt_ne_nil '.' cs)
      | cons q qs =>
        rw [rest] at ih
        split
        next same =>
          rw [List.map_cons, List.map_cons, joinWith, String.toList_append, ← List.map_cons, ih, same]
          rfl
        next =>
          cases qs <;> simp [joinWith] at ih ⊢ <;> exact ih
  rw [← String.toList_inj]
  exact chars s.toList

end Notebook.Text

namespace Notebook.Module.Specifier

open Notebook.Text

/-! Leading dots. -/

theorem dots_append_stem (s : String) : dots (level s) ++ stem s = s := by
  have all (cs : List Char) : List.replicate (cs.takeWhile (· == '.')).length '.'
      = cs.takeWhile (· == '.') := by
    symm
    rw [List.eq_replicate_iff]
    exact ⟨rfl, fun c hc => by simpa using (List.all_takeWhile (p := (· == '.')) |> List.all_eq_true.mp) c hc⟩
  rw [← String.toList_inj, String.toList_append, dots, stem, level, String.toList_ofList,
    String.toList_ofList, all, List.takeWhile_append_dropWhile]

theorem level_dots (n : Nat) {rest : String} (h : rest.toList.head? ≠ some '.') :
    level (dots n ++ rest) = n := by
  rw [level, String.toList_append, dots, String.toList_ofList, (takeWhile_run '.' n h).1,
    List.length_replicate]

theorem stem_dots (n : Nat) {rest : String} (h : rest.toList.head? ≠ some '.') :
    stem (dots n ++ rest) = rest := by
  rw [stem, String.toList_append, dots, String.toList_ofList, (takeWhile_run '.' n h).2,
    String.ofList_toList]

theorem stem_head (s : String) : (stem s).toList.head? ≠ some '.' := by
  rw [stem, String.toList_ofList]
  intro h
  have := List.head?_dropWhile_not (p := (· == '.')) (l := s.toList)
  rw [h] at this
  simp at this

/-! Prefixes. -/

theorem initials_split {xs ps : List String} {before after : List (List String)}
    (h : initials xs = before ++ ps :: after) : initials ps = before ++ [ps] := by
  induction xs generalizing ps before after with
  | nil => simp [initials] at h
  | cons x xs ih =>
    cases before with
    | nil =>
      cases h
      rfl
    | cons b before =>
      rw [initials, List.cons_append, List.cons.injEq] at h
      obtain ⟨rfl, later⟩ := h
      obtain ⟨before', after', parted, rfl, onward⟩ := List.map_eq_append_iff.mp later
      obtain ⟨qs, after'', rfl, rfl, -⟩ := List.map_eq_cons_iff.mp onward
      rw [initials, ih parted]
      simp

theorem initials_ne_nil {xs ps : List String} (h : ps ∈ initials xs) : ps ≠ [] := by
  cases xs with
  | nil => cases h
  | cons x xs =>
    rcases List.mem_cons.mp h with rfl | h
    · exact List.cons_ne_nil _ _
    · obtain ⟨qs, _, rfl⟩ := List.mem_map.mp h
      exact List.cons_ne_nil _ _

theorem head?_initials {xs ps : List String} (h : ps ∈ initials xs) : ps.head? = xs.head? := by
  cases xs with
  | nil => cases h
  | cons x xs =>
    rcases List.mem_cons.mp h with rfl | h
    · rfl
    · obtain ⟨qs, _, rfl⟩ := List.mem_map.mp h
      rfl

theorem parts_dotless {s part : String} (h : part ∈ parts s) : '.' ∉ part.toList := by
  obtain ⟨cs, inside, rfl⟩ := List.mem_map.mp h
  rw [String.toList_ofList]
  exact not_mem_of_mem_splitAt inside

theorem parts_ne_nil (s : String) : parts s ≠ [] := by
  unfold parts dottedParts
  simp [splitAt_ne_nil]

theorem head?_joinWith {p : String} (ps : List String) (named : p ≠ "") :
    (joinWith "." (p :: ps)).toList.head? = p.toList.head? := by
  cases ps with
  | nil => rfl
  | cons q qs =>
    rw [joinWith, String.append_assoc, String.toList_append]
    cases chars : p.toList with
    | nil => exact absurd (String.toList_eq_nil_iff.mp chars) named
    | cons c cs => rfl

theorem head?_parts {s p : String} (full : s ≠ "") (start : s.toList.head? ≠ some '.')
    (h : (parts s).head? = some p) : p ≠ "" := by
  rintro rfl
  have dotted := joinWith_dottedParts s
  change joinWith "." (parts s) = s at dotted
  obtain ⟨ps, same⟩ : ∃ ps, parts s = "" :: ps := by
    cases all : parts s with
    | nil => exact absurd all (parts_ne_nil s)
    | cons q qs =>
      rw [all] at h
      cases h
      exact ⟨qs, rfl⟩
  rw [same] at dotted
  cases ps with
  | nil => exact full dotted.symm
  | cons q qs => exact start (by rw [← dotted]; simp [joinWith])

theorem prefixes_split {s p : String} {before after : List String}
    (h : prefixes s = before ++ p :: after) : prefixes p = before ++ [p] := by
  have member : p ∈ prefixes s := by simp [h]
  by_cases plain : (stem s == "" || isPath s) = true
  · have alone : prefixes s = [s] := by rw [prefixes, if_pos plain]
    rw [alone] at h member
    cases List.mem_singleton.mp member
    cases before with
    | nil => exact alone
    | cons b before => simp at h
  · have shape (t : String) (dotted : ¬ (stem t == "" || isPath t) = true) : prefixes t =
        (initials (parts (stem t))).map fun ps => dots (level t) ++ joinWith "." ps := by
      rw [prefixes, if_neg dotted]
    rw [shape s plain] at h
    simp only [Bool.or_eq_true, beq_iff_eq, not_or, Bool.not_eq_true] at plain
    obtain ⟨before', after', split, rfl, rest⟩ := List.map_eq_append_iff.mp h
    obtain ⟨ps, after'', rfl, rfl, -⟩ := List.map_eq_cons_iff.mp rest
    have inside : ps ∈ initials (parts (stem s)) := by simp [split]
    obtain ⟨q, qs, rfl⟩ := List.exists_cons_of_ne_nil (initials_ne_nil inside)
    have named : q ≠ "" := head?_parts plain.1 (stem_head s) (head?_initials inside).symm
    have start : (joinWith "." (q :: qs)).toList.head? ≠ some '.' := by
      rw [head?_joinWith qs named]
      intro dot
      have dotless := parts_dotless (mem_of_mem_initials inside List.mem_cons_self)
      exact dotless (List.mem_of_mem_head? dot)
    have stem' : stem (dots (level s) ++ joinWith "." (q :: qs)) = joinWith "." (q :: qs) :=
      stem_dots _ start
    have parts' : parts (joinWith "." (q :: qs)) = q :: qs :=
      dottedParts_joinWith (List.cons_ne_nil q qs)
        fun r hr => parts_dotless (mem_of_mem_initials inside hr)
    have full : joinWith "." (q :: qs) ≠ "" := by
      intro none
      have first := head?_joinWith qs named
      rw [none] at first
      exact named (String.toList_eq_nil_iff.mp (List.head?_eq_none_iff.mp first.symm))
    have path := slashless_prefixes (isPath_eq_false.mp plain.2) member
    rw [shape _ (by simp [stem', full, isPath_eq_false.mpr path]), stem', parts',
      level_dots _ start, initials_split split]
    simp

theorem getLast_initials {xs : List String} (full : xs ≠ []) :
    ∃ before, initials xs = before ++ [xs] := by
  induction xs with
  | nil => exact absurd rfl full
  | cons x xs ih =>
    cases xs with
    | nil => exact ⟨[], rfl⟩
    | cons y ys =>
      obtain ⟨before, same⟩ := ih (List.cons_ne_nil y ys)
      exact ⟨[x] :: before.map (x :: ·), by rw [initials, same]; simp⟩

theorem prefixes_self (s : String) : ∃ before, prefixes s = before ++ [s] := by
  unfold prefixes
  dsimp only
  split
  · exact ⟨[], rfl⟩
  · obtain ⟨before, same⟩ := getLast_initials (parts_ne_nil (stem s))
    refine ⟨before.map fun ps => dots (level s) ++ joinWith "." ps, ?_⟩
    rw [same, List.map_append, List.map_singleton, parts, joinWith_dottedParts, dots_append_stem]

end Notebook.Module.Specifier
