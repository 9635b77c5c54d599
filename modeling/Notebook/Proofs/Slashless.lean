import Notebook.Proofs.Reach

/-! The specifiers that a cell comes to stand in import statements, so none of them is a path. -/

set_option autoImplicit false

namespace Notebook.Module.Specifier

open Notebook.Text

def Slashless (cs : List Char) : Prop := '/' ∉ cs

theorem isPath_eq_false {s : String} : isPath s = false ↔ Slashless s.toList := by
  simp [isPath, Slashless]

theorem Slashless.append {cs ds : List Char} (h : Slashless cs) (h' : Slashless ds) :
    Slashless (cs ++ ds) := by
  simp only [Slashless, List.mem_append, not_or] at *
  exact ⟨h, h'⟩

theorem Slashless.of_subset {cs ds : List Char} (h : Slashless cs) (sub : ∀ c ∈ ds, c ∈ cs) :
    Slashless ds := fun member => h (sub _ member)

theorem slashless_dot : Slashless ".".toList := by
  unfold Slashless
  decide

theorem mem_of_mem_splitAt {sep c : Char} {cs : List Char} {part : List Char}
    (hp : part ∈ splitAt sep cs) (hc : c ∈ part) : c ∈ cs := by
  induction cs generalizing part with
  | nil =>
    cases List.mem_singleton.mp hp
    exact hc
  | cons d cs ih =>
    unfold splitAt at hp
    split at hp
    · rcases List.mem_cons.mp hp with rfl | hp
      · cases hc
      · exact List.mem_cons_of_mem _ (ih hp hc)
    · split at hp
      next h => exact absurd h (splitAt_ne_nil sep cs)
      next q qs h =>
        rcases List.mem_cons.mp hp with rfl | hp
        · rcases List.mem_cons.mp hc with rfl | hc
          · exact List.mem_cons_self
          · exact List.mem_cons_of_mem _ (ih (h ▸ List.mem_cons_self) hc)
        · exact List.mem_cons_of_mem _ (ih (h ▸ List.mem_cons_of_mem _ hp) hc)

theorem slashless_parts {s part : String} (h : Slashless s.toList) (hp : part ∈ parts s) :
    Slashless part.toList := by
  obtain ⟨cs, inside, rfl⟩ := List.mem_map.mp hp
  rw [String.toList_ofList]
  exact h.of_subset fun c hc => mem_of_mem_splitAt inside hc

theorem slashless_joinWith {ps : List String} (h : ∀ p ∈ ps, Slashless p.toList) :
    Slashless (joinWith "." ps).toList := by
  induction ps with
  | nil => exact List.not_mem_nil
  | cons p rest ih =>
    have later := ih fun q hq => h q (List.mem_cons_of_mem _ hq)
    cases rest with
    | nil => exact h p List.mem_cons_self
    | cons q qs =>
      rw [joinWith, String.toList_append, String.toList_append]
      exact ((h p List.mem_cons_self).append slashless_dot).append later

theorem mem_of_mem_initials {xs ys : List String} {x : String} (h : ys ∈ initials xs)
    (hx : x ∈ ys) : x ∈ xs := by
  induction xs generalizing ys with
  | nil => cases h
  | cons a xs ih =>
    rcases List.mem_cons.mp h with rfl | h
    · cases List.mem_singleton.mp hx
      exact List.mem_cons_self
    · obtain ⟨zs, inside, rfl⟩ := List.mem_map.mp h
      rcases List.mem_cons.mp hx with rfl | hx
      · exact List.mem_cons_self
      · exact List.mem_cons_of_mem _ (ih inside hx)

theorem slashless_dots (n : Nat) : Slashless (dots n).toList := by
  rw [dots, String.toList_ofList]
  intro member
  cases List.eq_of_mem_replicate member

theorem slashless_prefixes {s p : String} (h : Slashless s.toList) (hp : p ∈ prefixes s) :
    Slashless p.toList := by
  unfold prefixes at hp
  dsimp only at hp
  split at hp
  · cases List.mem_singleton.mp hp
    exact h
  · obtain ⟨ps, inside, rfl⟩ := List.mem_map.mp hp
    have stem : Slashless (stem s).toList := by
      rw [Specifier.stem, String.toList_ofList]
      exact h.of_subset fun c hc => (List.dropWhile_sublist _).subset hc
    rw [String.toList_append]
    exact (slashless_dots _).append
      (slashless_joinWith fun q hq => slashless_parts stem (mem_of_mem_initials inside hq))

theorem slashless_join {s name : String} (h : Slashless s.toList) (h' : Slashless name.toList) :
    Slashless (join s name).toList := by
  unfold join
  split
  · rw [String.toList_append]
    exact h.append h'
  · rw [String.toList_append, String.toList_append]
    exact (h.append slashless_dot).append h'

end Notebook.Module.Specifier

namespace Notebook.Cell

open Notebook.Module Notebook.Module.Specifier Notebook.Tree

theorem slashless_of_isSlashless {s : String} (h : isSlashless s = true) : Slashless s.toList := by
  simpa [isSlashless, Slashless] using h

theorem slashless_fromSpecifier {module : Option String} (level : Nat)
    (h : module.all isSlashless = true) : Slashless (fromSpecifier module level).toList := by
  unfold fromSpecifier
  rw [String.toList_append]
  refine (slashless_dots level).append ?_
  cases module with
  | none => exact List.not_mem_nil
  | some m => exact slashless_of_isSlashless h

theorem slashless_specifiersOf {st : Stmt} {s : String} (h : s ∈ specifiersOf st) :
    Slashless s.toList := by
  unfold specifiersOf at h
  split at h
  next names =>
    obtain ⟨a, _, inside⟩ := List.mem_flatMap.mp h
    exact slashless_prefixes (slashless_of_isSlashless a.slashless) inside
  next module names level slashless =>
    have base := slashless_fromSpecifier level slashless
    split at h
    · cases h
    · rcases List.mem_append.mp h with h | h
      · exact slashless_prefixes base h
      · obtain ⟨a, _, inside⟩ := List.mem_flatMap.mp h
        exact slashless_prefixes
          (slashless_join base (slashless_of_isSlashless a.slashless)) inside
  next => cases h

theorem isPath_specifiers {body : List Stmt} {s : String} (h : s ∈ specifiers body) :
    isPath s = false := by
  obtain ⟨st, _, inside⟩ := List.mem_flatMap.mp (List.mem_eraseDups.mp h)
  exact isPath_eq_false.mpr (slashless_specifiersOf inside)

namespace Compiler

variable {c : Compiler} {fs : Files}

theorem convertPath_specifiers {p text : String} {nested : List String}
    (h : c.convertPath fs p = .ok (.ok text nested)) : ∃ body, nested = specifiers body := by
  obtain ⟨_, _, _, same, _⟩ | ⟨_, body, same⟩ := convertPath_cases h
  · cases same
  · cases same
    exact ⟨body, rfl⟩

theorem Visits.isPath {body : List Stmt} {s dir : String}
    (h : Visits c fs (specifiers body) s dir) : isPath s = false := by
  cases h with
  | own member => exact isPath_specifiers member
  | nested _ _ _ converts inside =>
    obtain ⟨body', rfl⟩ := convertPath_specifiers converts
    exact isPath_specifiers inside

end Compiler

end Notebook.Cell
