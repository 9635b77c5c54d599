import Notebook.Proofs.FromImport
import Notebook.Proofs.NormalPath

/-! Where the module of a directory is: in one of two files or, where only sources below make it one, at the
directory itself. Different directories have their modules at different places, unless sources lie below a
file or below what makes a directory a package. -/

set_option autoImplicit false

namespace Notebook.Module

open Notebook.Text

theorem Specifier.named_toPath {s : String} (slashless : isPath s = false) (named : isOnlyDots s = false)
    (dir : String) : Path.Named (toPath s dir) := by
  obtain ⟨before, q, split⟩ := (List.eq_nil_or_concat _).resolve_left (filter_parts_ne_nil named)
  have member : q ∈ (parts (stem s)).filter (· != "") := by simp [split]
  obtain ⟨inside, full⟩ := List.mem_filter.mp member
  have plain := plain_parts (isPath_stem slashless) inside
  have name : Path.fileName (toPath s dir) = q := by
    rw [toPath_eq slashless, split, List.concat_eq_append, ← List.append_assoc]
    exact Path.fileName_spell (by simpa using full) plain.slashless _ _
  exact ⟨by simpa [name] using full, name ▸ plain.dotless⟩

namespace Cache

open Specifier

variable {μ : Type} {c c' : Cache μ} {s dir base d p : String}

/-- The files that the module of a directory can be in. -/
def files (c : Cache μ) (base : String) : List String :=
  [base ++ c.extension, Path.append base (initName ++ c.extension)]

def place (c : Cache μ) (base : String) : Option String :=
  (c.files base).find? c.knows <|> if c.isAround base then some base else none

theorem place_mem (h : c.place base = some p) : p ∈ base :: c.files base := by
  unfold place at h
  cases found : (c.files base).find? c.knows with
  | some q =>
    rw [found] at h
    cases h
    exact List.mem_cons_of_mem _ (List.mem_of_find?_eq_some found)
  | none =>
    rw [found] at h
    change (if c.isAround base then some base else none) = some p at h
    split at h
    · cases h
      exact List.mem_cons_self
    · cases h

section

variable (slashless : isPath s = false) (named : isOnlyDots s = false)

include slashless named

theorem find_files (c : Cache μ) (dir : String) : c.find s dir = (c.files (toPath s dir)).find? c.knows := by
  simp only [find, candidates, files, slashless, named, Bool.false_and, Bool.false_eq_true, if_false]

theorem place_toPath (c : Cache μ) (dir : String) :
    c.place (toPath s dir) = (c.find s dir <|> c.namespaceDir s dir) := by
  rw [find_files slashless named, place]
  congr 1
  simp only [namespaceDir, slashless, Bool.false_eq_true, if_false]

end

/-- A directory whose files, where no source is recorded for them, have no sources below them. -/
def Filed (c : Cache μ) (base : String) : Prop :=
  ∀ p ∈ c.files base, (c.sources.lookup p).isSome = true ∨ c.isAround p = false

theorem Filed.place_eq (filed : c.Filed base) (held : c.Held) (held' : c'.Held) (sources : c'.sources = c.sources)
    (extension : c'.extension = c.extension) : c'.place base = c.place base := by
  have around (p : String) : c'.isAround p = c.isAround p := by rw [isAround, sources, isAround]
  have files : c'.files base = c.files base := by rw [Cache.files, extension, Cache.files]
  have recorded {e : Cache μ} (held : e.Held) (same : e.sources = c.sources) {p : String} (member : p ∈ c.files base) :
      e.knows p = (c.sources.lookup p).isSome := by
    unfold knows
    rw [same]
    cases there : e.instances.lookup p with
    | none => rfl
    | some m =>
      have holds := held p (by simp [there])
      rcases filed p member with recorded | plain
      · simp [recorded]
      · have plain' : e.isAround p = false := by rw [isAround, same, ← isAround, plain]
        rw [Cache.holds, plain', Bool.or_false, same] at holds
        simp [holds]
  have agree : (c.files base).find? c'.knows = (c.files base).find? c.knows := by
    rw [Cache.files, List.find?_cons, List.find?_cons, List.find?_cons, List.find?_cons]
    have same {p : String} (member : p ∈ c.files base) : c'.knows p = c.knows p :=
      (recorded held' sources member).trans (recorded held rfl member).symm
    rw [same List.mem_cons_self, same (List.mem_cons_of_mem _ List.mem_cons_self), List.find?_nil, List.find?_nil]
  rw [place, place, files, agree, around]

/-- A directory whose package shares its place with no other directory around sources. -/
def Sole (c : Cache μ) (base : String) : Prop :=
  ∀ d, Path.Named d → c.isAround d = true → ∀ p ∈ base :: c.files base, p ∈ d :: c.files d → d = base

/-- Directories of packages as a rule: they are not those that make others packages, and there is nothing below the
file that makes them one. -/
structure Clear (c : Cache μ) (base : String) : Prop where
  dotted : '.' ∈ c.extension.toList
  slashless : '/' ∉ c.extension.toList
  named : Path.Named base
  plain : Path.fileName base ≠ initName
  inner : c.isAround (base ++ "/" ++ initName) = false

theorem files_named (c : Cache μ) (named : Path.Named d) :
    c.files d = [d ++ c.extension, d ++ "/" ++ initName ++ c.extension] := by
  rw [files, named.append (isAbsolute_init _), ← String.append_assoc]

theorem Clear.sole (clear : c.Clear base) : c.Sole base := by
  intro d named around p here there
  have cancel {x y t : String} (same : x ++ t = y ++ t) : x = y := by
    rw [← String.toList_inj] at same ⊢
    rw [String.toList_append, String.toList_append] at same
    exact List.append_cancel_right same
  have apart (x : String) := clear.named.ne_file clear.dotted clear.slashless x
  have apart' (x : String) := named.ne_file clear.dotted clear.slashless x
  rw [files_named c clear.named] at here
  rw [files_named c named] at there
  simp only [List.mem_cons, List.not_mem_nil, or_false] at here there
  rcases here with rfl | rfl | rfl
  · rcases there with same | same | same
    · exact same.symm
    · exact absurd same (apart d)
    · exact absurd same (apart _)
  · rcases there with same | same | same
    · exact absurd same.symm (apart' base)
    · exact (cancel same).symm
    · -- The directory would be what makes the other a package.
      refine absurd ?_ clear.plain
      rw [cancel same, Path.fileName_below (by decide)]
  · rcases there with same | same | same
    · exact absurd same.symm (apart' _)
    · rw [← cancel same, clear.inner] at around
      cases around
    · exact (cancel (cancel (cancel same))).symm

end Cache

end Notebook.Module
