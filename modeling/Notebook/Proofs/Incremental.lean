import Notebook.Proofs.Declared

/-! Declarations carried as text: compiling cells one after another, each against the text of the
declarations before it, against declaring all their statements at once.

The text is read back line by line. A line that does not read back as a declaration of its name is
lost. -/

set_option autoImplicit false

namespace Notebook.Text

def IsLine (s : String) : Prop := ∀ c ∈ s.toList, isLineEnd c = false

theorem linesKept_line {l : List Char} (single : ∀ c ∈ l, isLineEnd c = false) (rest acc : List Char) :
    linesKept (l ++ '\n' :: rest) acc = (acc.reverse ++ l ++ ['\n']) :: linesKept rest [] := by
  induction l generalizing acc with
  | nil => simp [linesKept, isLineEnd]
  | cons c l ih =>
    have here := single c List.mem_cons_self
    have apart : c ≠ '\r' := by
      rintro rfl
      cases here
    rw [List.cons_append, linesKept.eq_4 _ _ _ (fun _ same _ => absurd same apart), here,
      if_neg Bool.false_ne_true, ih (fun d member => single d (List.mem_cons_of_mem _ member))]
    simp

theorem trimRight_line {l : List Char} (single : ∀ c ∈ l, isLineEnd c = false) :
    trimRight isLineEnd (l ++ ['\n']) = l := by
  have ending : isLineEnd '\n' = true := rfl
  have kept : l.reverse.dropWhile isLineEnd = l.reverse := by
    cases reversed : l.reverse with
    | nil => rfl
    | cons c cs =>
      have member : c ∈ l := List.mem_reverse.mp (reversed ▸ List.mem_cons_self)
      rw [List.dropWhile_cons_of_neg (by simp [single c member])]
  rw [trimRight, List.reverse_append, List.reverse_singleton, List.singleton_append,
    List.dropWhile_cons_of_pos ending, kept, List.reverse_reverse]

theorem lines_join {ls : List String} (single : ∀ l ∈ ls, IsLine l) :
    lines (String.join (ls.map (· ++ "\n"))) = ls := by
  induction ls with
  | nil => rfl
  | cons l ls ih =>
    have here := single l List.mem_cons_self
    have whole : (String.join ((l :: ls).map (· ++ "\n"))).toList
        = l.toList ++ '\n' :: (String.join (ls.map (· ++ "\n"))).toList := by
      simp [String.join_cons]
    have later := ih fun k member => single k (List.mem_cons_of_mem _ member)
    unfold lines at later ⊢
    rw [whole, linesKept_line here, List.map_cons, later, List.reverse_nil, List.nil_append,
      trimRight_line here, String.ofList_toList]

end Notebook.Text

namespace Notebook.Cell

open Notebook.Tree Notebook.Text Declarations
open Notebook.Code (of_bind_ok)

namespace Declarations

theorem nodup_declare {ds : Declarations} (h : ds.names.Nodup) (name line : String) :
    (ds.declare name line).names.Nodup := by
  rw [names_declare]
  split
  next => exact h
  next apart =>
    refine List.nodup_append.mpr ⟨h, by simp, ?_⟩
    rintro n member m last rfl
    exact apart (List.mem_singleton.mp last ▸ member)

theorem nodup_declareAll {entries : List (String × String)} {ds : Declarations} (h : ds.names.Nodup) :
    (ds.declareAll entries).names.Nodup := by
  induction entries generalizing ds with
  | nil => exact h
  | cons e entries ih => exact ih (nodup_declare h e.1 e.2)

theorem nodup_removeAll {gone : List String} {ds : Declarations} (h : ds.names.Nodup) :
    (gone.foldl remove ds).names.Nodup := by
  induction gone generalizing ds with
  | nil => exact h
  | cons g gone ih => exact ih (names_remove ds g ▸ h.filter _)

theorem mem_declareAll {entries : List (String × String)} {ds : Declarations} {d : String × String}
    (h : d ∈ ds.declareAll entries) : d ∈ ds ∨ d ∈ entries := by
  induction entries generalizing ds with
  | nil => exact .inl h
  | cons e entries ih =>
    rcases ih h with old | new
    · change d ∈ ds.declare e.1 e.2 at old
      unfold declare at old
      split at old
      · obtain ⟨d', member, rfl⟩ := List.mem_map.mp old
        split
        · exact .inr List.mem_cons_self
        · exact .inl member
      · rcases List.mem_append.mp old with old | last
        · exact .inl old
        · exact .inr (List.mem_singleton.mp last ▸ List.mem_cons_self)
    · exact .inr (List.mem_cons_of_mem _ new)

theorem mem_removeAll {gone : List String} {ds : Declarations} {d : String × String}
    (h : d ∈ gone.foldl remove ds) : d ∈ ds := by
  induction gone generalizing ds with
  | nil => exact h
  | cons g gone ih => exact (List.mem_filter.mp (ih h)).1

theorem declareAll_new {entries : List (String × String)} {ds : Declarations}
    (h : (ds.names ++ entries.map (·.1)).Nodup) : ds.declareAll entries = ds ++ entries := by
  induction entries generalizing ds with
  | nil => simp [declareAll]
  | cons e entries ih =>
    have apart : e.1 ∉ ds.names := by
      intro member
      exact (List.nodup_append.mp h).2.2 _ member _ List.mem_cons_self rfl
    have first : ds.declare e.1 e.2 = ds ++ [e] := by
      unfold declare
      rw [if_neg (by simpa [names] using apart)]
    change (ds.declare e.1 e.2).declareAll entries = _
    rw [first, ih (by simpa [names] using h), List.append_assoc, List.singleton_append]

end Declarations

/-- A declaration whose line reads back as a declaration of its name. -/
structure Readable (d : String × String) : Prop where
  single : IsLine d.2
  filled : isBlankText d.2 = false
  back : declarationOfLine d.2 = .ok (some d.1)

theorem toOption_eq_some {ε α : Type} {x : Except ε α} {a : α} : x.toOption = some a ↔ x = .ok a := by
  cases x <;> simp [Except.toOption]

instance (s : String) : Decidable (IsLine s) :=
  List.decidableBAll (fun c => isLineEnd c = false) s.toList

instance (d : String × String) : Decidable (Readable d) :=
  decidable_of_iff (IsLine d.2 ∧ isBlankText d.2 = false ∧
      (declarationOfLine d.2).toOption = some (some d.1))
    ⟨fun ⟨single, filled, back⟩ => ⟨single, filled, toOption_eq_some.mp back⟩,
      fun ⟨single, filled, back⟩ => ⟨single, filled, toOption_eq_some.mpr back⟩⟩

theorem readLines_readable {entries : List (String × String)} (h : ∀ d ∈ entries, Readable d)
    (ds : Declarations) : readLines ds (entries.map (·.2)) = .ok (ds.declareAll entries) := by
  induction entries generalizing ds with
  | nil => rfl
  | cons d entries ih =>
    obtain ⟨-, filled, back⟩ := h d List.mem_cons_self
    rw [List.map_cons, readLines, filled, if_neg Bool.false_ne_true, back]
    exact ih (fun e member => h e (List.mem_cons_of_mem _ member)) _

theorem parseDeclarations_text {ds : Declarations} (nodup : ds.names.Nodup)
    (h : ∀ d ∈ ds, Readable d) : parseDeclarations ds.text = .ok ds := by
  have written : ds.text = String.join ((ds.map (·.2)).map (· ++ "\n")) := by
    rw [List.map_map]
    rfl
  have single : ∀ l ∈ ds.map (·.2), IsLine l := by
    intro l member
    obtain ⟨d, there, rfl⟩ := List.mem_map.mp member
    exact (h d there).single
  unfold parseDeclarations
  rw [written, lines_join single, readLines_readable h, declareAll_new (by simpa [names] using nodup)]
  rfl

def DeclaresReadable (s : Stmt) : Prop := ∀ es, entries s = .ok es → ∀ d ∈ es, Readable d

instance (s : Stmt) : Decidable (DeclaresReadable s) :=
  decidable_of_iff (∀ es ∈ (entries s).toOption, ∀ d ∈ es, Readable d)
    (forall_congr' fun _ => imp_congr_left (Option.mem_def.trans toOption_eq_some))

/-- A cell that declares nothing but readable lines. -/
def CellReadable (src : String) : Prop :=
  ∀ body, Compiler.checkCell src = .ok body → ∀ s ∈ body, DeclaresReadable s

instance (src : String) : Decidable (CellReadable src) :=
  decidable_of_iff (∀ body ∈ (Compiler.checkCell src).toOption, ∀ s ∈ body, DeclaresReadable s)
    (forall_congr' fun _ => imp_congr_left (Option.mem_def.trans toOption_eq_some))

/-- Declarations that read back: each name once, and every line readable. -/
structure ReadBack (ds : Declarations) : Prop where
  nodup : ds.names.Nodup
  readable : ∀ d ∈ ds, Readable d

theorem ReadBack.declareStmt {ds ds' : Declarations} (h : ReadBack ds) {s : Stmt}
    (readable : DeclaresReadable s) (declared : declareStmt ds s = .ok ds') : ReadBack ds' := by
  obtain ⟨es, made, rfl⟩ := declareStmt_ok declared
  refine ⟨nodup_declareAll (nodup_removeAll h.nodup), fun d member => ?_⟩
  rcases mem_declareAll member with old | new
  · exact h.readable d (mem_removeAll old)
  · exact readable es made d new

theorem ReadBack.declareStmts {ds ds' : Declarations} {body : List Stmt} (h : ReadBack ds)
    (readable : ∀ s ∈ body, DeclaresReadable s) (declared : declareStmts ds body = .ok ds') :
    ReadBack ds' := by
  induction body generalizing ds with
  | nil =>
    cases declared
    exact h
  | cons s body ih =>
    obtain ⟨ds₁, first, rest⟩ := of_bind_ok declared
    refine ih (h.declareStmt (readable s List.mem_cons_self) first) (fun t member => ?_) rest
    exact readable t (List.mem_cons_of_mem _ member)

theorem declareStmts_append {ds ds₁ ds₂ : Declarations} {first rest : List Stmt}
    (h : declareStmts ds first = .ok ds₁) (h' : declareStmts ds₁ rest = .ok ds₂) :
    declareStmts ds (first ++ rest) = .ok ds₂ := by
  induction first generalizing ds with
  | nil =>
    cases h
    exact h'
  | cons s first ih =>
    obtain ⟨ds', here, later⟩ := of_bind_ok h
    rw [List.cons_append, declareStmts, here]
    exact ih later

namespace Compiler

theorem compile_declares {c c' : Compiler} {fs : Files} {prior src : String} {r : Compiled}
    (h : c.compile fs prior src = (.ok r, c')) (clean : r.diagnostics = []) :
    ∃ ds body ds', parseDeclarations prior = .ok ds ∧ checkCell src = .ok body ∧
      declareStmts ds body = .ok ds' ∧ r.declarations = ds'.text ∧
      buildBody ds body = .ok (r.body, r.lastBinding) ∧ r.hasTopLevelAwait = hasTopLevelAwait body := by
  unfold compile at h
  dsimp only at h
  split at h
  next => cases h
  next ds before =>
    split at h
    next =>
      split at h
      · cases h
        cases clean
      · cases h
    next =>
      cases h
      cases clean
    next body parsed =>
      split at h
      next => cases h
      next => cases h
      next text last ds' built declared =>
        obtain ⟨_, _, declared⟩ := of_bind_ok declared
        split at h
        next => cases h
        next =>
          cases h
          exact ⟨ds, body, ds', before, parsed, declared, rfl, built, rfl⟩

/-- Compiles cells one after another, each with the files there are then and against the declarations
of the one before; gives the last declarations, if no cell stops it and none has diagnostics. -/
def feed : Compiler → String → List (Files × String) → Option String
  | _, prior, [] => some prior
  | c, prior, (fs, src) :: cells =>
    match c.compile fs prior src with
    | (.ok r, c) => if r.diagnostics.isEmpty then feed c r.declarations cells else none
    | (.error _, _) => none

theorem feed_declares {cells : List (Files × String)} {c : Compiler} {ds : Declarations} {last : String}
    (fed : c.feed ds.text cells = some last) (before : ReadBack ds)
    (readable : ∀ cell ∈ cells, CellReadable cell.2) :
    ∃ (bodies : List (List Stmt)) (ds' : Declarations), cells.map (checkCell ·.2) = bodies.map .ok ∧
      declareStmts ds bodies.flatten = .ok ds' ∧ last = ds'.text ∧ ReadBack ds' := by
  induction cells generalizing c ds with
  | nil =>
    cases fed
    exact ⟨[], ds, rfl, rfl, rfl, before⟩
  | cons cell cells ih =>
    obtain ⟨fs, src⟩ := cell
    rw [feed] at fed
    split at fed
    next r c' compiled =>
      split at fed
      next clean =>
        obtain ⟨ds₀, body, ds₁, back, parsed, first, carried, -⟩ :=
          compile_declares compiled (List.isEmpty_iff.mp clean)
        rw [parseDeclarations_text before.nodup before.readable] at back
        cases back
        have after := before.declareStmts (readable _ List.mem_cons_self body parsed) first
        rw [carried] at fed
        obtain ⟨bodies, ds', each, later, same, final⟩ :=
          ih fed after fun cell member => readable cell (List.mem_cons_of_mem _ member)
        refine ⟨body :: bodies, ds', ?_, declareStmts_append first later, same, final⟩
        rw [List.map_cons, each, parsed, List.map_cons]
      next => cases fed
    next => cases fed

set_option maxRecDepth 100000 in
theorem checkCell_empty : checkCell "" = .ok [] := by
  have none : (checkCell "").toOption.map List.isEmpty = some true := by decide +kernel
  cases parsed : checkCell "" with
  | error e =>
    rw [parsed] at none
    cases none
  | ok body =>
    rw [parsed] at none
    cases body with
    | nil => rfl
    | cons s body => cases none

theorem compile_empty (c : Compiler) (fs : Files) {ds : Declarations} (h : ReadBack ds) :
    c.compile fs ds.text "" = (.ok { declarations := ds.text }, c) := by
  have unread : checkNames c.extraGlobals ds [] = [] := by
    simp [checkNames, readings, bodyMarks, stmtOutlines, marksAll, undefinedReadings]
  have built : buildBody ds [] = .ok ("", none) := rfl
  have declared : declareBody ds [] = .ok ds := rfl
  unfold compile
  rw [parseDeclarations_text h.nodup h.readable, checkCell_empty]
  dsimp only
  rw [built, declared]
  dsimp only
  rw [unread]
  rfl

/-- Declarations carried as text from cell to cell are those of all statements of the cells declared at
once, and an empty cell leaves them as they are, if every line that the cells declare reads back. -/
theorem feed_batch {c : Compiler} {cells : List (Files × String)} {last : String}
    (fed : c.feed "" cells = some last)
    (readable : ∀ cell ∈ cells, CellReadable cell.2) :
    ∃ (bodies : List (List Stmt)) (ds : Declarations), cells.map (checkCell ·.2) = bodies.map .ok ∧
      declareStmts [] bodies.flatten = .ok ds ∧ last = ds.text ∧ parseDeclarations last = .ok ds ∧
      ∀ (c' : Compiler) (fs : Files), (c'.compile fs last "").1 = .ok { declarations := last } := by
  obtain ⟨bodies, ds, each, batch, rfl, back⟩ :=
    feed_declares (show c.feed (Declarations.text []) cells = _ from fed) ⟨List.nodup_nil, by simp⟩ readable
  refine ⟨bodies, ds, each, batch, rfl, parseDeclarations_text back.nodup back.readable, fun c' fs => ?_⟩
  rw [compile_empty c' fs back]

set_option maxRecDepth 100000 in
theorem feed_two : ({ places := ⟨"/w", "/home/user"⟩, rootDir := "/w" } : Compiler).feed ""
    [({}, "x = 1"), ({}, "y: int = 2\ndel x")] = some "y: int\n" := by
  decide +kernel

theorem readable_two : ∀ cell ∈ ([({}, "x = 1"), ({}, "y: int = 2\ndel x")] : List (Files × String)),
    CellReadable cell.2 := by
  decide +kernel

theorem feed_batch_two :
    let c : Compiler := { places := ⟨"/w", "/home/user"⟩, rootDir := "/w" }
    let cells : List (Files × String) := [({}, "x = 1"), ({}, "y: int = 2\ndel x")]
    (c.feed "" cells = some "y: int\n" ∧ ∀ cell ∈ cells, CellReadable cell.2) ∧
      ∃ (bodies : List (List Stmt)) (ds : Declarations), cells.map (checkCell ·.2) = bodies.map .ok ∧
        declareStmts [] bodies.flatten = .ok ds ∧ "y: int\n" = ds.text ∧
        parseDeclarations "y: int\n" = .ok ds ∧
        ∀ (c' : Compiler) (fs : Files), (c'.compile fs "y: int\n" "").1 = .ok { declarations := "y: int\n" } := by
  intro c cells
  exact ⟨⟨feed_two, readable_two⟩, feed_batch feed_two readable_two⟩

end Compiler

set_option maxRecDepth 100000 in
/-- The name of a tree may be a keyword: names are read in their normal form, which `𝐢𝐟` has in common
with one. Its line is written and does not read back. -/
theorem not_carried_keyword :
    let s : Stmt := .annAssign ⟨1, 0⟩ (.name ⟨1, 0⟩ "if" .store) (.name ⟨1, 4⟩ "int" .load) none true
    (declareStmts [] [s]).toOption.map Declarations.text = some "if: int\n" ∧
      (parseDeclarations "if: int\n").toOption = some [] := by
  decide +kernel

end Notebook.Cell
