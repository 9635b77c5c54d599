import Notebook.Proofs.Unrelated
import Notebook.Cell.Directive
import Notebook.Source.Lexer

/-! The comments that lead a cell, read by physical lines.

A physical line ends where the scanner of the source ends it: at a line feed, a carriage return or both.
Directives are looked for in the lines of a text, which end at more characters, so that a comment is cut
short at each of those. -/

set_option autoImplicit false

namespace Notebook.Text

theorem trimRight_append (p : Char → Bool) (xs : List Char) {c : Char} (kept : p c = false)
    (ys : List Char) : trimRight p (xs ++ c :: ys) = xs ++ c :: trimRight p ys := by
  unfold trimRight
  rw [List.reverse_append, List.reverse_cons, List.append_assoc, List.singleton_append,
    List.dropWhile_append, List.dropWhile_cons_of_neg (by simp [kept])]
  split
  next none => simp [List.isEmpty_iff.mp none]
  next => simp

theorem dropWhile_all {p : Char → Bool} {xs : List Char} (all : ∀ c ∈ xs, p c = true) (ys : List Char) :
    (xs ++ ys).dropWhile p = ys.dropWhile p := by
  induction xs with
  | nil => rfl
  | cons x xs ih =>
    rw [List.cons_append, List.dropWhile_cons_of_pos (all x List.mem_cons_self)]
    exact ih fun c member => all c (List.mem_cons_of_mem _ member)

theorem mem_trimRight {p : Char → Bool} {xs : List Char} {c : Char} (h : c ∈ trimRight p xs) : c ∈ xs :=
  List.mem_reverse.mp ((List.dropWhile_suffix p).mem (List.mem_reverse.mp h))

theorem isBlank_of_isLineEnd {c : Char} (h : isLineEnd c = true) : isBlank c = true := by
  simp only [isLineEnd, isBlank, Bool.or_eq_true, Bool.and_eq_true, decide_eq_true_eq, beq_iff_eq] at h ⊢
  omega

theorem dropWhile_dropWhile {p q : Char → Bool} (sub : ∀ c, q c = true → p c = true) (xs : List Char) :
    (xs.dropWhile q).dropWhile p = xs.dropWhile p := by
  induction xs with
  | nil => rfl
  | cons x xs ih =>
    by_cases h : q x = true
    · rw [List.dropWhile_cons_of_pos h, List.dropWhile_cons_of_pos (sub x h), ih]
    · rw [List.dropWhile_cons_of_neg h]

theorem trimRight_lineEnd (xs : List Char) {e : List Char} (ends : ∀ c ∈ e, isLineEnd c = true) :
    trimRight isBlank (trimRight isLineEnd (xs ++ e)) = trimRight isBlank xs := by
  have reversed : ∀ c ∈ e.reverse, isLineEnd c = true := fun c member => ends c (List.mem_reverse.mp member)
  rw [trimRight, trimRight, trimRight, List.reverse_reverse, List.reverse_append,
    dropWhile_dropWhile fun c => isBlank_of_isLineEnd, dropWhile_all fun c member =>
      isBlank_of_isLineEnd (reversed c member)]

def IsBreak (e rest : List Char) : Prop :=
  e = ['\n'] ∨ e = ['\r', '\n'] ∨ e = ['\r'] ∧ rest.head? ≠ some '\n'

theorem splitAt_unify (cs : List Char) :
    splitAt '\n' (unifyLineEnds cs) = [cs] ∨
      ∃ l e rest, cs = l ++ e ++ rest ∧ IsBreak e rest ∧
        splitAt '\n' (unifyLineEnds cs) = l :: splitAt '\n' (unifyLineEnds rest) := by
  fun_induction unifyLineEnds cs with
  | case1 => exact .inl rfl
  | case2 cs => exact .inr ⟨[], ['\r', '\n'], cs, rfl, .inr (.inl rfl), rfl⟩
  | case3 cs apart =>
    refine .inr ⟨[], ['\r'], cs, rfl, .inr (.inr ⟨rfl, ?_⟩), rfl⟩
    intro start
    cases cs with
    | nil => cases start
    | cons d ds =>
      cases start
      exact apart ds rfl
  | case4 c cs _ _ ih =>
    by_cases ending : c = '\n'
    · subst ending
      exact .inr ⟨[], ['\n'], cs, rfl, .inl rfl, rfl⟩
    · rw [splitAt, if_neg ending]
      rcases ih with whole | ⟨l, e, rest, rfl, isBreak, parted⟩
      · exact .inl (by rw [whole])
      · exact .inr ⟨c :: l, e, rest, rfl, isBreak, by rw [parted]⟩

theorem IsBreak.isLineEnd {e rest : List Char} (h : IsBreak e rest) : ∀ c ∈ e, isLineEnd c = true := by
  rcases h with rfl | rfl | ⟨rfl, -⟩ <;> simp [Text.isLineEnd]

theorem linesKept_cons {c : Char} (going : isLineEnd c = false) (cs acc : List Char) :
    linesKept (c :: cs) acc = linesKept cs (c :: acc) := by
  have apart : ∀ k, c = '\r' → cs = '\n' :: k → False := by
    rintro k rfl
    cases going
  rw [linesKept.eq_4 _ _ _ apart, if_neg (by simp [going])]

theorem linesKept_break {l e rest : List Char} (single : ∀ c ∈ l, isLineEnd c = false)
    (isBreak : IsBreak e rest) (acc : List Char) :
    linesKept (l ++ e ++ rest) acc = (acc.reverse ++ l ++ e) :: linesKept rest [] := by
  induction l generalizing acc with
  | nil =>
    rcases isBreak with rfl | rfl | ⟨rfl, apart⟩
    · simp [linesKept, Text.isLineEnd]
    · simp [linesKept]
    · have own : ∀ k, '\r' = '\r' → rest = '\n' :: k → False := by
        rintro k - rfl
        exact apart rfl
      have ending : Text.isLineEnd '\r' = true := rfl
      rw [List.nil_append, List.singleton_append, linesKept.eq_4 _ _ _ own, if_pos ending]
      simp
  | cons c l ih =>
    rw [List.cons_append, List.cons_append, linesKept_cons (single c List.mem_cons_self),
      ih fun d member => single d (List.mem_cons_of_mem _ member)]
    simp

theorem linesKept_last {l : List Char} (single : ∀ c ∈ l, isLineEnd c = false) (acc : List Char) :
    linesKept l acc = if acc.reverse ++ l = [] then [] else [acc.reverse ++ l] := by
  induction l generalizing acc with
  | nil => cases acc <;> simp [linesKept]
  | cons c l ih =>
    rw [linesKept_cons (single c List.mem_cons_self),
      ih fun d member => single d (List.mem_cons_of_mem _ member)]
    simp

theorem linesKept_read (cs : List Char) (c : Char) (acc : List Char) :
    ∃ more rest, linesKept cs (c :: acc) = (acc.reverse ++ c :: more) :: rest := by
  generalize read : c :: acc = kept
  fun_induction linesKept cs kept generalizing c acc with
  | case1 => cases read
  | case2 acc' apart => exact ⟨[], [], by simp [← read]⟩
  | case3 cs acc' ih => exact ⟨['\r', '\n'], linesKept cs [], by simp [← read]⟩
  | case4 d cs acc' apart ending ih => exact ⟨[d], linesKept cs [], by simp [← read]⟩
  | case5 d cs acc' apart going ih =>
    obtain ⟨more, rest, same⟩ := ih d acc' rfl
    exact ⟨d :: more, rest, by rw [same]; simp [← read]⟩

end Notebook.Text

namespace Notebook.Cell

open Notebook.Text
open Notebook.Source.Scanner (isGap)

/-- The lines of a source as its scanner reads them. -/
def physicalLines (src : String) : List (List Char) := splitAt '\n' (unifyLineEnds src.toList)

def isQuiet (l : List Char) : Bool :=
  match l.dropWhile isGap with
  | [] => true
  | c :: _ => c == '#'

/-- The lines before the first one with code. -/
def leadingBlock (src : String) : List (List Char) := (physicalLines src).takeWhile isQuiet

/-- The directives of a line, which is read without the blanks around it. -/
def directivesOf (l : List Char) : List Directive := Directive.ofLine (trim (String.ofList l))

def Directive.mode? (d : Directive) : Option Mode :=
  if d.tag = "browser" then some .browser
  else if d.tag = "node" ∨ d.tag = "local" then some .local
  else none

def Directive.module? (d : Directive) : Option String :=
  if d.tag = "module" then d.value else none

/-- All tags in their order, the last mode that is named, and the last module that is. -/
def Metadata.ofDirectives (ds : List Directive) : Metadata where
  mode := (ds.filterMap Directive.mode?).getLastD .local
  module := (ds.filterMap Directive.module?).getLast?
  tags := ds.map Directive.tag

/-! ### What the directives of a line add up to -/

namespace Directive

theorem value?_ne_nil {cs v : List Char} (h : value? cs = some v) : v ≠ [] := by
  unfold value? at h
  split at h
  · split at h
    · cases h
      exact List.cons_ne_nil _ _
    · cases h
  · cases h

theorem value_scan (skip : Nat) (cs : List Char) : ∀ d ∈ scan skip cs, d.value ≠ some "" := by
  fun_induction scan skip cs with
  | case1 => simp
  | case2 skip _ cs ih => exact ih
  | case3 t rest start tag after v found ih =>
    rw [List.forall_mem_cons]
    refine ⟨fun empty => ?_, ih⟩
    rw [Option.some_inj, ← String.toList_inj, String.toList_ofList] at empty
    exact value?_ne_nil found empty
  | case4 t rest start tag after none ih => simpa using ih
  | case5 t rest start ih => exact ih
  | case6 c cs _ ih => exact ih

end Directive

theorem Metadata.add_ofDirectives (ds : List Directive) {d : Directive} (valued : d.value ≠ some "") :
    (Metadata.ofDirectives ds).add d = Metadata.ofDirectives (ds ++ [d]) := by
  unfold Metadata.ofDirectives Metadata.add
  split
  next v tag value =>
    have full : ¬ (v == "") = true := by
      rintro empty
      exact valued (by rw [value, eq_of_beq empty])
    simp [full, Directive.mode?, Directive.module?, tag, value]
  next tag => simp [Directive.mode?, Directive.module?, tag]
  next tag => simp [Directive.mode?, Directive.module?, tag]
  next tag => simp [Directive.mode?, Directive.module?, tag]
  next noBrowser noNode noLocal noModule =>
    have none : d.module? = none := by
      unfold Directive.module?
      split
      next tag =>
        cases value : d.value with
        | none => rfl
        | some v => exact absurd value (noModule v tag)
      next => rfl
    have same : d.mode? = Option.none := by
      rw [Directive.mode?, if_neg noBrowser, if_neg (not_or.mpr ⟨noNode, noLocal⟩)]
    simp [none, same]

theorem Metadata.foldl_add {ds : List Directive} (valued : ∀ d ∈ ds, d.value ≠ some "")
    (es : List Directive) : ds.foldl Metadata.add (ofDirectives es) = ofDirectives (es ++ ds) := by
  induction ds generalizing es with
  | nil => simp
  | cons d ds ih =>
    rw [List.forall_mem_cons] at valued
    rw [List.foldl_cons, add_ofDirectives es valued.1, ih valued.2, List.append_assoc,
      List.singleton_append]

/-! ### The lines that are looked through -/

theorem isBlank_of_isGap {c : Char} (h : isGap c = true) : isBlank c = true := by
  simp only [isGap, Bool.or_eq_true, beq_iff_eq] at h
  rcases h with (rfl | rfl) | rfl <;> rfl

theorem trim_empty {cs : List Char} (h : ∀ c ∈ cs, isBlank c = true) : trim (String.ofList cs) = "" := by
  have none := dropWhile_all h []
  rw [List.append_nil, List.dropWhile_nil] at none
  rw [trim, String.toList_ofList, trimLeft, none]
  rfl

theorem trim_visible {bs cs e : List Char} {c : Char} (blanks : ∀ b ∈ bs, isBlank b = true)
    (visible : isBlank c = false) (ends : ∀ d ∈ e, isLineEnd d = true) :
    trim (String.ofList (trimRight isLineEnd (bs ++ c :: (cs ++ e)))) =
      String.ofList (c :: trimRight isBlank cs) := by
  have going : isLineEnd c = false := by
    cases h : isLineEnd c with
    | false => rfl
    | true => exact (isBlank_of_isLineEnd h).symm.trans visible
  rw [trim, trimRight_append isLineEnd bs going, String.toList_ofList, trimLeft, dropWhile_all blanks,
    List.dropWhile_cons_of_neg (by simp [visible])]
  have kept := trimRight_append isBlank [] visible (trimRight isLineEnd (cs ++ e))
  rw [List.nil_append, trimRight_lineEnd cs ends] at kept
  rw [kept, List.nil_append]

theorem leadingComments_blank {l : String} (blank : trim l = "") (ls : List String) :
    leadingComments (l :: ls) = leadingComments ls := by
  simp [leadingComments, blank]

theorem leadingComments_visible {l : String} {c : Char} {cs : List Char}
    (visible : trim l = String.ofList (c :: cs)) (ls : List String) :
    leadingComments (l :: ls) = if c = '#' then trim l :: leadingComments ls else [] := by
  rw [leadingComments, visible]
  by_cases hash : c = '#'
  · simp [hash]
  · simp [hash, Ne.symm hash]

def commentsFrom (cs read : List Char) : List String :=
  leadingComments ((linesKept cs read).map fun l => String.ofList (trimRight isLineEnd l))

theorem commentsFrom_gaps {gaps read : List Char} (h : ∀ c ∈ gaps, isGap c = true)
    (hr : ∀ c ∈ read, isGap c = true) (cs : List Char) :
    ∃ read', (∀ c ∈ read', isGap c = true) ∧ commentsFrom (gaps ++ cs) read = commentsFrom cs read' := by
  induction gaps generalizing read with
  | nil => exact ⟨read, hr, rfl⟩
  | cons g gaps ih =>
    rw [List.forall_mem_cons] at h
    have extended : ∀ c ∈ g :: read, isGap c = true := List.forall_mem_cons.mpr ⟨h.1, hr⟩
    by_cases ending : isLineEnd g = true
    · have fresh : ∀ c ∈ ([] : List Char), isGap c = true := by simp
      obtain ⟨read', gap', same⟩ := ih h.2 fresh
      refine ⟨read', gap', ?_⟩
      have apart : ∀ k, g = '\r' → gaps ++ cs = '\n' :: k → False := by
        rintro k rfl
        cases h.1
      have blank : trim (String.ofList (trimRight isLineEnd (g :: read).reverse)) = "" :=
        trim_empty fun c member =>
          isBlank_of_isGap (extended c (List.mem_reverse.mp (mem_trimRight member)))
      rw [← same, commentsFrom, List.cons_append, linesKept.eq_4 _ _ _ apart, if_pos ending, List.map_cons,
        leadingComments_blank blank]
      rfl
    · obtain ⟨read', gap', same⟩ := ih h.2 extended
      refine ⟨read', gap', ?_⟩
      rw [← same, commentsFrom, List.cons_append, linesKept_cons (by simpa using ending)]
      rfl

theorem gaps_body (l : List Char) :
    ∃ gaps, (∀ c ∈ gaps, isGap c = true) ∧ l = gaps ++ l.dropWhile isGap := by
  induction l with
  | nil => exact ⟨[], by simp, rfl⟩
  | cons d l ih =>
    by_cases gap : isGap d = true
    · obtain ⟨gaps, all, same⟩ := ih
      rw [List.dropWhile_cons_of_pos gap]
      exact ⟨d :: gaps, List.forall_mem_cons.mpr ⟨gap, all⟩, congrArg (d :: ·) same⟩
    · rw [List.dropWhile_cons_of_neg gap]
      exact ⟨[], by simp, rfl⟩

theorem commentsFrom_indented (l rest : List Char) :
    ∃ read, (∀ c ∈ read, isGap c = true) ∧
      commentsFrom (l ++ rest) [] = commentsFrom (l.dropWhile isGap ++ rest) read := by
  obtain ⟨gaps, all, parts⟩ := gaps_body l
  have fresh : ∀ c ∈ ([] : List Char), isGap c = true := by simp
  obtain ⟨read, hr, same⟩ := commentsFrom_gaps all fresh (l.dropWhile isGap ++ rest)
  rw [← List.append_assoc, ← parts] at same
  exact ⟨read, hr, same⟩

def IsWhole (l : List Char) : Prop := ∀ c ∈ l.dropWhile isGap, isLineEnd c = false

/-- The leading lines are whole, and the first line with code starts with a visible character. -/
structure IsReadable (ls : List (List Char)) : Prop where
  whole : ∀ l ∈ ls.takeWhile isQuiet, IsWhole l
  visible : ∀ l ∈ (ls.dropWhile isQuiet).head?, ∀ c ∈ (l.dropWhile isGap).head?, isBlank c = false

def isReadable (ls : List (List Char)) : Bool :=
  ((ls.takeWhile isQuiet).all fun l => (l.dropWhile isGap).all (!isLineEnd ·)) &&
    (ls.dropWhile isQuiet).head?.all fun l => (l.dropWhile isGap).head?.all (!isBlank ·)

theorem isReadable_iff {ls : List (List Char)} : isReadable ls = true ↔ IsReadable ls := by
  unfold isReadable
  rw [Bool.and_eq_true, List.all_eq_true, Option.all_eq_true]
  simp only [List.all_eq_true, Option.all_eq_true, Bool.not_eq_true']
  exact ⟨fun ⟨whole, visible⟩ => ⟨whole, visible⟩, fun ⟨whole, visible⟩ => ⟨whole, visible⟩⟩

instance (ls : List (List Char)) : Decidable (IsReadable ls) := decidable_of_iff _ isReadable_iff

def commentOf (l : List Char) : List String :=
  if trim (String.ofList l) = "" then [] else [trim (String.ofList l)]

theorem leadingComments_quiet {l read e : List Char} (quiet : isQuiet l = true)
    (hr : ∀ c ∈ read, isGap c = true) (ends : ∀ c ∈ e, isLineEnd c = true) (ls : List String) :
    leadingComments (String.ofList (trimRight isLineEnd (read ++ l.dropWhile isGap ++ e)) :: ls) =
      commentOf l ++ leadingComments ls := by
  obtain ⟨gaps, all, parts⟩ := gaps_body l
  have blanks : ∀ c ∈ read, isBlank c = true := fun c member => isBlank_of_isGap (hr c member)
  have gapBlanks : ∀ c ∈ gaps, isBlank c = true := fun c member => isBlank_of_isGap (all c member)
  unfold isQuiet at quiet
  unfold commentOf
  cases body : l.dropWhile isGap with
  | nil =>
    rw [body, List.append_nil] at parts
    have empty : trim (String.ofList l) = "" := trim_empty (parts ▸ gapBlanks)
    have blank : trim (String.ofList (trimRight isLineEnd (read ++ [] ++ e))) = "" := by
      refine trim_empty fun c member => ?_
      rw [List.append_nil] at member
      rcases List.mem_append.mp (mem_trimRight member) with h | h
      · exact blanks c h
      · exact isBlank_of_isLineEnd (ends c h)
    rw [leadingComments_blank blank, if_pos empty, List.nil_append]
  | cons c cs =>
    rw [body] at quiet parts
    cases eq_of_beq quiet
    have visible : isBlank '#' = false := rfl
    have here : trim (String.ofList (trimRight isLineEnd (read ++ '#' :: (cs ++ e)))) = _ :=
      trim_visible blanks visible ends
    have there : trim (String.ofList l) = String.ofList ('#' :: trimRight isBlank cs) := by
      rw [parts, trim, String.toList_ofList, trimLeft, dropWhile_all gapBlanks]
      exact congrArg String.ofList (trimRight_append isBlank [] visible cs)
    rw [List.append_assoc, List.cons_append, leadingComments_visible here, if_pos rfl, here, there,
      if_neg (by simp)]
    rfl

theorem leadingComments_code {read cs : List Char} {c : Char} (hr : ∀ c ∈ read, isGap c = true)
    (visible : isBlank c = false) (code : (c == '#') = false) (ls : List String) :
    leadingComments (String.ofList (trimRight isLineEnd (read ++ c :: cs)) :: ls) = [] := by
  have blanks : ∀ c ∈ read, isBlank c = true := fun c member => isBlank_of_isGap (hr c member)
  have here : trim (String.ofList (trimRight isLineEnd (read ++ c :: (cs ++ [])))) = _ :=
    trim_visible blanks visible (by simp)
  rw [List.append_nil] at here
  rw [leadingComments_visible here, if_neg (by simpa using code)]

theorem commentsFrom_code {c : Char} (visible : isBlank c = false) (code : (c == '#') = false)
    {read : List Char} (hr : ∀ c ∈ read, isGap c = true) (cs : List Char) :
    commentsFrom (c :: cs) read = [] := by
  have going : isLineEnd c = false := by
    cases h : isLineEnd c with
    | false => rfl
    | true => exact (isBlank_of_isLineEnd h).symm.trans visible
  obtain ⟨more, others, same⟩ := linesKept_read cs c read
  rw [commentsFrom, linesKept_cons going, same, List.map_cons]
  exact leadingComments_code (fun c member => hr c (List.mem_reverse.mp member)) visible code _

theorem commentsFrom_last {l read : List Char} (quiet : isQuiet l = true) (whole : IsWhole l)
    (hr : ∀ c ∈ read, isGap c = true) : commentsFrom (l.dropWhile isGap) read = commentOf l := by
  have reversed : ∀ c ∈ read.reverse, isGap c = true := fun c member => hr c (List.mem_reverse.mp member)
  have block := leadingComments_quiet quiet reversed
    (by simp : ∀ c ∈ ([] : List Char), isLineEnd c = true) []
  rw [List.append_nil] at block
  rw [commentsFrom, linesKept_last whole]
  split
  next none =>
    rw [none] at block
    simpa [leadingComments, trim, trimLeft, trimRight] using block
  next => simpa [leadingComments] using block

theorem commentsFrom_block {ls : List (List Char)} {cs : List Char}
    (parted : splitAt '\n' (unifyLineEnds cs) = ls) (readable : IsReadable ls) :
    commentsFrom cs [] = (ls.takeWhile isQuiet).flatMap commentOf := by
  induction ls generalizing cs with
  | nil => exact absurd parted (splitAt_ne_nil _ _)
  | cons l ls ih =>
    by_cases quiet : isQuiet l = true
    · have whole := readable.whole l (by simp [quiet])
      have later : IsReadable ls :=
        ⟨fun k member => readable.whole k (by simp [quiet, member]),
          fun k first => readable.visible k (by simpa [quiet] using first)⟩
      rw [List.takeWhile_cons_of_pos quiet, List.flatMap_cons]
      rcases splitAt_unify cs with alone | ⟨l', e, rest, rfl, isBreak, onward⟩
      · rw [alone] at parted
        cases parted
        obtain ⟨read, hr, same⟩ := commentsFrom_indented l []
        rw [List.append_nil, List.append_nil] at same
        rw [same, commentsFrom_last quiet whole hr]
        simp
      · rw [onward] at parted
        cases parted
        obtain ⟨read, hr, same⟩ := commentsFrom_indented l (e ++ rest)
        rw [← List.append_assoc, ← List.append_assoc] at same
        rw [same, commentsFrom, linesKept_break whole isBreak, List.map_cons,
          leadingComments_quiet quiet (fun c member => hr c (List.mem_reverse.mp member)) isBreak.isLineEnd,
          ← ih rfl later]
        rfl
    · obtain ⟨c, body, same⟩ : ∃ c body, l.dropWhile isGap = c :: body := by
        cases h : l.dropWhile isGap with
        | nil => exact absurd (by rw [isQuiet, h]) quiet
        | cons c body => exact ⟨c, body, rfl⟩
      have code : (c == '#') = false := by
        rw [isQuiet, same] at quiet
        simpa using quiet
      have visible : isBlank c = false := readable.visible l (by simp [quiet]) c (by rw [same]; rfl)
      obtain ⟨more, rfl⟩ : ∃ more, cs = l ++ more := by
        rcases splitAt_unify cs with alone | ⟨l', e, rest, rfl, isBreak, onward⟩
        · rw [alone] at parted
          cases parted
          exact ⟨[], by simp⟩
        · rw [onward] at parted
          cases parted
          exact ⟨e ++ rest, by simp⟩
      obtain ⟨read, hr, onward⟩ := commentsFrom_indented l more
      rw [onward, same, List.cons_append, commentsFrom_code visible code hr, List.takeWhile_cons_of_neg quiet]
      rfl

theorem flatMap_commentOf (ls : List (List Char)) :
    (ls.flatMap commentOf).flatMap Directive.ofLine = ls.flatMap directivesOf := by
  induction ls with
  | nil => rfl
  | cons l ls ih =>
    rw [List.flatMap_cons, List.flatMap_cons, List.flatMap_append, ih]
    unfold commentOf directivesOf
    split
    next blank => rw [blank]; rfl
    next => simp

/-- What a cell says about itself is what the directives of its leading lines add up to, wherever no
other line end and no other white space keeps these lines from being told apart. -/
theorem metadata_leadingBlock (src : String) (readable : IsReadable (physicalLines src)) :
    metadata src = Metadata.ofDirectives ((leadingBlock src).flatMap directivesOf) := by
  have block := commentsFrom_block rfl readable
  have valued : ∀ d ∈ (leadingBlock src).flatMap directivesOf, d.value ≠ some "" := fun d member =>
    have ⟨l, _, inside⟩ := List.mem_flatMap.mp member
    Directive.value_scan 0 _ d inside
  have found : (leadingComments (lines src)).flatMap Directive.ofLine =
      (leadingBlock src).flatMap directivesOf := by
    rw [← flatMap_commentOf]
    exact congrArg (List.flatMap Directive.ofLine) block
  rw [metadata, found]
  exact Metadata.foldl_add valued []

theorem metadata_leadingBlock_mixed :
    IsReadable (physicalLines "\x0c# @module lib\r\n\n  # @browser, @node @module\rx = 1\x0b\n# @browser") ∧
      metadata "\x0c# @module lib\r\n\n  # @browser, @node @module\rx = 1\x0b\n# @browser" =
        ⟨.local, some "lib", ["module", "browser", "node", "module"]⟩ := by
  have readable : IsReadable (physicalLines
      "\x0c# @module lib\r\n\n  # @browser, @node @module\rx = 1\x0b\n# @browser") := by
    decide +kernel
  refine ⟨readable, ?_⟩
  rw [metadata_leadingBlock _ readable]
  decide +kernel

/-- A form feed cuts a comment short: the directive after it is not found. -/
theorem metadata_cut_short :
    metadata "# a\x0c @browser" ≠
      Metadata.ofDirectives ((leadingBlock "# a\x0c @browser").flatMap directivesOf) := by
  decide +kernel

end Notebook.Cell
