import Notebook.Display.Layout

/-! How plain data are laid out. A text breaks lines just if something in the value is too wide for a line,
it is the text on one line otherwise, and the level shows only behind its line breaks. -/

set_option autoImplicit false

namespace Notebook.Text

theorem joinWith_cons {sep : String} (t : String) {ts : List String} (full : ts ≠ []) :
    joinWith sep (t :: ts) = t ++ sep ++ joinWith sep ts := by
  cases ts with
  | nil => exact absurd rfl full
  | cons u us => rfl

end Notebook.Text

namespace Notebook.Display

open Notebook.Text

/-! ### Plain data -/

namespace Shown

def isAtom : Shown → Bool
  | .none | .bool _ | .int _ | .str _ => true
  | _ => false

def isContainer : Shown → Bool
  | .list _ | .tuple _ | .dict _ => true
  | _ => false

/-- What stands between the commas of a container: a value, or a key and its value. -/
def items : Shown → List (List Shown)
  | .list xs | .tuple xs => xs.map fun x => [x]
  | .dict es => es.map fun e => [e.1, e.2]
  | _ => []

def parts (v : Shown) : List Shown := v.items.flatten

/-- A container that is not empty and no tuple of one: its items can be put on lines of their own. -/
def isBlock (v : Shown) : Bool :=
  match v with
  | .tuple [_] => false
  | v => v.isContainer && !v.items.isEmpty

def opening : Shown → String
  | .list _ => "["
  | .tuple _ => "("
  | _ => "\x7b"

def closing : Shown → String
  | .list _ => "]"
  | .tuple _ => ")"
  | _ => "\x7d"

/-- A block whose text on one line is longer than the width between its brackets allows. -/
def isWide (s : Style) (v : Shown) : Prop := v.isBlock = true ∧ s.inlineWidth + 2 < (v.quoted.length : Int)

end Shown

/-- Data made of atoms by lists, tuples and dictionaries. -/
inductive Plain : Shown → Prop
  | atom {v : Shown} (atom : v.isAtom = true) : Plain v
  | container {v : Shown} (container : v.isContainer = true) (parts : ∀ p ∈ v.parts, Plain p) : Plain v

/-- The values nested in a value, itself included. -/
inductive Within (v : Shown) : Shown → Prop
  | self : Within v v
  | part {w p : Shown} (within : Within v w) (inside : p ∈ w.parts) : Within v p

theorem Within.inside {v w p : Shown} (inside : p ∈ v.parts) (within : Within p w) : Within v w := by
  induction within with
  | self => exact .part .self inside
  | part _ deeper ih => exact .part ih deeper

theorem within_iff {v w : Shown} : Within v w ↔ w = v ∨ ∃ p ∈ v.parts, Within p w := by
  constructor
  · intro within
    induction within with
    | self => exact .inl rfl
    | @part w p _ deeper ih =>
      rcases ih with rfl | ⟨q, inside, within⟩
      · exact .inr ⟨p, deeper, .self⟩
      · exact .inr ⟨q, inside, .part within deeper⟩
  · rintro (rfl | ⟨p, inside, within⟩)
    · exact .self
    · exact .inside inside within

namespace Shown

variable {v : Shown} {s : Style}

theorem items_atom (atom : v.isAtom = true) : v.items = [] := by
  unfold isAtom at atom
  split at atom
  all_goals first | rfl | cases atom

theorem items_block (block : v.isBlock = true) : v.items ≠ [] := by
  intro none
  unfold isBlock at block
  split at block
  · cases block
  · simp [none] at block

theorem not_isWide (none : v.items = []) : ¬ v.isWide s := fun wide => items_block wide.1 none

theorem wide_within_iff :
    (∃ c, Within v c ∧ c.isWide s) ↔ v.isWide s ∨ ∃ p ∈ v.parts, ∃ c, Within p c ∧ c.isWide s := by
  constructor
  · rintro ⟨c, within, wide⟩
    rcases within_iff.mp within with rfl | ⟨p, inside, within⟩
    · exact .inl wide
    · exact .inr ⟨p, inside, c, within, wide⟩
  · rintro (wide | ⟨p, inside, c, within, wide⟩)
    · exact ⟨v, .self, wide⟩
    · exact ⟨c, .inside inside within, wide⟩

theorem not_wide_within (none : v.items = []) : ¬ ∃ c, Within v c ∧ c.isWide s := by
  rw [wide_within_iff]
  simp [not_isWide none, parts, none]

end Shown

/-! ### Line breaks -/

theorem hasLineBreak_append (t u : String) : hasLineBreak (t ++ u) = (hasLineBreak t || hasLineBreak u) := by
  simp [hasLineBreak]

theorem hasLineBreak_joinWith (sep : String) (single : hasLineBreak sep = false) (ts : List String) :
    hasLineBreak (joinWith sep ts) = ts.any hasLineBreak := by
  induction ts with
  | nil => rfl
  | cons t ts ih =>
    by_cases last : ts = []
    · simp [last, joinWith]
    · simp [joinWith_cons t last, hasLineBreak_append, single, ih]

/-- A text with one more unit of indentation behind every line break. -/
def Style.indentBreaks (s : Style) (t : String) : String :=
  String.ofList (t.toList.flatMap fun c => if c = '\n' then c :: List.replicate s.indentWidth.toNat ' ' else [c])

section

variable (s : Style)

theorem indentBreaks_append (t u : String) : s.indentBreaks (t ++ u) = s.indentBreaks t ++ s.indentBreaks u := by
  simp [Style.indentBreaks]

theorem indentBreaks_same {t : String} (single : hasLineBreak t = false) : s.indentBreaks t = t := by
  have absent : '\n' ∉ t.toList := by simpa [hasLineBreak] using single
  have same (c : Char) (member : c ∈ t.toList) :
      (if c = '\n' then c :: List.replicate s.indentWidth.toNat ' ' else [c]) = [c] :=
    if_neg fun here => absent (by rw [← here]; exact member)
  rw [Style.indentBreaks, List.flatMap_def, List.map_congr_left same, ← List.flatMap_def, List.flatMap_singleton',
    String.ofList_toList]

theorem hasLineBreak_indentBreaks (t : String) : hasLineBreak (s.indentBreaks t) = hasLineBreak t := by
  unfold hasLineBreak Style.indentBreaks
  rw [String.toList_ofList]
  induction t.toList with
  | nil => rfl
  | cons c cs ih =>
    by_cases here : c = '\n' <;> simp_all

theorem indentBreaks_joinWith (sep : String) (single : hasLineBreak sep = false) (ts : List String) :
    s.indentBreaks (joinWith sep ts) = joinWith sep (ts.map s.indentBreaks) := by
  induction ts with
  | nil => rfl
  | cons t ts ih =>
    by_cases last : ts = []
    · simp [last, joinWith]
    · rw [joinWith_cons t last, List.map_cons, joinWith_cons _ (by simpa using last), indentBreaks_append,
        indentBreaks_append, indentBreaks_same s single, ih]

theorem indentBreaks_lineBreak : s.indentBreaks "\n" = "\n" ++ s.indent 1 := by
  simp [Style.indentBreaks, Style.indent]

theorem indent_succ {level : Int} (h : 0 ≤ level) : s.indent (level + 1) = s.indent 1 ++ s.indent level := by
  obtain ⟨n, rfl⟩ := Int.eq_ofNat_of_zero_le h
  have units : s.indentWidth.toNat * (n + 1) = s.indentWidth.toNat * 1 + s.indentWidth.toNat * n := by
    rw [Nat.mul_one, Nat.mul_succ, Nat.add_comm]
  simp only [Style.indent, ← String.ofList_append, List.replicate_append_replicate]
  exact congrArg (fun k => String.ofList (List.replicate k ' ')) units

theorem hasLineBreak_indent (level : Int) : hasLineBreak (s.indent level) = false := by
  simp [hasLineBreak, Style.indent, List.mem_replicate]

theorem indentBreaks_lines (ls : List String) (full : ls ≠ []) :
    s.indentBreaks ("\n" ++ joinWith "\n" ls)
      = "\n" ++ joinWith "\n" (ls.map fun l => s.indent 1 ++ s.indentBreaks l) := by
  induction ls with
  | nil => exact absurd rfl full
  | cons l ls ih =>
    by_cases last : ls = []
    · simp [last, joinWith, indentBreaks_append, indentBreaks_lineBreak, String.append_assoc]
    · have rest := ih last
      rw [joinWith_cons l last, List.map_cons, joinWith_cons _ (by simpa using last)]
      simp only [indentBreaks_append, indentBreaks_lineBreak, String.append_assoc] at rest ⊢
      rw [rest]

end

/-! ### Blocks -/

/-- Items on lines of their own, one level further in than their brackets. -/
def spread (s : Style) (level : Int) (o c : String) (ts : List String) : String :=
  o ++ ("\n" ++ joinWith "\n" (ts.map fun i => s.indent (level + 1) ++ i ++ ",")) ++ "\n" ++ s.indent level ++ c

section

variable (s : Style) (level : Int) {o c : String} {ts : List String}

theorem block_eq (full : ts ≠ []) : block s level o c ts
    = if hasLineBreak (joinWith ", " ts) = false ∧ ((joinWith ", " ts).length : Int) ≤ s.inlineWidth
      then o ++ joinWith ", " ts ++ c else spread s level o c ts := by
  simp [block, spread, full, String.append_assoc]

variable (opened : hasLineBreak o = false) (closed : hasLineBreak c = false)

include opened closed

theorem hasLineBreak_block_iff : hasLineBreak (block s level o c ts) = true ↔
    ts ≠ [] ∧ ((∃ t ∈ ts, hasLineBreak t = true) ∨ s.inlineWidth < ((joinWith ", " ts).length : Int)) := by
  by_cases full : ts = []
  · simp [full, block, hasLineBreak_append, opened, closed]
  have row : hasLineBreak (joinWith ", " ts) = ts.any hasLineBreak := hasLineBreak_joinWith ", " rfl _
  rw [block_eq s level full, ← List.any_eq_true, ← row]
  split
  next fits => simp [hasLineBreak_append, opened, closed, fits.1, Int.not_lt.mpr fits.2]
  next broken =>
    have breaks : hasLineBreak "\n" = true := rfl
    rw [← Bool.not_eq_true, not_and, Int.not_le] at broken
    simp only [spread, hasLineBreak_append, breaks, Bool.true_or, Bool.or_true, true_iff]
    exact ⟨full, Classical.or_iff_not_imp_left.mpr broken⟩

theorem block_row (quiet : hasLineBreak (block s level o c ts) = false) :
    block s level o c ts = o ++ joinWith ", " ts ++ c := by
  by_cases full : ts = []
  · simp [full, block, joinWith]
  have broken : hasLineBreak (block s level o c ts) = true ↔ _ := hasLineBreak_block_iff s level opened closed
  have fits := (not_congr broken).mp (by simp [quiet])
  rw [not_and, not_or, Int.not_lt, ← List.any_eq_true, Bool.not_eq_true, 
    ← hasLineBreak_joinWith ", " rfl] at fits
  rw [block_eq s level full, if_pos (fits full)]

variable {level} (h : 0 ≤ level)

include h

theorem spread_succ (full : ts ≠ []) :
    spread s (level + 1) o c (ts.map s.indentBreaks) = s.indentBreaks (spread s level o c ts) := by
  have lines := indentBreaks_lines s (ts.map fun i => s.indent (level + 1) ++ i ++ ",") (by simpa using full)
  have line (i : String) : s.indent 1 ++ s.indentBreaks (s.indent (level + 1) ++ i ++ ",")
      = s.indent (level + 1 + 1) ++ s.indentBreaks i ++ "," := by
    rw [indentBreaks_append, indentBreaks_append, indentBreaks_same s (hasLineBreak_indent s _),
      indentBreaks_same s (t := ",") rfl, indent_succ s (show 0 ≤ level + 1 by omega)]
    simp only [String.append_assoc]
  rw [List.map_map] at lines
  have whole : (fun l => s.indent 1 ++ s.indentBreaks l) ∘ (fun i => s.indent (level + 1) ++ i ++ ",")
      = (fun i => s.indent (level + 1 + 1) ++ i ++ ",") ∘ s.indentBreaks := funext line
  rw [whole, ← List.map_map] at lines
  unfold spread
  rw [indentBreaks_append, indentBreaks_append, indentBreaks_append, indentBreaks_append, lines,
    indentBreaks_lineBreak, indentBreaks_same s opened, indentBreaks_same s closed,
    indentBreaks_same s (hasLineBreak_indent s _), indent_succ s h]
  simp only [String.append_assoc]

theorem block_succ :
    block s (level + 1) o c (ts.map s.indentBreaks) = s.indentBreaks (block s level o c ts) := by
  by_cases full : ts = []
  · simp [full, block, indentBreaks_append, indentBreaks_same s opened, indentBreaks_same s closed]
  rw [block_eq s _ full, block_eq s _ (by simpa using full), ← indentBreaks_joinWith s ", " rfl,
    hasLineBreak_indentBreaks, spread_succ s opened closed h full]
  by_cases quiet : hasLineBreak (joinWith ", " ts) = false
  · -- The row stays what it is, so its length decides as before.
    rw [indentBreaks_same s quiet]
    split
    next => simp only [indentBreaks_append, indentBreaks_same s opened, indentBreaks_same s closed,
      indentBreaks_same s quiet]
    next => rfl
  · rw [if_neg (fun both => quiet both.1), if_neg (fun both => quiet both.1)]

end

/-! ### Values -/

namespace Shown

/-- The texts of what stands between the commas of a container, made of those of its parts. -/
def itemTexts (v : Shown) (f : Shown → String) : List String := v.items.map fun vs => joinWith ": " (vs.map f)

variable {v : Shown} (f g : Shown → String)

theorem itemTexts_congr (same : ∀ p ∈ v.parts, f p = g p) : v.itemTexts f = v.itemTexts g := by
  refine List.map_congr_left fun vs member => ?_
  refine congrArg _ (List.map_congr_left fun p inside => same p ?_)
  exact List.mem_flatten.mpr ⟨vs, member, inside⟩

theorem itemTexts_block (block : v.isBlock = true) : v.itemTexts f ≠ [] := by
  simpa [itemTexts] using items_block block

theorem hasLineBreak_itemTexts :
    (∃ t ∈ v.itemTexts f, hasLineBreak t = true) ↔ ∃ p ∈ v.parts, hasLineBreak (f p) = true := by
  have row (vs : List Shown) : hasLineBreak (joinWith ": " (vs.map f)) = true ↔ ∃ p ∈ vs, hasLineBreak (f p) = true := by
    simp [hasLineBreak_joinWith ": " rfl]
  constructor
  · rintro ⟨t, member, here⟩
    obtain ⟨vs, listed, rfl⟩ := List.mem_map.mp member
    obtain ⟨p, inside, here⟩ := (row vs).mp here
    exact ⟨p, List.mem_flatten.mpr ⟨vs, listed, inside⟩, here⟩
  · rintro ⟨p, inside, here⟩
    obtain ⟨vs, listed, inside⟩ := List.mem_flatten.mp inside
    exact ⟨_, List.mem_map.mpr ⟨vs, listed, rfl⟩, (row vs).mpr ⟨p, inside, here⟩⟩

theorem map_itemTexts (s : Style) : (v.itemTexts f).map s.indentBreaks = v.itemTexts fun p => s.indentBreaks (f p) := by
  rw [itemTexts, itemTexts, List.map_map]
  refine List.map_congr_left fun vs _ => ?_
  rw [Function.comp_apply, indentBreaks_joinWith s ": " rfl, List.map_map]
  rfl

theorem hasLineBreak_opening (v : Shown) : hasLineBreak v.opening = false := by unfold opening; split <;> rfl

theorem hasLineBreak_closing (v : Shown) : hasLineBreak v.closing = false := by unfold closing; split <;> rfl

theorem length_brackets (v : Shown) (t : String) : (v.opening ++ t ++ v.closing).length = t.length + 2 := by
  have opening : v.opening.length = 1 := by unfold Shown.opening; split <;> rfl
  have closing : v.closing.length = 1 := by unfold Shown.closing; split <;> rfl
  rw [String.length_append, String.length_append, opening, closing]
  omega

end Shown

/-! ### Atoms -/

theorem mem_toDigits {b n : Nat} {c : Char} (base : 1 < b) (h : c ∈ Nat.toDigits b n) : ∃ d < b, c = d.digitChar := by
  induction n using Nat.strongRecOn with
  | ind n ih =>
    rw [Nat.toDigits_eq_if base] at h
    split at h
    next small => exact ⟨n, small, List.mem_singleton.mp h⟩
    next large =>
      rcases List.mem_append.mp h with front | last
      · exact ih (n / b) (Nat.div_lt_self (by omega) base) front
      · exact ⟨n % b, Nat.mod_lt _ (by omega), List.mem_singleton.mp last⟩

theorem lineBreak_notMem_toDigits {b n : Nat} (base : 1 < b) : '\n' ∉ Nat.toDigits b n := by
  intro h
  obtain ⟨d, -, here⟩ := mem_toDigits base h
  exact Nat.digitChar_ne '\n' (by decide) here.symm

theorem lineBreak_notMem_hexDigits (width n : Nat) : '\n' ∉ hexDigits width n := by
  simp [hexDigits, lineBreak_notMem_toDigits, List.mem_replicate]

theorem lineBreak_notMem_escape (c : Char) : '\n' ∉ escape c := by
  fun_cases escape c <;> simp [lineBreak_notMem_hexDigits]

theorem lineBreak_notMem_quotedChar {q : Char} (mark : q ≠ '\n') (c : Char) : '\n' ∉ quotedChar q c := by
  unfold quotedChar
  split
  next own => simpa [eq_of_beq own] using mark.symm
  next =>
    split
    next => exact lineBreak_notMem_escape c
    next shown =>
      intro here
      rw [← List.mem_singleton.mp here] at shown
      exact shown (by decide)

theorem quoteFor_cases (cs : List Char) : quoteFor cs = '"' ∨ quoteFor cs = '\'' := by
  unfold quoteFor
  split
  · exact .inl rfl
  · exact .inr rfl

theorem hasLineBreak_quote (t : String) : hasLineBreak (quote t) = false := by
  have mark : quoteFor t.toList ≠ '\n' := by rcases quoteFor_cases t.toList with h | h <;> rw [h] <;> decide
  simp [hasLineBreak, quote, mark.symm, lineBreak_notMem_quotedChar mark]

theorem hasLineBreak_int (n : Int) : hasLineBreak (toString n) = false := by
  rw [Int.toString_eq_repr, Int.repr_eq_if]
  split <;> simp [hasLineBreak, lineBreak_notMem_toDigits]

theorem layout_atom {v : Shown} (s : Style) (level : Int) (atom : v.isAtom = true) : v.layout s level = v.quoted := by
  unfold Shown.isAtom at atom
  split at atom
  all_goals first | rfl | cases atom

theorem hasLineBreak_atom {v : Shown} (atom : v.isAtom = true) : hasLineBreak v.quoted = false := by
  match v with
  | .none => rfl
  | .bool b => cases b <;> rfl
  | .int n => exact hasLineBreak_int n
  | .str t => exact hasLineBreak_quote t

/-! ### Containers -/

theorem layoutAll_eq (s : Style) (level : Int) (xs : List Shown) :
    layoutAll s level xs = xs.map (·.layout s level) := by
  induction xs with
  | nil => rfl
  | cons x xs ih => exact congrArg (x.layout s level :: ·) ih

theorem layoutEntries_eq (s : Style) (level : Int) (es : List (Shown × Shown)) :
    layoutEntries s level es = es.map fun e => e.1.layout s level ++ ": " ++ e.2.layout s level := by
  induction es with
  | nil => rfl
  | cons e es ih => exact congrArg ((e.1.layout s level ++ ": " ++ e.2.layout s level) :: ·) ih

theorem quotedAll_eq (xs : List Shown) : quotedAll xs = xs.map Shown.quoted := by
  induction xs with
  | nil => rfl
  | cons x xs ih => exact congrArg (x.quoted :: ·) ih

theorem quotedEntries_eq (es : List (Shown × Shown)) :
    quotedEntries es = es.map fun e => e.1.quoted ++ ": " ++ e.2.quoted := by
  induction es with
  | nil => rfl
  | cons e es ih => exact congrArg ((e.1.quoted ++ ": " ++ e.2.quoted) :: ·) ih

section

variable {v : Shown} (s : Style)

theorem layout_list (level : Int) (xs : List Shown) :
    (Shown.list xs).layout s level = block s level "[" "]" (xs.map (·.layout s (level + 1))) :=
  congrArg (block s level "[" "]") (layoutAll_eq s (level + 1) xs)

theorem layout_one (level : Int) (x : Shown) :
    (Shown.tuple [x]).layout s level = "(" ++ x.layout s (level + 1) ++ ",)" := rfl

theorem layout_tuple (level : Int) {xs : List Shown} (many : ∀ x, xs ≠ [x]) :
    (Shown.tuple xs).layout s level = block s level "(" ")" (xs.map (·.layout s (level + 1))) := by
  match xs with
  | [] => rfl
  | [x] => exact absurd rfl (many x)
  | x :: y :: zs => exact congrArg (block s level "(" ")") (layoutAll_eq s (level + 1) (x :: y :: zs))

theorem layout_dict (level : Int) (es : List (Shown × Shown)) :
    (Shown.dict es).layout s level = block s level "\x7b" "\x7d"
      (es.map fun e => e.1.layout s (level + 1) ++ ": " ++ e.2.layout s (level + 1)) :=
  congrArg (block s level "\x7b" "\x7d") (layoutEntries_eq s (level + 1) es)

theorem layout_block (level : Int) (h : v.isBlock = true) :
    v.layout s level = block s level v.opening v.closing (v.itemTexts (·.layout s (level + 1))) := by
  match v with
  | .list xs => rw [layout_list, Shown.itemTexts, Shown.items, List.map_map]; rfl
  | .tuple [] => cases h
  | .tuple [x] => cases h
  | .tuple (x :: y :: zs) =>
    rw [layout_tuple s level (by simp), Shown.itemTexts, Shown.items, List.map_map]
    rfl
  | .dict es => rw [layout_dict, Shown.itemTexts, Shown.items, List.map_map]; rfl

theorem quoted_block (h : v.isBlock = true) :
    v.quoted = v.opening ++ joinWith ", " (v.itemTexts Shown.quoted) ++ v.closing := by
  match v with
  | .list xs =>
    rw [Shown.itemTexts, Shown.items, List.map_map]
    exact congrArg (fun ts => "[" ++ joinWith ", " ts ++ "]") (quotedAll_eq xs)
  | .tuple [] => cases h
  | .tuple [x] => cases h
  | .tuple (x :: y :: zs) =>
    rw [Shown.itemTexts, Shown.items, List.map_map]
    exact congrArg (fun ts => "(" ++ joinWith ", " ts ++ ")") (quotedAll_eq (x :: y :: zs))
  | .dict es =>
    rw [Shown.itemTexts, Shown.items, List.map_map]
    exact congrArg (fun ts => "\x7b" ++ joinWith ", " ts ++ "\x7d") (quotedEntries_eq es)

theorem container_cases (h : v.isContainer = true) :
    (v.items = [] ∧ ∀ level, v.layout s level = v.opening ++ v.closing ∧ v.quoted = v.opening ++ v.closing) ∨
      (∃ x, v = .tuple [x]) ∨ v.isBlock = true := by
  match v with
  | .list [] | .tuple [] | .dict [] => exact .inl ⟨rfl, fun _ => ⟨rfl, rfl⟩⟩
  | .tuple [x] => exact .inr (.inl ⟨x, rfl⟩)
  | .list (_ :: _) | .tuple (_ :: _ :: _) | .dict (_ :: _) => exact .inr (.inr rfl)

theorem layout_quoted {level : Int} (plain : Plain v) (quiet : hasLineBreak (v.layout s level) = false) :
    v.layout s level = v.quoted := by
  induction plain generalizing level with
  | atom atom => exact layout_atom s level atom
  | @container v container _ ih =>
    rcases container_cases s container with ⟨-, empty⟩ | ⟨x, rfl⟩ | block
    · rw [(empty level).1, (empty level).2]
    · simp only [layout_one, hasLineBreak_append, Bool.or_eq_false_iff] at quiet
      rw [layout_one, ih x (List.mem_singleton_self x) quiet.1.2]
      rfl
    · rw [layout_block s level block] at quiet ⊢
      have row := block_row s level v.hasLineBreak_opening v.hasLineBreak_closing quiet
      rw [row, hasLineBreak_append, hasLineBreak_append, hasLineBreak_joinWith ", " rfl, Bool.or_eq_false_iff,
        Bool.or_eq_false_iff, List.any_eq_false] at quiet
      have calm : ∀ p ∈ v.parts, hasLineBreak (p.layout s (level + 1)) = false := by
        intro p inside
        refine Bool.eq_false_iff.mpr fun here => ?_
        obtain ⟨t, member, broken⟩ := (Shown.hasLineBreak_itemTexts (·.layout s (level + 1))).mpr ⟨p, inside, here⟩
        exact quiet.1.2 t member broken
      rw [row, quoted_block block, Shown.itemTexts_congr _ _ fun p inside => ih p inside (calm p inside)]

theorem hasLineBreak_layout_iff {level : Int} (plain : Plain v) :
    hasLineBreak (v.layout s level) = true ↔ ∃ c, Within v c ∧ c.isWide s := by
  induction plain generalizing level with
  | @atom v atom =>
    have quiet : hasLineBreak (v.layout s level) = false := by rw [layout_atom s level atom, hasLineBreak_atom atom]
    simp only [quiet, Shown.not_wide_within (Shown.items_atom atom), Bool.false_eq_true]
  | @container v container plain ih =>
    rcases container_cases s container with ⟨none, empty⟩ | ⟨x, rfl⟩ | block
    · simp only [(empty level).1, hasLineBreak_append, Shown.hasLineBreak_opening, Shown.hasLineBreak_closing,
        Shown.not_wide_within none, Bool.or_self, Bool.false_eq_true]
    · have item : hasLineBreak (x.layout s (level + 1)) = true ↔ _ := ih x (List.mem_singleton_self x)
      have narrow : ¬ (Shown.tuple [x]).isWide s := fun wide => absurd wide.1 (by simp [Shown.isBlock])
      have brackets : hasLineBreak "(" = false ∧ hasLineBreak ",)" = false := ⟨rfl, rfl⟩
      simp only [layout_one, hasLineBreak_append, brackets, Bool.or_false, Bool.false_or]
      rw [item, Shown.wide_within_iff (v := .tuple [x])]
      simp [narrow, Shown.parts, Shown.items]
    · rw [layout_block s level block, Shown.wide_within_iff,
        hasLineBreak_block_iff s level v.hasLineBreak_opening v.hasLineBreak_closing,
        and_iff_right (Shown.itemTexts_block _ block), Shown.hasLineBreak_itemTexts (·.layout s (level + 1))]
      have inner : (∃ p ∈ v.parts, hasLineBreak (p.layout s (level + 1)) = true)
          ↔ ∃ p ∈ v.parts, ∃ c, Within p c ∧ c.isWide s :=
        exists_congr fun p => and_congr_right fun inside => ih p inside
      by_cases broken : ∃ p ∈ v.parts, hasLineBreak (p.layout s (level + 1)) = true
      · exact iff_of_true (.inl broken) (.inr (inner.mp broken))
      · -- With no break further in, the row of the items is that of the text on one line.
        have same : ∀ p ∈ v.parts, p.layout s (level + 1) = p.quoted := fun p inside =>
          layout_quoted s (plain p inside) (Bool.eq_false_iff.mpr fun here => broken ⟨p, inside, here⟩)
        have long : v.isWide s ↔ s.inlineWidth < ((joinWith ", " (v.itemTexts Shown.quoted)).length : Int) := by
          rw [Shown.isWide, and_iff_right block, quoted_block block, Shown.length_brackets]
          omega
        rw [Shown.itemTexts_congr _ _ same, ← inner, long, or_iff_right broken, or_iff_left broken]

theorem layout_succ {level : Int} (plain : Plain v) (h : 0 ≤ level) :
    v.layout s (level + 1) = s.indentBreaks (v.layout s level) := by
  induction plain generalizing level with
  | atom atom =>
    rw [layout_atom s _ atom, layout_atom s _ atom, indentBreaks_same s (hasLineBreak_atom atom)]
  | @container v container _ ih =>
    rcases container_cases s container with ⟨-, empty⟩ | ⟨x, rfl⟩ | block
    · rw [(empty _).1, (empty _).1, indentBreaks_append, indentBreaks_same s v.hasLineBreak_opening,
        indentBreaks_same s v.hasLineBreak_closing]
    · simp only [layout_one, indentBreaks_append]
      rw [ih x (List.mem_singleton_self x) (by omega), indentBreaks_same s (t := "(") rfl,
        indentBreaks_same s (t := ",)") rfl]
    · rw [layout_block s _ block, layout_block s _ block,
        Shown.itemTexts_congr _ _ fun p inside => ih p inside (show 0 ≤ level + 1 by omega),
        ← Shown.map_itemTexts, block_succ s v.hasLineBreak_opening v.hasLineBreak_closing h]

/-- The layout of plain data is minimal, as it breaks lines only where something is too wide for one, and
compositional, as a level further in only puts one more unit of indentation behind each line break. -/
theorem layout_minimal_compositional (plain : Plain v) {level : Int} (h : 0 ≤ level) :
    (hasLineBreak (v.layout s level) = true ↔ ∃ c, Within v c ∧ c.isWide s) ∧
      (hasLineBreak (v.layout s level) = false → v.layout s level = v.quoted) ∧
      v.layout s (level + 1) = s.indentBreaks (v.layout s level) :=
  ⟨hasLineBreak_layout_iff s plain, layout_quoted s plain, layout_succ s plain h⟩

end

/-- A tuple of one around a list that is two characters too long, at the first level. -/
theorem layout_minimal_compositional_tuple :
    let v : Shown := .tuple [.list [.str "a\n", .int (-7)]]
    let s : Style := { indentWidth := 4, inlineWidth := 7 }
    (Plain v ∧ (0 : Int) ≤ 1) ∧ v.layout s 1 = "([\n            'a\\n',\n            -7,\n        ],)" ∧
      (hasLineBreak (v.layout s 1) = true ↔ ∃ c, Within v c ∧ c.isWide s) ∧
      (hasLineBreak (v.layout s 1) = false → v.layout s 1 = v.quoted) ∧
      v.layout s (1 + 1) = s.indentBreaks (v.layout s 1) := by
  intro v s
  have items : Plain (.list [.str "a\n", .int (-7)]) :=
    .container rfl (by simpa [Shown.parts, Shown.items] using And.intro (.atom rfl) (.atom rfl))
  have plain : Plain v := .container rfl (by simpa [v, Shown.parts, Shown.items] using items)
  exact ⟨⟨plain, by decide⟩, by decide +kernel, layout_minimal_compositional s plain (by decide)⟩

end Notebook.Display
