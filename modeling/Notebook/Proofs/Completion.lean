import Notebook.Cell.Inspect
import Notebook.Proofs.Rewriting
import Notebook.Proofs.Written

/-! Completing a name and telling what is known of one agree: both find the run of a name's characters at a
position, and a name that is known is among its own completions. -/

set_option autoImplicit false

namespace Notebook.Cell

open Notebook.Text
open Notebook.Code (of_toOption_any)

/-! ### Runs of a name's characters -/

/-- A text around a position. What stands before the position from `run` on, and after it as far as `after`,
are characters of a name; there are no more of them on either side. -/
structure Around (cs : List Char) (position : Nat) (left run after right : List Char) : Prop where
  parts : cs = left ++ run ++ (after ++ right)
  position : (left ++ run).length = position
  runWord : ∀ c ∈ run, isWord c = true
  afterWord : ∀ c ∈ after, isWord c = true
  leftEnd : ∀ c ∈ left.getLast?, isWord c = false
  rightEnd : ∀ c ∈ right.head?, isWord c = false

theorem head?_dropWhile {p : Char → Bool} {cs : List Char} {c : Char} (h : (cs.dropWhile p).head? = some c) :
    p c = false := by
  have stop := List.head?_dropWhile_not (p := p) (l := cs)
  rwa [h] at stop

theorem mem_takeWhile {p : Char → Bool} {cs : List Char} {c : Char} (h : c ∈ cs.takeWhile p) : p c = true :=
  List.all_eq_true.mp List.all_takeWhile c h

theorem around (cs : List Char) {position : Nat} (inside : position ≤ cs.length) :
    ∃ left right, Around cs position left (wordBefore cs position) (wordAfter cs position) right := by
  have split : ((cs.take position).reverse.dropWhile isWord).reverse ++ wordBefore cs position =
      cs.take position := by
    rw [wordBefore, ← List.reverse_append, List.takeWhile_append_dropWhile, List.reverse_reverse]
  have onward : wordAfter cs position ++ (cs.drop position).dropWhile isWord = cs.drop position :=
    List.takeWhile_append_dropWhile
  refine ⟨((cs.take position).reverse.dropWhile isWord).reverse, (cs.drop position).dropWhile isWord, ?_⟩
  constructor
  case parts => rw [split, onward, List.take_append_drop]
  case position => rw [split, List.length_take, Nat.min_eq_left inside]
  case runWord => exact fun c h => mem_takeWhile (List.mem_reverse.mp h)
  case afterWord => exact fun c h => mem_takeWhile h
  case leftEnd =>
    intro c h
    rw [List.getLast?_reverse] at h
    exact head?_dropWhile h
  case rightEnd => exact fun c h => head?_dropWhile h

theorem clampPosition_le (position : Int) (length : Nat) : clampPosition position length ≤ length :=
  Nat.min_le_right _ _

theorem clampPosition_eq (position : Int) (length : Nat) :
    (clampPosition position length : Int) = max 0 (min position length) := by
  unfold clampPosition
  omega

/-! ### Names in order -/

theorem codePointLe_iff {a b : String} : Compiler.codePointLe a b = true ↔ a ≤ b := by
  rw [Compiler.codePointLe, decide_eq_true_eq]

theorem sorted_names (ns : List String) : ((ns.eraseDups).mergeSort Compiler.codePointLe).Pairwise (· < ·) := by
  have sorted := @List.pairwise_mergeSort _ Compiler.codePointLe
    (fun a b c first second => codePointLe_iff.mpr (String.le_trans (codePointLe_iff.mp first) (codePointLe_iff.mp second)))
    (fun a b => by
      rw [Bool.or_eq_true, codePointLe_iff, codePointLe_iff]
      exact String.le_total a b) ns.eraseDups
  have distinct : ((ns.eraseDups).mergeSort Compiler.codePointLe).Nodup :=
    (List.mergeSort_perm _ _).nodup_iff.mpr (nodup_eraseDups ns)
  refine List.Pairwise.imp₂ (fun a b le apart => ?_) sorted distinct
  exact String.not_le.mp fun back => apart (String.le_antisymm (codePointLe_iff.mp le) back)

/-! ### What is in scope -/

/-- The names that a cell can use. -/
def Compiler.pool (c : Compiler) (entries : Declarations) : List String :=
  entries.names ++ builtinNames ++ keywords ++ c.extraGlobals

/-- Whether a name can stand in place of what is written; one that starts with an underscore has to be asked
for by it. -/
def Completes (run : List Char) (n : String) : Prop :=
  run <+: n.toList ∧ (n.toList.head? = some '_' → run.head? = some '_')

theorem startsWith_underscore (s : String) : s.startsWith "_" = true ↔ s.toList.head? = some '_' := by
  rw [String.startsWith_string_iff]
  cases s.toList with
  | nil => simp
  | cons c cs => simp [eq_comm]

theorem lookup_isSome (entries : Declarations) (n : String) :
    (entries.lookup n).isSome = true ↔ n ∈ entries.names := by
  rw [List.lookup_isSome_iff, Declarations.names, List.mem_map]
  exact exists_congr fun d => and_congr_right fun _ => beq_iff_eq.trans eq_comm

theorem builtin?_isSome (n : String) : (builtin? n).isSome = true ↔ n ∈ builtinNames := by
  rw [builtin?, List.find?_isSome, builtinNames]
  simp only [beq_iff_eq, List.mem_map]

namespace Compiler

variable {prior src : String} {entries : Declarations}

theorem dotted_iff {cs left run after right : List Char} {position : Nat}
    (places : Around cs position left run after right) :
    (decide (position - run.length > 0) && cs[position - run.length - 1]? == some '.') = true ↔
      left.getLast? = some '.' := by
  have start : position - run.length = left.length := by
    rw [← places.position, List.length_append, Nat.add_sub_cancel]
  rw [start, Bool.and_eq_true, decide_eq_true_eq, beq_iff_eq]
  cases left with
  | nil => simp
  | cons c cs =>
    have last : cs.length < (c :: cs).length := Nat.lt_succ_self _
    rw [places.parts, List.append_assoc, List.getElem?_append_left (by simp), List.getLast?_eq_getElem?]
    simp

theorem complete_eq (c : Compiler) (found : scopeEntries prior src = .ok entries) (position : Int)
    {left after right : List Char}
    (places : Around src.toList (clampPosition position src.toList.length) left
      (wordBefore src.toList (clampPosition position src.toList.length)) after right) :
    ∃ names, c.complete prior src position =
        .ok ⟨left.length, clampPosition position src.toList.length, names⟩ ∧
      names.Pairwise (· < ·) ∧
      ∀ n, n ∈ names ↔ left.getLast? ≠ some '.' ∧ n ∈ c.pool entries ∧
        Completes (wordBefore src.toList (clampPosition position src.toList.length)) n := by
  have start := places.position
  have dotted := dotted_iff places
  unfold complete
  dsimp only
  generalize wordBefore src.toList (clampPosition position src.toList.length) = run at *
  generalize clampPosition position src.toList.length = stop at *
  have begins : stop - run.length = left.length := by
    rw [← start, List.length_append, Nat.add_sub_cancel]
  by_cases dot : left.getLast? = some '.'
  · rw [if_pos (dotted.mpr dot), begins]
    exact ⟨[], rfl, .nil, by simp [dot]⟩
  · rw [if_neg (fun h => dot (dotted.mp h)), found, begins]
    refine ⟨_, rfl, sorted_names _, fun n => ?_⟩
    rw [List.mem_mergeSort, List.mem_eraseDups, List.mem_filter, pool, Bool.and_eq_true, Bool.or_eq_true,
      Bool.not_eq_true', String.startsWith_string_iff, ← Bool.not_eq_true, startsWith_underscore,
      startsWith_underscore, String.toList_ofList, Completes]
    simp only [ne_eq, dot, not_false_eq_true, true_and, and_congr_right_iff]
    exact fun _ _ => ⟨fun h under => h.resolve_right fun none => none under, fun h => by
      by_cases under : n.toList.head? = some '_'
      · exact .inl (h under)
      · exact .inr under⟩

theorem describe_isSome (c : Compiler) (entries : Declarations) (n : String) :
    (c.describe entries n).isSome = true ↔ n ∈ c.pool entries := by
  have declared := lookup_isSome entries n
  have native := builtin?_isSome n
  unfold describe pool
  rw [List.mem_append, List.mem_append, List.mem_append, ← declared, ← native]
  cases entries.lookup n with
  | some line => simp
  | none =>
    by_cases word : n ∈ keywords
    · simp [word]
    · cases builtin? n with
      | some b => simp [word]
      | none => by_cases extra : n ∈ c.extraGlobals <;> simp [word, extra]

theorem inspect_eq (c : Compiler) (found : scopeEntries prior src = .ok entries) (position : Int)
    {left right : List Char}
    (places : Around src.toList (clampPosition position src.toList.length) left
      (wordBefore src.toList (clampPosition position src.toList.length))
      (wordAfter src.toList (clampPosition position src.toList.length)) right) :
    ∃ info, c.inspect prior src position = .ok info ∧
      (∀ i ∈ info, i.name.toList = wordBefore src.toList (clampPosition position src.toList.length) ++
          wordAfter src.toList (clampPosition position src.toList.length) ∧
        i.start = left.length ∧ i.length = i.name.toList.length) ∧
      (info.isSome = true ↔ ∃ first rest, wordBefore src.toList (clampPosition position src.toList.length) ++
          wordAfter src.toList (clampPosition position src.toList.length) = first :: rest ∧
        isDigit first = false ∧ String.ofList (first :: rest) ∈ c.pool entries) := by
  have start := places.position
  unfold inspect
  dsimp only
  generalize wordBefore src.toList (clampPosition position src.toList.length) = run at *
  generalize wordAfter src.toList (clampPosition position src.toList.length) = after at *
  generalize clampPosition position src.toList.length = stop at *
  have begins : stop - run.length = left.length := by
    rw [← start, List.length_append, Nat.add_sub_cancel]
  cases word : run ++ after with
  | nil => exact ⟨none, rfl, by simp, by simp⟩
  | cons first rest =>
    cases digit : isDigit first with
    | true => exact ⟨none, by simp [digit], by simp, by simp [digit]⟩
    | false =>
      have known := describe_isSome c entries (String.ofList (first :: rest))
      dsimp only
      rw [if_neg (by simp [digit]), found, begins]
      refine ⟨_, rfl, fun i h => ?_, ?_⟩
      · obtain ⟨told, _, rfl⟩ := Option.map_eq_some_iff.mp h
        simp only [String.toList_ofList, and_self]
      · rw [Option.isSome_map, known]
        exact ⟨fun h => ⟨first, rest, rfl, digit, h⟩, fun ⟨f, r, same, _, h⟩ => same ▸ h⟩

end Compiler

/-- A text that starts, and not with a digit. -/
def StartsPlain (n : String) : Prop := ∃ c ∈ n.toList.head?, isDigit c = false

theorem startsPlain_iff (n : String) : StartsPlain n ↔ n.front?.any (fun c => !isDigit c) = true := by
  rw [String.front?_eq, StartsPlain]
  cases n.toList.head? <;> simp

theorem startsPlain_fixed : ∀ n ∈ builtinNames ++ keywords, StartsPlain n := by
  have all : ((builtinNames ++ keywords).all fun n => n.front?.any fun c => !isDigit c) = true := by
    decide +kernel
  exact fun n member => (startsPlain_iff n).mpr (List.all_eq_true.mp all n member)

/-- A completion and an answer about a name, for the text around a position. -/
structure Agrees (pool : List String) (cs left run after : List Char) (done : Completion)
    (info : Option NameInfo) : Prop where
  start : done.start = left.length
  stop : done.stop = (left ++ run).length
  sorted : done.candidates.Pairwise (· < ·)
  candidates : ∀ n, n ∈ done.candidates ↔ left.getLast? ≠ some '.' ∧ n ∈ pool ∧ Completes run n
  named : ∀ i ∈ info, i.start = left.length ∧ i.name.toList = run ++ after ∧
    (cs.drop i.start).take i.length = i.name.toList
  known : after = [] → left.getLast? ≠ some '.' →
    (info.isSome = true ↔ String.ofList run ∈ done.candidates)

namespace Compiler

/-- Where the names in scope are found, completing a name and telling what is known of one both answer, about
the same run of a name's characters. A name that ends at the position is known if and only if it is among its
own completions. -/
theorem complete_inspect (c : Compiler) {prior src : String} {entries : Declarations}
    (found : scopeEntries prior src = .ok entries)
    (plain : ∀ n ∈ entries.names ++ c.extraGlobals, StartsPlain n) (position : Int) :
    ∃ left run after right done info, c.complete prior src position = .ok done ∧
      c.inspect prior src position = .ok info ∧
      (clampPosition position src.toList.length : Int) = max 0 (min position src.toList.length) ∧
      Around src.toList (clampPosition position src.toList.length) left run after right ∧
      Agrees (c.pool entries) src.toList left run after done info := by
  obtain ⟨left, right, places⟩ := around src.toList (clampPosition_le position src.toList.length)
  obtain ⟨names, completed, sorted, members⟩ := complete_eq c found position places
  obtain ⟨info, inspected, told, known⟩ := inspect_eq c found position places
  generalize wordBefore src.toList (clampPosition position src.toList.length) = run at *
  generalize wordAfter src.toList (clampPosition position src.toList.length) = after at *
  refine ⟨left, run, after, right, _, info, completed, inspected, clampPosition_eq _ _, places, ?_⟩
  have all : ∀ n ∈ c.pool entries, StartsPlain n := by
    intro n member
    simp only [pool, List.mem_append] at member
    rcases member with ((declared | native) | word) | extra
    · exact plain n (List.mem_append_left _ declared)
    · exact startsPlain_fixed n (List.mem_append_left _ native)
    · exact startsPlain_fixed n (List.mem_append_right _ word)
    · exact plain n (List.mem_append_right _ extra)
  constructor
  case start => rfl
  case stop => exact places.position.symm
  case sorted => exact sorted
  case candidates => exact members
  case named =>
    intro i h
    obtain ⟨name, start, size⟩ := told i h
    refine ⟨start, name, ?_⟩
    have split : src.toList = left ++ ((run ++ after) ++ right) := by rw [places.parts]; simp
    rw [size, start, name, split, List.drop_left, List.take_left]
  case known =>
    intro last dotless
    rw [known, members, last, List.append_nil]
    constructor
    · rintro ⟨first, rest, same, -, member⟩
      rw [same]
      exact ⟨dotless, member, by simp [Completes]⟩
    · rintro ⟨-, member, -⟩
      obtain ⟨first, head, digit⟩ := all _ member
      rw [String.toList_ofList] at head
      obtain ⟨rest, same⟩ := List.head?_eq_some_iff.mp head
      exact ⟨first, rest, same, digit, same ▸ member⟩

theorem complete_inspect_declared :
    ∃ left run after right done info,
      complete ⟨⟨"/w", "/home/user"⟩, "/w", ".py", "pycell", ["price"], [], []⟩ "" "pr = 1\npr +" 9 = .ok done ∧
      inspect ⟨⟨"/w", "/home/user"⟩, "/w", ".py", "pycell", ["price"], [], []⟩ "" "pr = 1\npr +" 9 = .ok info ∧
      Around "pr = 1\npr +".toList 9 left run after right ∧
      Agrees ([] ++ builtinNames ++ keywords ++ ["price"]) "pr = 1\npr +".toList left run after done info := by
  have cell : ((scopeEntries "" "pr = 1\npr +").toOption.any fun entries => entries == []) = true := by
    decide +kernel
  obtain ⟨entries, found, none⟩ := of_toOption_any cell
  cases eq_of_beq none
  have plain : ∀ n ∈ Declarations.names [] ++ ["price"], StartsPlain n := by
    intro n member
    cases List.mem_singleton.mp member
    exact (startsPlain_iff _).mpr (by decide +kernel)
  have size : "pr = 1\npr +".toList.length = 11 := by decide +kernel
  obtain ⟨left, run, after, right, done, info, completed, inspected, -, places, agrees⟩ :=
    complete_inspect ⟨⟨"/w", "/home/user"⟩, "/w", ".py", "pycell", ["price"], [], []⟩ found plain 9
  rw [size] at places
  exact ⟨left, run, after, right, done, info, completed, inspected, places, agrees⟩

/-- A cell with an annotation that cannot be written out as text: no name in it can be completed, and nothing is
told of one. -/
theorem not_completed :
    ((complete ⟨⟨"/w", "/home/user"⟩, "/w", ".py", "pycell", [], [], []⟩ ""
        "x: f\"\x7b'\x01'\x7d\"\nzz" 14).toOption.any fun done =>
          done.start == 12 && done.stop == 14 && done.candidates == []) = false ∧
    ((inspect ⟨⟨"/w", "/home/user"⟩, "/w", ".py", "pycell", [], [], []⟩ ""
        "x: f\"\x7b'\x01'\x7d\"\nzz" 14).toOption.any fun info => info == none) = false := by
  decide +kernel

end Compiler

end Notebook.Cell
