import Notebook.Proofs.Effects
import Notebook.Proofs.InsertionOrder
import Notebook.Proofs.Lasting
import Notebook.Proofs.Straight
import Notebook.Proofs.Unfailing

/-! Cells of plain assignments, deletions and expressions, run one after another, against one dictionary in
which all their statements are carried out. Where each expression comes to its value in a body whose variables
are as in the dictionary, the namespace is the dictionary when the run of a cell is over. -/

set_option autoImplicit false

namespace Notebook.Exports

variable {α : Type}

theorem remove_assign {e : Exports α} {n : String} (absent : n ∉ e.names) (v : α) :
    (e.assign n v).remove n = e := by
  by_cases free : n = reservedMarker
  · rw [assign, if_pos (by simpa using free)]
    unfold remove
    refine congrArg Exports.mk (List.filter_eq_self.mpr fun p member => bne_iff_ne.mpr ?_)
    rintro rfl
    exact absent (List.mem_map_of_mem member)
  · unfold assign remove
    rw [if_neg (by simpa using free), if_neg (fun there => absent (contains_iff.mp there))]
    refine congrArg Exports.mk ?_
    have kept : e.entries.filter (·.1 != n) = e.entries := by
      refine List.filter_eq_self.mpr fun p member => bne_iff_ne.mpr ?_
      rintro rfl
      exact absent (List.mem_map_of_mem member)
    simp [kept]

end Notebook.Exports

namespace Notebook.Realm

open Notebook.Machine Notebook.Code Notebook.Tree

variable {file : String} {body : List Stmt} {isAsync : Bool} {program : Program}
  {x : Wrapped file body isAsync program} {ns : Ref} {require : Value} {e₀ e e' : Exports Value}
  {f₀ f : Frame} {w₀ w : World} {cost : Nat → Nat} {k : Nat}

theorem of_map_drop {ss : List Stmt} {p : Part} {ps : List Part} (h : (ss.drop k).map partOf = p :: ps) :
    ∃ st, ss[k]? = some st ∧ partOf st = p ∧ (ss.drop (k + 1)).map partOf = ps := by
  cases split : ss.drop k with
  | nil =>
    rw [split] at h
    cases h
  | cons st sts =>
    rw [split, List.map_cons, List.cons.injEq] at h
    refine ⟨st, ?_, h.1, ?_⟩
    · rw [← List.head?_drop, split]
      rfl
    · rw [← List.tail_drop, split]
      exact h.2

theorem at_end (comes : Comes x ns e₀ f₀ w₀ cost k f w e) (none : (x.stmts.drop k).map partOf = []) :
    k = x.stmts.length :=
  Nat.le_antisymm comes.le (List.drop_eq_nil_iff.mp (List.map_eq_nil_iff.mp none))

theorem Comes.deeds (unfree : ∀ m, x.scope.binding m ≠ .free) (entered : Entered x ns require e₀ f₀ w₀)
    {ds : List Deed} {ps : List Part}
    (parts : (x.stmts.drop k).map partOf = ds.map (fun d => .insert (.deed d)) ++ ps)
    (comes : Comes x ns e₀ f₀ w₀ cost k f w e) (after : Deed.afterAll (f.known? x.scope w) e ds = some e') :
    ∃ f' w', Comes x ns e₀ f₀ w₀ cost (k + ds.length) f' w' e' ∧
      (x.stmts.drop (k + ds.length)).map partOf = ps ∧ ∀ n, f'.known? x.scope w' n = f.known? x.scope w n := by
  induction ds generalizing k f w e with
  | nil =>
    cases after
    exact ⟨f, w, comes, parts, fun _ => rfl⟩
  | cons d ds ih =>
    obtain ⟨e₁, here, later⟩ := Option.bind_eq_some_iff.mp after
    obtain ⟨st, at_, part, rest⟩ := of_map_drop parts
    obtain ⟨f₁, w₁, comes₁, same₁⟩ := comes.next unfree entered at_ part (by simp) here
    have known : f₁.known? x.scope w₁ = f.known? x.scope w := funext same₁
    rw [← known] at later
    obtain ⟨f', w', comes', parts', same⟩ := ih rest comes₁ later
    rw [List.length_cons, show k + (ds.length + 1) = k + 1 + ds.length by omega]
    exact ⟨f', w', comes', parts', fun n => (same n).trans (same₁ n)⟩

end Notebook.Realm

namespace Notebook.Cell

open Notebook.Machine Notebook.Realm Notebook.Tree

def isGlobal : Mark → Bool
  | .global _ => true
  | _ => false

mutual

theorem globalsOf_nil {o : Outline} (h : (marks o).any isGlobal = false) : globalsOf o = [] := by
  cases o with
  | node m outer inner =>
    rw [marks, List.any_append, List.any_cons] at h
    simp only [Bool.or_eq_false_iff] at h
    obtain ⟨⟨here, outside⟩, -⟩ := h
    unfold globalsOf
    split
    next => cases here
    next =>
      split
      · rfl
      · exact globalsOfAll_nil outside

theorem globalsOfAll_nil {os : List Outline} (h : (marksAll os).any isGlobal = false) : globalsOfAll os = [] := by
  cases os with
  | nil => rfl
  | cons o os =>
    rw [marksAll, List.any_append, Bool.or_eq_false_iff] at h
    rw [globalsOfAll, globalsOf_nil h.1, globalsOfAll_nil h.2, List.append_nil]

end

theorem globals_straight {body : List Stmt} (h : ∀ t ∈ body, isStraight t = true) : topLevelGlobals body = [] := by
  refine globalsOfAll_nil (Bool.eq_false_iff.mpr fun shows => ?_)
  have lies {s : Stmt} (there : Lies body s) : isStraight s = true := by
    induction there with
    | own member => exact h _ member
    | inner _ inside ih =>
      unfold isStraight at ih
      split at ih <;> first | cases ih | cases inside
  rcases (any_bodyMarks_iff ⟨rfl, rfl, rfl, rfl⟩ body).mp shows with ⟨s, there, own⟩ | ⟨e, -, own⟩
  · have straight := lies there
    unfold isStraight at straight
    split at straight <;> first | cases straight | cases own
  · cases e <;> first | cases own | (simp [Expr.own, isGlobal] at own)

theorem mem_mentioned {body : List Stmt} {n : String} : n ∈ mentioned body ↔ ∃ t ∈ body, n ∈ mentioned [t] := by
  induction body with
  | nil => simp [mentioned, bodyMarks, stmtOutlines, marksAll]
  | cons s body ih =>
    have split : mentioned (s :: body) = mentioned [s] ++ mentioned body := by
      simp [mentioned, bodyMarks, stmtOutlines, marksAll]
    rw [split, List.mem_append, ih]
    simp

theorem requireInside_straight {t : Stmt} (h : isStraight t = true) : requireInside t = t := by
  unfold isStraight at h
  split at h <;> first | cases h | rfl

theorem mentions_straight {body : List Stmt} (h : ∀ t ∈ body, isStraight t = true) {t : Stmt} (member : t ∈ body)
    {n : String} (met : n ∈ mentioned [t]) : n ∈ mentioned (body.map requireInside) := by
  rw [List.map_congr_left (fun t there => requireInside_straight (h t there)), List.map_id']
  exact mem_mentioned.mpr ⟨t, member, met⟩

theorem bindings_mentioned {t : Stmt} (h : isStraight t = true) {n : String} (bound : n ∈ bindings t) :
    n ∈ mentioned [t] := by
  rcases straight_cases h with ⟨m, -, only, -, -, -, met, -⟩ | ⟨none, -⟩
  · rw [only, List.mem_singleton] at bound
    exact bound ▸ met
  · rw [none] at bound
    cases bound

/-- A statement of this kind stands in the body by itself, followed by what it does to the namespace. -/
theorem innerParts_straight {t : Stmt} (h : isStraight t = true) :
    innerParts t = .cell :: (deeds t).map fun d => .insert (.deed d) := by
  have simple : isBareAnnotation t = false ∧ isCompound t = false ∧ ∃ u, requireStmt false t = [u] := by
    unfold isStraight at h
    split at h <;> first | cases h | exact ⟨rfl, rfl, _, rfl⟩
  obtain ⟨computes, bare, u, one⟩ := simple
  unfold innerParts insertsAfter deeds
  rw [if_neg (by simp [computes]), bare, one]
  simp [Function.comp_def]

def isExpression : Stmt → Bool
  | .expr _ _ => true
  | _ => false

/-- The last statement of this kind is an expression, or stands in the body as before others and is followed by
setting its value aside, if it is to be shown. -/
theorem lastParts_straight {t : Stmt} (h : isStraight t = true) :
    (∃ p e, t = .expr p e) ∨ isExpression t = false ∧ bodyParts [t] = innerParts t ++ (shownPart t).toList ∧
      ∀ p ∈ shownPart t, ∃ n, n ∈ bindings t ∧ p = .insert (.deed (.publish lastName n)) ∧
        ∀ {α : Type} (d : Exports α) (value : α), (refer d t value).get? n = some value := by
  by_cases expr : ∃ p e, t = .expr p e
  · exact .inl expr
  · have computes : isBareAnnotation t = false := by
      unfold isStraight at h
      split at h <;> first | cases h | rfl
    have shown : shownPart t = (displayedTarget t).map fun n => .insert (.deed (.publish lastName n)) := by
      cases t <;> first | rfl | exact absurd ⟨_, _, rfl⟩ expr
    refine .inr ⟨?_, ?_, fun p member => ?_⟩
    · cases t <;> first | rfl | exact absurd ⟨_, _, rfl⟩ expr
    · rw [shown]
      change lastParts t = _
      unfold lastParts
      rw [if_neg (by simp [computes])]
      split
      next => exact absurd ⟨_, _, rfl⟩ expr
      next => cases displayedTarget t <;> rfl
    · rw [shown] at member
      obtain ⟨n, target, rfl⟩ := Option.map_eq_some_iff.mp member
      rcases straight_cases h with ⟨m, free, only, -, -, same, -, sets⟩ | ⟨-, -, none, -⟩
      · obtain rfl := same n target
        refine ⟨n, by simp [only], rfl, fun d value => ?_⟩
        rw [sets, Exports.get?_assign, if_pos ⟨rfl, free⟩]
      · rw [none] at target
        cases target

/-- A statement that is no expression stands first among its parts, also where it is the last of its body. -/
theorem head_straight {t : Stmt} (h : isStraight t = true) (plain : isExpression t = false) (rest : List Stmt) :
    (bodyParts (t :: rest)).head? = some .cell := by
  cases rest with
  | cons u rest =>
    change (innerParts t ++ _).head? = _
    rw [innerParts_straight h]
    rfl
  | nil =>
    rcases lastParts_straight h with ⟨p, e, rfl⟩ | ⟨-, last, -⟩
    · cases plain
    · rw [last, innerParts_straight h]
      rfl

theorem get?_removeAll {α : Type} {gone : List String} {d : Exports α} {n : String} :
    (gone.foldl Exports.remove d).get? n = if n ∈ gone then none else d.get? n := by
  induction gone generalizing d with
  | nil => rfl
  | cons m gone ih =>
    rw [List.foldl_cons, ih, Exports.get?_remove]
    by_cases here : n = m
    · simp [here]
    · simp [here]

theorem deleted_effect (p : Source.Pos) {ts : List Expr} (h : ts.all isDeleted = true) :
    ts.mapM deletedName? = some (deletedNames (.delete p ts)) := by
  induction ts with
  | nil => rfl
  | cons t ts ih =>
    obtain ⟨here, later⟩ := Bool.and_eq_true_iff.mp h
    unfold isDeleted at here
    split at here
    next p n =>
      rw [List.mapM_cons, ih later]
      rfl
    next => cases here

theorem deleted_mentioned {ts : List Expr} {names : List String} (h : ts.mapM deletedName? = some names) {n : String}
    (member : n ∈ names) : n ∈ (marksAll (outlines ts)).flatMap Mark.mentioned := by
  induction ts generalizing names with
  | nil =>
    cases h
    cases member
  | cons t ts ih =>
    rw [List.mapM_cons] at h
    obtain ⟨m, named, rest⟩ := Option.bind_eq_some_iff.mp h
    obtain ⟨later, each, same⟩ := Option.bind_eq_some_iff.mp rest
    cases same
    rw [outlines, marksAll, List.flatMap_append]
    rcases List.mem_cons.mp member with rfl | there
    · refine List.mem_append_left _ ?_
      unfold deletedName? at named
      split at named
      next =>
        cases named
        simp [marks, marksAll, Expr.outline, Outline.leaf, Mark.mentioned]
      next => cases named
    · exact List.mem_append_right _ (ih each there)

theorem effect_straight {t : Stmt} (h : isStraight t = true) {α : Type} (d : Exports α) (value : α) (n : String) :
    (refer d t value).get? n = Effect.after value n (d.get? n) (effectOf t) := by
  unfold isStraight at h
  split at h
  next p q m v =>
    obtain ⟨free, -⟩ := Bool.and_eq_true_iff.mp h
    change (d.assign m value).get? n = if n = m then some value else d.get? n
    simp [Exports.get?_assign, show m ≠ reservedMarker by simpa using free]
  next p q m a v simple =>
    obtain ⟨rest, -⟩ := Bool.and_eq_true_iff.mp h
    obtain ⟨free, -⟩ := Bool.and_eq_true_iff.mp rest
    change (d.assign m value).get? n = if n = m then some value else d.get? n
    simp [Exports.get?_assign, show m ≠ reservedMarker by simpa using free]
  next p q m op v =>
    obtain ⟨free, -⟩ := Bool.and_eq_true_iff.mp h
    change (d.assign m value).get? n = if n = m then some value else d.get? n
    simp [Exports.get?_assign, show m ≠ reservedMarker by simpa using free]
  next p ts =>
    rw [effectOf, deleted_effect p h]
    exact get?_removeAll
  next p e => rfl
  next => cases h

theorem targets_mentioned {t : Stmt} {n : String} (h : n ∈ Effect.targets (effectOf t)) : n ∈ mentioned [t] := by
  unfold effectOf at h
  split at h
  next =>
    cases List.mem_singleton.mp h
    simp [mentioned, bodyMarks, stmtOutlines, marksAll, marks, Stmt.outline, outlines, Expr.outline, Outline.leaf,
      Mark.mentioned]
  next =>
    cases List.mem_singleton.mp h
    simp [mentioned, bodyMarks, stmtOutlines, marksAll, marks, Stmt.outline, Expr.outline, Outline.leaf,
      Mark.mentioned]
  next =>
    cases List.mem_singleton.mp h
    simp [mentioned, bodyMarks, stmtOutlines, marksAll, marks, Stmt.outline, Outline.leaf, Mark.mentioned]
  next p ts =>
    cases deleted : ts.mapM deletedName? with
    | none =>
      rw [deleted] at h
      cases h
    | some names =>
      rw [deleted] at h
      have found := deleted_mentioned deleted h
      simpa [mentioned, bodyMarks, stmtOutlines, marksAll, marks, Stmt.outline, Mark.mentioned] using found
  next => cases h

/-- The statements of a cell that its body has as they are: all but an expression at the end, of which the body
sets the value aside. -/
def ownStmts : List Stmt → List Stmt
  | [] => []
  | [t] => if isExpression t then [] else [t]
  | t :: s :: rest => t :: ownStmts (s :: rest)

theorem ownStmts_append (first : List Stmt) (t : Stmt) (rest : List Stmt) :
    ownStmts (first ++ t :: rest) = first ++ ownStmts (t :: rest) := by
  induction first with
  | nil => rfl
  | cons s first ih =>
    rw [List.cons_append, List.cons_append, ← ih]
    cases first <;> rfl

theorem count_own {body : List Stmt} (h : ∀ t ∈ body, isStraight t = true) :
    (bodyParts body).count .cell = (ownStmts body).length := by
  have inner {t : Stmt} (straight : isStraight t = true) : (innerParts t).count .cell = 1 := by
    rw [innerParts_straight straight, List.count_cons_self, List.count_eq_zero.mpr (by simp)]
  induction body with
  | nil => rfl
  | cons t body ih =>
    have here := h t List.mem_cons_self
    cases body with
    | cons s body =>
      change (innerParts t ++ bodyParts (s :: body)).count .cell = (ownStmts (s :: body)).length + 1
      rw [List.count_append, inner here, ih fun u member => h u (List.mem_cons_of_mem _ member), Nat.add_comm]
    | nil =>
      rcases lastParts_straight here with ⟨p, e, rfl⟩ | ⟨plain, last, shown⟩
      · change [capturePart e].count .cell = 0
        rcases capturePart_cases e with part | ⟨n, part⟩ <;> rw [part] <;> rfl
      · have none : (shownPart t).toList.count .cell = 0 := by
          refine List.count_eq_zero.mpr fun member => ?_
          obtain ⟨n, -, same, -⟩ := shown _ (Option.mem_toList.mp member)
          cases same
        rw [last, List.count_append, inner here, none, ownStmts, if_neg (by simp [plain])]
        rfl

/-- The value that a cell shows, if its last statement has one to be shown. -/
def shownValue {α : Type} (steps : List (Stmt × α)) : Option α :=
  steps.getLast?.bind fun step => (shownPart step.1).map fun _ => step.2

end Notebook.Cell

namespace Notebook.Session

open Notebook.Machine Notebook.Loop Notebook.Cell Notebook.Realm Notebook.Tree

namespace Staged

variable {s : State} {src : String} (c : Staged s src)

/-- The variables of a body are as in a dictionary: a name that the cell mentions stands for what the dictionary
holds under it, and is an unbound variable, if it is one, where the dictionary holds nothing. -/
structure Mirrors (f : Frame) (w : World) (d : Exports Value) : Prop where
  bound : ∀ n ∈ mentioned (c.tree.map requireInside), ∀ v, d.get? n = some v →
    f.known? c.function.scope w n = some v
  unbound : ∀ n ∈ mentioned (c.tree.map requireInside), d.get? n = none →
    c.function.scope.binding n = .local ∨ c.function.scope.binding n = .cell →
    f.known? c.function.scope w n = none

/-- The statements of a cell come to their values at their cost, as against a dictionary. Wherever the body comes
to one of them with its variables as in the dictionary, the value of an assignment or an expression is computed,
which leaves the variables and the namespace as they are, and the names of a deletion are there. Together the
statements take no more steps than frames may take. -/
structure Computes (cost : Nat → Nat) (d : Exports Value) (steps : List (Stmt × Value)) : Prop where
  few : spent cost c.function.stmts.length ≤ Machine.patience
  step : ∀ {f₀ w₀ done t v rest k f w st}, c.Enters f₀ w₀ → steps = done ++ (t, v) :: rest →
    Realm.Comes c.function s.exports s.exportsOf f₀ w₀ cost k f w (referAll d done) →
    (c.function.stmts.drop k).map partOf = bodyParts (t :: rest.map (·.1)) → c.function.stmts[k]? = some st →
    c.Mirrors f w (referAll d done) →
    (partOf st = .cell → ∃ n, n ≤ cost k ∧
      Performs c.function s.exports (referAll d done) k v f w (effectOf t) n) ∧
    (partOf st = .capture → ∃ n g w', n ≤ cost k ∧
      Evaluates c.function s.exports (referAll d done) k n v f w g w') ∧
    ∀ n, partOf st = .insert (.deed (.publish lastName n)) → f.known? c.function.scope w n = some v

def Faithful : Prop := c.own.map effectOf = (ownStmts c.tree).map effectOf

/-- The names that the statements of the cell assign or delete are variables of its body. -/
def Owns : Prop := ∀ t ∈ c.tree, ∀ n ∈ Effect.targets (effectOf t),
  c.function.scope.binding n = .local ∨ c.function.scope.binding n = .cell

variable {c}

/-- What the statements of the cell have in common with those of the body they have in common one by one. -/
theorem own_at {β : Type} {g : Stmt → β} (same : c.own.map g = (ownStmts c.tree).map g)
    (straight : ∀ t ∈ c.tree, isStraight t = true) {first rest : List Stmt} {t st : Stmt}
    (split : c.tree = first ++ t :: rest) {k : Nat} (past : c.preloaded ≤ k)
    (parts : (c.function.stmts.drop k).map partOf = bodyParts (t :: rest)) (at_ : c.function.stmts[k]? = some st)
    (part : partOf st = .cell) : g st = g t := by
  -- The statements that are still to come are the last ones of both.
  have mine : ((c.function.stmts.drop k).filter (partOf · == .cell)).map g <:+ (ownStmts c.tree).map g :=
    same ▸ ((stmts_suffix past).filter _).map g
  have theirs : (ownStmts (t :: rest)).map g <:+ (ownStmts c.tree).map g := by
    rw [split, ownStmts_append]
    exact (List.suffix_append _ _).map g
  have many : ((c.function.stmts.drop k).filter (partOf · == .cell)).length = (ownStmts (t :: rest)).length := by
    rw [← count_own fun u member => straight u (split ▸ List.mem_append_right _ member), ← parts, List.count_eq_countP,
      List.countP_map, List.countP_eq_length_filter]
    rfl
  have equal := (List.suffix_of_suffix_length_le mine theirs (by simp [many])).eq_of_length (by simp [many])
  have here : c.function.stmts.drop k = st :: c.function.stmts.drop (k + 1) := by
    obtain ⟨within, rfl⟩ := List.getElem?_eq_some_iff.mp at_
    exact List.drop_eq_getElem_cons within
  rw [here, List.filter_cons_of_pos (by simp [part]), List.map_cons] at equal
  cases rest with
  | cons s rest => exact (List.cons.inj equal).1
  | nil =>
    rw [ownStmts] at equal
    split at equal
    · cases equal
    · exact (List.cons.inj equal).1

theorem Mirrors.same {f g : Frame} {w w' : World} {d : Exports Value} (h : c.Mirrors f w d)
    (same : ∀ n, g.known? c.function.scope w' n = f.known? c.function.scope w n) : c.Mirrors g w' d :=
  ⟨fun n met v held => (same n).trans (h.bound n met v held),
    fun n met none own => (same n).trans (h.unbound n met none own)⟩

theorem referAll_snoc {α : Type} (d : Exports α) (done : List (Stmt × α)) (t : Stmt) (v : α) :
    referAll d (done ++ [(t, v)]) = refer (referAll d done) t v := by
  rw [referAll, List.foldl_append]
  rfl

/-- A statement that comes to its value does to the variables of the body what it does to the dictionary. -/
theorem Mirrors.performs {d : Exports Value} {t st : Stmt} {v : Value} (straight : isStraight t = true)
    (met : ∀ n ∈ mentioned [t], n ∈ mentioned (c.tree.map requireInside))
    (other : "__exports__" ∉ mentioned (c.tree.map requireInside))
    (own : ∀ n ∈ Effect.targets (effectOf t),
      c.function.scope.binding n = .local ∨ c.function.scope.binding n = .cell)
    {f : Frame} {w : World} (mirrors : c.Mirrors f w d) {k n : Nat} (at_ : c.function.stmts[k]? = some st)
    (inBody : InBody c.function s.exports d f w) (here : f.pc = c.function.place k)
    (same : effectOf st = effectOf t) (performs : Performs c.function s.exports d k v f w (effectOf t) n) :
    ∃ g w', Passes c.function s.exports d k n f w g w' ∧ c.Mirrors g w' (refer d t v) := by
  have met {m : String} (target : m ∈ Effect.targets (effectOf t)) := met m (targets_mentioned target)
  rw [← same] at performs own met
  obtain ⟨g, w', through, values⟩ := performs.passes at_ inBody here own (fun target => other (met target))
    fun m target there => by
      have held := Exports.contains_iff.mpr there
      obtain ⟨u, held⟩ := Option.isSome_iff_exists.mp held
      rw [mirrors.bound m (met target) u held]
      rfl
  rw [same] at values
  refine ⟨g, w', through, fun m there u held => ?_, fun m there none mine => ?_⟩
  · rw [values]
    exact Effect.after_some (mirrors.bound m there) (effect_straight straight d v m ▸ held)
  · rw [values]
    exact Effect.after_none (fun absent => mirrors.unbound m there absent mine) (effect_straight straight d v m ▸ none)

section

variable {cost : Nat → Nat} {d : Exports Value} {steps : List (Stmt × Value)} (h : c.Computes cost d steps)
  (owns : c.Owns) (faithful : c.Faithful) (other : "__exports__" ∉ mentioned (c.tree.map requireInside))
  (straight : ∀ t ∈ c.tree, isStraight t = true) (each : c.tree = steps.map (·.1)) {f₀ : Frame} {w₀ : World}
  {loader : Value} (entering : c.Enters f₀ w₀) (entered : Entered c.function s.exports loader s.exportsOf f₀ w₀)
  {done rest : List (Stmt × Value)} {t : Stmt} {v : Value} {k : Nat} {f : Frame} {w : World}

include h owns faithful other straight each entering entered

/-- A body goes through a statement that comes to its value and through what it does to the namespace after it. -/
theorem Computes.next (split : steps = done ++ (t, v) :: rest)
    (comes : Realm.Comes c.function s.exports s.exportsOf f₀ w₀ cost k f w (referAll d done))
    (parts : (c.function.stmts.drop k).map partOf = bodyParts (t :: rest.map (·.1))) {ps : List Part}
    (first : bodyParts (t :: rest.map (·.1)) = innerParts t ++ ps) (mirrors : c.Mirrors f w (referAll d done)) :
    ∃ k' f' w',
      Realm.Comes c.function s.exports s.exportsOf f₀ w₀ cost k' f' w' (referAll d (done ++ [(t, v)])) ∧
      (c.function.stmts.drop k').map partOf = ps ∧ c.Mirrors f' w' (referAll d (done ++ [(t, v)])) := by
  rw [split, List.map_append, List.map_cons] at each
  have member : t ∈ c.tree := each ▸ List.mem_append_right _ List.mem_cons_self
  have here := straight t member
  have met : ∀ n ∈ mentioned [t], n ∈ mentioned (c.tree.map requireInside) := fun n => mentions_straight straight member
  have whole := parts.trans first
  rw [innerParts_straight here, List.cons_append] at whole
  obtain ⟨st, at_, part, later⟩ := of_map_drop whole
  obtain ⟨n, few, performs⟩ := (h.step entering split comes parts at_ mirrors).1 part
  obtain ⟨inBody, pc, -⟩ := comes.standing entered
  have past : c.preloaded ≤ k := by
    rw [preloaded, ← fetched_body]
    exact comes.follows.1
  have same : effectOf st = effectOf t := own_at faithful straight each past parts at_ part
  obtain ⟨g, w', through, mirrors'⟩ :=
    mirrors.performs here met other (owns t member) at_ inBody pc same performs
  rw [← referAll_snoc] at mirrors'
  have known : ∀ n ∈ bindings t, g.known? c.function.scope w' n = some v := by
    intro n bound
    refine mirrors'.bound n (met n (bindings_mentioned here bound)) v ?_
    rcases straight_cases here with ⟨m, free, only, -, -, -, -, sets⟩ | ⟨none, -⟩
    · rw [only, List.mem_singleton] at bound
      rw [referAll_snoc, sets, bound, Exports.get?_assign, if_pos ⟨rfl, free⟩]
    · rw [none] at bound
      cases bound
  obtain ⟨f', w'', comes', rest', same⟩ := (Realm.Comes.cell comes at_ part few through).deeds c.unfree entered later
    (afterAll_deeds here known _)
  rw [← referAll_snoc] at comes'
  exact ⟨_, f', w'', comes', rest', mirrors'.same same⟩

/-- After its last statement a body sets the value aside that is to be shown, if there is one, and is at its end. -/
theorem Computes.last (split : steps = done ++ [(t, v)])
    (comes : Realm.Comes c.function s.exports s.exportsOf f₀ w₀ cost k f w (referAll d done))
    (parts : (c.function.stmts.drop k).map partOf = bodyParts [t]) (mirrors : c.Mirrors f w (referAll d done)) :
    ∃ f w,
      Realm.Comes c.function s.exports s.exportsOf f₀ w₀ cost c.function.stmts.length f w
        ((shownValue [(t, v)]).elim (referAll d steps) ((referAll d steps).assign lastName)) := by
  have member : t ∈ c.tree := by
    rw [each, split]
    simp
  have here := straight t member
  rcases lastParts_straight here with ⟨q, a, rfl⟩ | ⟨-, last, shown⟩
  · have same : referAll d steps = referAll d done := by
      rw [split, referAll_snoc]
      rfl
    change _ = [capturePart a] at parts
    obtain ⟨st, at_, part, over_⟩ := of_map_drop parts
    obtain ⟨-, evaluates, names⟩ := h.step entering split comes parts at_ mirrors
    rw [same]
    rcases capturePart_cases a with capture | ⟨n, publish⟩
    · obtain ⟨n, g, w', few', through⟩ := evaluates (part.trans capture)
      have comes' := Realm.Comes.capture comes at_ (part.trans capture) few' through
      exact ⟨_, _, at_end comes' over_ ▸ comes'⟩
    · have after : (Realm.Insert.deed (.publish lastName n)).after (f.known? c.function.scope w) (referAll d done)
          = some ((referAll d done).assign lastName v) := by
        simp [Insert.after, Deed.after, names n (part.trans publish)]
      obtain ⟨f', w', comes', -⟩ := comes.next c.unfree entered at_ (part.trans publish) (by simp) after
      exact ⟨_, _, at_end comes' over_ ▸ comes'⟩
  · obtain ⟨k', f', w', comes', parts', mirrors'⟩ :=
      h.next owns faithful other straight each entering entered split comes parts last mirrors
    rw [← split] at comes' mirrors'
    cases displayed : shownPart t with
    | none =>
      have none : shownValue [(t, v)] = none := by simp [shownValue, displayed]
      rw [displayed] at parts'
      rw [none]
      exact ⟨_, _, at_end comes' parts' ▸ comes'⟩
    | some p =>
      have some_ : shownValue [(t, v)] = some v := by simp [shownValue, displayed]
      obtain ⟨n, target, rfl, held⟩ := shown p displayed
      rw [displayed] at parts'
      obtain ⟨st, at_, part, over_⟩ := of_map_drop parts'
      have known : f'.known? c.function.scope w' n = some v := by
        refine mirrors'.bound n (mentions_straight straight member (bindings_mentioned here target)) v ?_
        rw [split, referAll_snoc]
        exact held _ _
      have after : (Realm.Insert.deed (.publish lastName n)).after (f'.known? c.function.scope w')
          (referAll d steps) = some ((referAll d steps).assign lastName v) := by
        simp [Insert.after, Deed.after, known]
      obtain ⟨f'', w'', comes'', -⟩ := comes'.next c.unfree entered at_ part (by simp) after
      rw [some_]
      exact ⟨_, _, at_end comes'' over_ ▸ comes''⟩

/-- A body whose statements come to their values comes to its end, and the namespace is the dictionary then, beside
the value that is to be shown. -/
theorem Computes.through (rest : List (Stmt × Value)) :
    ∀ (done : List (Stmt × Value)) {k f w}, steps = done ++ rest →
      Realm.Comes c.function s.exports s.exportsOf f₀ w₀ cost k f w (referAll d done) →
      (c.function.stmts.drop k).map partOf = bodyParts (rest.map (·.1)) → c.Mirrors f w (referAll d done) →
      ∃ f w,
        Realm.Comes c.function s.exports s.exportsOf f₀ w₀ cost c.function.stmts.length f w
          ((shownValue rest).elim (referAll d steps) ((referAll d steps).assign lastName)) := by
  induction rest with
  | nil =>
    intro done k f w split comes parts mirrors
    rw [split, List.append_nil]
    exact ⟨f, w, at_end comes parts ▸ comes⟩
  | cons step rest ih =>
    obtain ⟨t, v⟩ := step
    intro done k f w split comes parts mirrors
    cases rest with
    | nil => exact h.last owns faithful other straight each entering entered split comes parts mirrors
    | cons step rest =>
      obtain ⟨k', f', w', comes', parts', mirrors'⟩ :=
        h.next owns faithful other straight each entering entered split comes parts rfl mirrors
      have onward : steps = done ++ [(t, v)] ++ step :: rest := by
        rw [split, List.append_assoc, List.singleton_append]
      exact ih _ onward comes' parts' mirrors'

end

theorem Comes.mirrors (ready : s.Ready) (straight : ∀ t ∈ c.tree, isStraight t = true)
    (unreserved : ∀ n ∈ ["__exports__", "__require__"], n ∉ mentioned (c.tree.map requireInside))
    (declared : c.prior.names = s.exportsOf.names) {f : Frame} {w : World} {e : Exports Value}
    (comes : c.Comes c.preloaded f w e) : c.Mirrors f w s.exportsOf := by
  obtain ⟨f₀, w₀, -, -, has⟩ := comes.at_start
  have taken {n : String} : n ∈ preloadNames c.prior c.tree ↔
      n ∈ s.exportsOf.names ∧ n ∈ mentioned (c.tree.map requireInside) := by
    unfold preloadNames
    rw [List.mem_filter, declared, globals_straight straight]
    simp
  refine ⟨fun n met v held => ?_, fun n met none own => ?_⟩
  · have there : n ∈ s.exportsOf.names := Exports.contains_iff.mp (by simp [Exports.contains, held])
    have fetched_ : n ∈ preloadNames c.prior c.tree := taken.mpr ⟨there, met⟩
    rw [known?_own (c.function.fetched_own (fetched_body (c := c) ▸ fetched_)), has.values, if_pos fetched_, held]
    rfl
  · have absent : n ∉ preloadNames c.prior c.tree := fun fetched_ => by
      have held := Exports.contains_iff.mpr (taken.mp fetched_).1
      simp [Exports.contains, none] at held
    have other : n ≠ "__exports__" ∧ n ≠ "__require__" :=
      ⟨fun same => unreserved n (by simp [same]) met, fun same => unreserved n (by simp [same]) met⟩
    rw [known?_own own]
    exact unbound_at_start ready absent other comes

def FirstText (c : Staged s src) : Prop :=
  (Code.docOf (inside c.body)).isSome → ∃ p e, c.tree.head? = some (.expr p e)

/-- A text that documents the body goes first where the cell starts with an expression. -/
theorem Computes.from_start {cost : Nat → Nat} {d : Exports Value} {steps : List (Stmt × Value)}
    (h : c.Computes cost d steps) (owns : c.Owns) (faithful : c.Faithful)
    (other : "__exports__" ∉ mentioned (c.tree.map requireInside)) (straight : ∀ t ∈ c.tree, isStraight t = true)
    (each : c.tree = steps.map (·.1)) (text : c.FirstText) {f₀ f : Frame} {w₀ w : World} {loader : Value}
    (entering : c.Enters f₀ w₀) (entered : Entered c.function s.exports loader s.exportsOf f₀ w₀)
    (comes : Realm.Comes c.function s.exports s.exportsOf f₀ w₀ cost c.preloaded f w d) (mirrors : c.Mirrors f w d) :
    ∃ f w, Realm.Comes c.function s.exports s.exportsOf f₀ w₀ cost c.function.stmts.length f w
      ((shownValue steps).elim (referAll d steps) ((referAll d steps).assign lastName)) := by
  obtain ⟨-, front, parts, first⟩ := c.function.parts c.shaped
  have parts : front ++ (c.function.stmts.drop c.preloaded).map partOf = bodyParts (steps.map (·.1)) :=
    parts.trans (congrArg bodyParts each)
  rcases first with rfl | ⟨rfl, documented⟩
  · exact h.through owns faithful other straight each entering entered steps [] rfl comes parts mirrors
  · obtain ⟨p, a, head⟩ := text documented
    rw [each] at head
    obtain ⟨v, rest, rfl⟩ : ∃ v rest, steps = (.expr p a, v) :: rest := by
      cases steps with
      | nil => cases head
      | cons step rest =>
        obtain ⟨t, v⟩ := step
        cases head
        exact ⟨v, rest, rfl⟩
    have here := straight (.expr p a) (by simp [each])
    cases rest with
    | nil =>
      change .cell :: _ = [capturePart a] at parts
      rcases capturePart_cases a with part | ⟨n, part⟩
      · rw [part] at parts
        cases parts
      · rw [part] at parts
        cases parts
    | cons step rest =>
      change .cell :: _ = innerParts (.expr p a) ++ bodyParts (step.1 :: rest.map (·.1)) at parts
      have none : deeds (.expr p a) = [] := by
        rw [deeds, bindings_expr here]
        rfl
      rw [innerParts_straight here, none] at parts
      exact h.through owns faithful other straight each entering entered (step :: rest) [(.expr p a, v)] rfl comes
        (List.cons.inj parts).2 mirrors

theorem lastBinding_shown {steps : List (Stmt × Value)} (each : c.tree = steps.map (·.1)) :
    c.cell.lastBinding = (shownValue steps).map fun _ => lastName := by
  obtain ⟨-, -, -, shown⟩ := bodyParts_shown c.tree
  rw [lastBinding_eq, shown, each, List.getLast?_map]
  unfold shownValue
  cases steps.getLast? with
  | none => rfl
  | some step => cases displayed : shownPart step.1 <;> simp [displayed]

/-- The run of a cell whose statements come to their values shows the last one and leaves the dictionary. -/
theorem Computes.ends {cost : Nat → Nat} {steps : List (Stmt × Value)} (h : c.Computes cost s.exportsOf steps)
    (owns : c.Owns) (faithful : c.Faithful) (ready : s.Ready) (each : c.tree = steps.map (·.1))
    (straight : ∀ t ∈ c.tree, isStraight t = true) (text : c.FirstText)
    (unreserved : ∀ n ∈ ["__exports__", "__require__"], n ∉ mentioned (c.tree.map requireInside))
    (declared : c.prior.names = s.exportsOf.names) (absent : lastName ∉ (referAll s.exportsOf steps).names) :
    ∃ s₁, begin src s = (.ended (showing (shownValue steps)), s₁) ∧
      Leaves (c := c) (referAll s.exportsOf steps) s₁ := by
  obtain ⟨f₀, w₀, entering, entered, execution⟩ := enters (c := c) ready
  obtain ⟨f, w, goes, has⟩ := entered.fetches
  have comes : Realm.Comes c.function s.exports s.exportsOf f₀ w₀ cost c.preloaded f w s.exportsOf := by
    have here : c.preloaded = (fetched c.body).length := by rw [fetched_body]
    rw [here]
    exact .start goes has
  have mirrors : c.Mirrors f w s.exportsOf :=
    Comes.mirrors ready straight unreserved declared ⟨f₀, w₀, cost, entering, comes⟩
  obtain ⟨g, w', through⟩ :=
    h.from_start owns faithful (unreserved _ List.mem_cons_self) straight each text entering entered comes mirrors
  have value : c.running.run (s.taken src).world = .ok .none w' := by
    rw [execution, M.run_bind_ok (through.returns entered h.few)]
    rfl
  obtain ⟨s₁, began, left⟩ := begin_returned ready value (through.standing entered).inBody.isNamespace
  rw [lastBinding_shown each] at began left
  refine ⟨s₁, ?_, ?_⟩
  · rw [began]
    cases shownValue steps with
    | none => rfl
    | some v =>
      simp only [Option.elim_some, Option.map_some, Option.bind_some]
      rw [Exports.get?_assign, if_pos ⟨rfl, by decide⟩]
  · cases shown : shownValue steps with
    | none =>
      rw [shown] at left
      exact left
    | some v =>
      rw [shown] at left
      simpa only [Option.elim_some, Option.map_some, Exports.remove_assign absent] using left

end Staged

/-- A cell of statements of this kind that come to their values as against a dictionary. It names nothing that
bodies go by, and what it declares can be read back. -/
structure State.Refers (main : FutureId) (s : State) (d : Exports Value) (src : String)
    (steps : List (Stmt × Value)) : Prop where
  parsed : Compiler.checkCell src = .ok (steps.map (·.1))
  straight : ∀ step ∈ steps, isStraight step.1 = true
  unreserved : ∀ n ∈ ["__exports__", "__require__", lastName],
    n ∉ mentioned ((steps.map (·.1)).map requireInside)
  readable : CellReadable src
  writes : s.WritesApart main src
  runs : (steps = [] ∧ ∃ c, s.accepted? src = some c ∧ c.body = "") ∨
    ∃ c : Staged s src, c.FirstText ∧ c.Owns ∧ c.Faithful ∧ ∃ cost, c.Computes cost d steps

/-- Cells that come to their values one after another as against a dictionary. -/
def Refers (main : FutureId) : State → Exports Value → List (String × List (Stmt × Value)) → Prop
  | _, _, [] => True
  | s, d, (src, steps) :: cells =>
    s.Refers main d src steps ∧ Refers main (run main src s).2 (referAll d steps) cells

/-- A session whose namespace is a dictionary, and whose declarations are its keys. -/
structure State.Agrees (s : State) (d : Exports Value) : Prop where
  ready : s.Ready
  exportsOf : s.exportsOf = d
  declared : ∃ ds, parseDeclarations s.declarations = .ok ds ∧ ReadBack ds ∧ ds.names = d.names
  absent : lastName ∉ d.names

section

variable {main : FutureId} {s : State} {d : Exports Value} {src : String} {steps : List (Stmt × Value)}

theorem mem_names_referAll (straight : ∀ step ∈ steps, isStraight step.1 = true) {n : String}
    (there : n ∈ (referAll d steps).names) : n ∈ d.names ∨ ∃ step ∈ steps, n ∈ bindings step.1 := by
  induction steps generalizing d with
  | nil => exact .inl there
  | cons step steps ih =>
    rcases ih (fun step member => straight step (List.mem_cons_of_mem _ member)) there with old | ⟨u, member, bound⟩
    · change n ∈ (refer d step.1 step.2).names at old
      rcases straight_cases (straight step List.mem_cons_self) with ⟨m, -, only, -, -, -, -, sets⟩ | ⟨-, -, -, removes⟩
      · rw [sets] at old
        refine (Exports.of_mem_names_assign old).imp id fun same => ⟨step, List.mem_cons_self, ?_⟩
        rw [same, only]
        exact List.mem_singleton_self m
      · rw [removes] at old
        exact .inl (Exports.mem_names_removeAll.mp old).1
    · exact .inr ⟨u, List.mem_cons_of_mem _ member, bound⟩

theorem State.Refers.absent (h : s.Refers main d src steps) (absent : lastName ∉ d.names) :
    lastName ∉ (referAll d steps).names := by
  intro there
  rcases mem_names_referAll h.straight there with old | ⟨step, member, bound⟩
  · exact absent old
  · refine h.unreserved lastName (by simp) (mentions_straight (fun t listed => ?_) (List.mem_map_of_mem member)
      (bindings_mentioned (h.straight step member) bound))
    obtain ⟨u, there, rfl⟩ := List.mem_map.mp listed
    exact h.straight u there

/-- The run of a cell that comes to its values as against a dictionary leaves the dictionary in which its statements
are carried out. -/
theorem State.Refers.step (h : s.Refers main d src steps) (agrees : s.Agrees d) :
    ∃ s₁ s', closing main src s = (.ok (showing (shownValue steps)), s₁) ∧
      run main src s = (.ok ((showing (shownValue steps)).conclude s₁).1, s') ∧
      (s.sink.isConsole = false → statusOf (run main src s).1 = some .success) ∧
      s'.Agrees (referAll d steps) := by
  obtain ⟨ready, rfl, ⟨prior, known, back, names⟩, absent⟩ := agrees
  have later := h.absent absent
  rcases h.runs with ⟨rfl, c, accepted, empty⟩ | ⟨c, text, owns, faithful, cost, computes⟩
  · have prepared := prepare_accepted accepted
    rw [if_pos (by simpa using empty)] at prepared
    have began : begin src s = (.ended success, { s.taken src with declarations := c.declarations }) := by
      unfold begin
      rw [bind_apply, prepared]
      rfl
    obtain ⟨closed, ran⟩ := run_of_begin main began
    obtain ⟨-, compiled, clean⟩ := accepted_iff.mp accepted
    have whole : s.inner.compile s.files s.declarations src = (.ok c, (s.compiled src).2) := Prod.ext compiled rfl
    obtain ⟨prior', tree, ds, known', checked, stmts, carried, -⟩ := Compiler.compile_declares whole clean
    cases known.symm.trans known'
    cases checked.symm.trans h.parsed
    cases stmts
    refine ⟨_, _, closed, ran, fun _ => by rw [ran]; rfl, (ready.taken src).declared c.declarations, ?_, ?_, later⟩
    · exact (exportsOf_declared _ _).trans (taken_same s src).2.2.2.1
    · exact ⟨prior, carried ▸ parseDeclarations_text back.nodup back.readable, back, names⟩
  · cases known.symm.trans c.known
    have whole : c.tree = steps.map (·.1) := Except.ok.inj (c.checked.symm.trans h.parsed)
    have unreserved : ∀ n ∈ ["__exports__", "__require__"], n ∉ mentioned (c.tree.map requireInside) := by
      rw [whole]
      exact fun n member => h.unreserved n (List.mem_append_left [lastName] member)
    have straight : ∀ t ∈ c.tree, isStraight t = true := by
      rw [whole]
      intro t member
      obtain ⟨step, listed, rfl⟩ := List.mem_map.mp member
      exact h.straight step listed
    obtain ⟨s₁, began, left⟩ := computes.ends owns faithful ready whole straight text unreserved names later
    have kept := left.ready.isNamespace
    rw [left.exportsOf] at kept
    obtain ⟨closed, ran, ready', same, declarations⟩ := run_of_writesApart ready began h.writes left.quiet kept
    refine ⟨s₁, _, closed, ran, fun recorded => ?_, ready', same, ?_, later⟩
    · rw [ran, showing_recorded _ (by rw [left.sink, recorded])]
      rfl
    · obtain ⟨ds, stmts, carried, -⟩ := c.declares
      have back' := back.declareStmts (h.readable c.tree c.checked) stmts
      rw [declarations, left.declarations, carried]
      refine ⟨ds, parseDeclarations_text back'.nodup back'.readable, back', ?_⟩
      rw [whole] at stmts
      exact names_referAll h.straight stmts names

/-- Cells that come to their values one after another leave the dictionary in which all their statements are
carried out. -/
theorem Refers.agrees {cells : List (String × List (Stmt × Value))} (h : Refers main s d cells) (agrees : s.Agrees d) :
    (s.afterCells main (cells.map (·.1))).Agrees (referAll d (cells.flatMap (·.2))) := by
  induction cells generalizing s d with
  | nil => exact agrees
  | cons cell cells ih =>
    obtain ⟨here, later⟩ := h
    obtain ⟨s₁, s', -, ran, -, agrees'⟩ := here.step agrees
    rw [ran] at later
    have next := ih later agrees'
    rw [List.flatMap_cons, referAll, List.foldl_append]
    rw [List.map_cons, afterCells_cons, ran]
    exact next

theorem Refers.of_append {before after : List (String × List (Stmt × Value))}
    (h : Refers main s d (before ++ (src, steps) :: after)) : Refers main s d before ∧
      (s.afterCells main (before.map (·.1))).Refers main (referAll d (before.flatMap (·.2))) src steps := by
  induction before generalizing s d with
  | nil => exact ⟨trivial, h.1⟩
  | cons cell before ih =>
    obtain ⟨here, later⟩ := h
    obtain ⟨first, next⟩ := ih later
    rw [List.map_cons, afterCells_cons, List.flatMap_cons, referAll, List.foldl_append]
    exact ⟨⟨here, first⟩, next⟩

end

namespace Staged.AssignsIntegers

variable {s : State} {src : String} {c : Staged s src} {ps : List (String × Int)}

def valueOf (t : Stmt) : Value := ((integer? t).map fun p => .int p.2).getD .none

theorem integer_straight {t : Stmt} {n : String} {i : Int} (h : integer? t = some (n, i)) (free : n ≠ reservedMarker) :
    isStraight t = true ∧ isExpression t = false ∧ ∀ (d : Exports Value) v, refer d t v = d.assign n v := by
  unfold integer? at h
  split at h
  next p q m r j =>
    obtain ⟨rfl, rfl⟩ := Prod.mk.inj (Option.some.inj h)
    refine ⟨?_, rfl, fun d v => rfl⟩
    rw [isStraight, Bool.and_eq_true]
    exact ⟨by simpa using free, rfl⟩
  next => cases h

theorem ownStmts_integers {tree : List Stmt} (h : ∀ t ∈ tree, isExpression t = false) : ownStmts tree = tree := by
  induction tree with
  | nil => rfl
  | cons t tree ih =>
    have later := ih fun u member => h u (List.mem_cons_of_mem _ member)
    cases tree with
    | nil =>
      rw [ownStmts, if_neg (by simp [h t List.mem_cons_self])]
    | cons u tree => rw [ownStmts, later]

theorem effects_integers {l l' : List Stmt} (same : l.map integer? = l'.map integer?)
    (each : ∀ t ∈ l', (integer? t).isSome) : l.map effectOf = l'.map effectOf := by
  induction l generalizing l' with
  | nil =>
    cases l' with
    | nil => rfl
    | cons u l' => cases same
  | cons t l ih =>
    cases l' with
    | nil => cases same
    | cons u l' =>
      obtain ⟨first, rest⟩ := List.cons.inj same
      obtain ⟨⟨n, i⟩, is⟩ := Option.isSome_iff_exists.mp (each u List.mem_cons_self)
      rw [List.map_cons, List.map_cons, integer_effect is, integer_effect (first.trans is),
        ih rest fun v member => each v (List.mem_cons_of_mem _ member)]

theorem computes (h : c.AssignsIntegers ps) (ready : s.Ready)
    (free : ∀ p ∈ ps, p.1 ≠ reservedMarker) (d : Exports Value) :
    c.FirstText ∧ c.Owns ∧ c.Faithful ∧ ∃ cost, c.Computes cost d (c.tree.map fun t => (t, valueOf t)) := by
  have straight : ∀ t ∈ c.tree, isStraight t = true ∧ isExpression t = false := by
    intro t member
    obtain ⟨⟨n, i⟩, listed, is⟩ := h.integer_of_mem member
    exact ⟨(integer_straight is (free _ listed)).1, (integer_straight is (free _ listed)).2.1⟩
  have same : c.own.map integer? = (ownStmts c.tree).map integer? := by
    rw [ownStmts_integers fun t member => (straight t member).2, h.own, h.tree]
  obtain ⟨f, w, -, entered, -⟩ := c.enters ready
  refine ⟨fun documented => ?_, fun t member n target => ?_, ?_, fun _ => 2, (steady_completes h.steady entered).few,
    fun {f₀ w₀ done t v rest k f w st} entering split comes parts at_ mirrors => ?_⟩
  · rw [h.undocumented] at documented
    cases documented
  · obtain ⟨⟨m, i⟩, listed, is⟩ := h.integer_of_mem member
    rw [integer_effect is] at target
    cases List.mem_singleton.mp target
    have there : some (n, i) ∈ c.own.map integer? := by
      rw [h.own]
      exact List.mem_map_of_mem listed
    obtain ⟨st, within, is⟩ := List.mem_map.mp there
    exact steady_own h.steady (List.mem_of_mem_drop (List.mem_filter.mp within).1) is
  · refine effects_integers same fun t member => ?_
    rw [ownStmts_integers fun t member => (straight t member).2] at member
    obtain ⟨p, -, is⟩ := h.integer_of_mem member
    rw [is]
    rfl
  · obtain ⟨f', w', entering', entered, -⟩ := c.enters ready
    cases entering.symm.trans entering'
    have whole : c.tree = done.map (·.1) ++ t :: rest.map (·.1) := by
      have listed := congrArg (List.map (·.1)) split
      simpa [Function.comp_def] using listed
    have member : t ∈ c.tree := whole ▸ List.mem_append_right _ List.mem_cons_self
    have value : v = valueOf t := by
      have listed : (t, v) ∈ c.tree.map fun t => (t, valueOf t) := by
        rw [split]
        exact List.mem_append_right _ List.mem_cons_self
      obtain ⟨u, -, pair⟩ := List.mem_map.mp listed
      cases pair
      rfl
    obtain ⟨⟨n, i⟩, listed, is⟩ := h.integer_of_mem member
    have first : partOf st = .cell := by
      have heads := congrArg List.head? parts
      rw [List.head?_map, List.head?_drop, at_] at heads
      rw [head_straight (straight t member).1 (straight t member).2] at heads
      exact Option.some.inj heads
    have past : c.preloaded ≤ k := by
      rw [preloaded, ← fetched_body]
      exact comes.follows.1
    obtain ⟨inBody, pc, -⟩ := comes.standing entered
    refine ⟨fun _ => ?_, fun part => ?_, fun n part => ?_⟩
    · have is_ : integer? st = some (n, i) :=
        (own_at same (fun t member => (straight t member).1) whole past parts at_ first).trans is
      rw [value, valueOf, is, integer_effect is]
      exact ⟨1 + 1, Nat.le_refl 2, .sets (integer_computes at_ is_ inBody pc)⟩
    · cases first.symm.trans part
    · cases first.symm.trans part

end Staged.AssignsIntegers

end Notebook.Session
