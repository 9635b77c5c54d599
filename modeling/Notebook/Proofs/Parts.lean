import Notebook.Proofs.Passage

/-! The parts of the body of a cell, by the statements of the cell, and what the namespace becomes as the body
goes through them. -/

set_option autoImplicit false

namespace Notebook.Realm

open Notebook.Machine Notebook.Code Notebook.Tree

/-- What a statement of a body is: one that takes a name over, or a part. -/
inductive Shape where
  | fetch (n : String)
  | part (p : Part)
deriving DecidableEq, Repr

def shapeOf (st : Stmt) : Shape :=
  match fetchedName st with
  | some n => .fetch n
  | none => .part (partOf st)

theorem fetched_shapes {body : List Stmt} {names : List String} {ps : List Part}
    (h : body.map shapeOf = names.map .fetch ++ ps.map .part) :
    fetched body = names ∧ (body.drop names.length).map partOf = ps := by
  induction names generalizing body with
  | nil =>
    have each : ∀ st ∈ body, fetchedName st = none := by
      intro st member
      have there := List.mem_map_of_mem (f := shapeOf) member
      rw [h, List.map_nil, List.nil_append] at there
      unfold shapeOf at there
      split at there
      next n named => simp at there
      next named => exact named
    constructor
    · cases body with
      | nil => rfl
      | cons st body => rw [fetched, each st List.mem_cons_self]
    · rw [List.length_nil, List.drop_zero]
      refine (List.map_inj_right fun _ _ => Shape.part.inj).mp ?_
      rw [List.map_map]
      refine (List.map_congr_left fun st member => ?_).trans h
      change Shape.part (partOf st) = shapeOf st
      rw [shapeOf, each st member]
  | cons n names ih =>
    cases body with
    | nil => cases h
    | cons st body =>
      rw [List.map_cons, List.map_cons, List.cons_append, List.cons.injEq] at h
      obtain ⟨first, rest⟩ := h
      have named : fetchedName st = some n := by
        unfold shapeOf at first
        split at first
        next m named =>
          cases first
          exact named
        next => cases first
      obtain ⟨same, parts⟩ := ih rest
      exact ⟨by rw [fetched, named]; exact congrArg _ same, parts⟩

/-- What a body may do of its own accord to a namespace, by whatever names stand for. -/
def Insert.Leaves (i : Insert) (e e' : Exports Value) : Prop := ∃ known, i.after known e = some e'

/-- What a namespace becomes while a body goes through some parts. -/
inductive Follows : List Part → Exports Value → Exports Value → Prop
  | nil (e : Exports Value) : Follows [] e e
  | cell {ps : List Part} {e e' : Exports Value} (rest : Follows ps e e') : Follows (.cell :: ps) e e'
  | insert {i : Insert} {ps : List Part} {e e₁ e' : Exports Value} (here : i.Leaves e e₁)
      (rest : Follows ps e₁ e') : Follows (.insert i :: ps) e e'
  | capture {ps : List Part} {e e' : Exports Value} (v : Value)
      (rest : Follows ps (e.assign Cell.lastName v) e') : Follows (.capture :: ps) e e'

namespace Follows

variable {ps qs : List Part} {e e₁ e' : Exports Value}

theorem append (first : Follows ps e e₁) (second : Follows qs e₁ e') : Follows (ps ++ qs) e e' := by
  induction first with
  | nil e => exact second
  | cell rest ih => exact .cell (ih second)
  | insert here rest ih => exact .insert here (ih second)
  | capture v rest ih => exact .capture v (ih second)

theorem of_append (h : Follows (ps ++ qs) e e') : ∃ e₁, Follows ps e e₁ ∧ Follows qs e₁ e' := by
  induction ps generalizing e with
  | nil => exact ⟨e, .nil e, h⟩
  | cons p ps ih =>
    cases h with
    | cell rest =>
      obtain ⟨e₁, first, second⟩ := ih rest
      exact ⟨e₁, .cell first, second⟩
    | insert here rest =>
      obtain ⟨e₁, first, second⟩ := ih rest
      exact ⟨e₁, .insert here first, second⟩
    | capture v rest =>
      obtain ⟨e₁, first, second⟩ := ih rest
      exact ⟨e₁, .capture v first, second⟩

theorem of_cells (only : ∀ p ∈ ps, p = .cell) (h : Follows ps e e') : e' = e := by
  induction h with
  | nil e => rfl
  | cell rest ih => exact ih fun p member => only p (List.mem_cons_of_mem _ member)
  | insert here rest ih => cases only _ List.mem_cons_self
  | capture v rest ih => cases only _ List.mem_cons_self

theorem of_removals {names : List String}
    (h : Follows (names.map fun n => .insert (.deed (.remove n))) e e') : e' = names.foldl Exports.remove e := by
  induction names generalizing e with
  | nil =>
    cases h
    rfl
  | cons n names ih =>
    cases h with
    | insert here rest =>
      obtain ⟨known, after⟩ := here
      cases after
      exact ih rest

end Follows

def Part.keys : Part → List String
  | .cell => []
  | .insert (.deed (.publish key _)) => [key]
  | .insert (.deed (.remove _)) => []
  | .insert (.guarded n) => [n]
  | .capture => [Cell.lastName]

def Part.isOwn : Part → Bool
  | .capture => false
  | .insert (.deed (.publish key n)) => key == n
  | _ => true

def Part.Shows (p : Part) : Prop := p = .capture ∨ ∃ n, p = .insert (.deed (.publish Cell.lastName n))

theorem Insert.Leaves.of_mem {i : Insert} {e e' : Exports Value} (h : i.Leaves e e') {n : String}
    (there : n ∈ e'.names) : n ∈ e.names ∨ n ∈ (Part.insert i).keys := by
  obtain ⟨known, after⟩ := h
  cases i with
  | deed d =>
    cases d with
    | publish key m =>
      obtain ⟨v, -, rfl⟩ := Option.map_eq_some_iff.mp after
      exact (Exports.of_mem_names_assign there).imp id List.mem_singleton.mpr
    | remove key =>
      cases after
      exact .inl (Exports.mem_names_remove.mp there).1
  | guarded m =>
    cases after
    cases found : known m with
    | none =>
      rw [found] at there
      exact .inl there
    | some v =>
      rw [found] at there
      exact (Exports.of_mem_names_assign there).imp id List.mem_singleton.mpr

theorem Follows.of_mem {ps : List Part} {e e' : Exports Value} (h : Follows ps e e') {n : String}
    (there : n ∈ e'.names) : n ∈ e.names ∨ ∃ p ∈ ps, n ∈ p.keys := by
  induction h with
  | nil e => exact .inl there
  | cell rest ih =>
    exact (ih there).imp id fun ⟨p, member, key⟩ => ⟨p, List.mem_cons_of_mem _ member, key⟩
  | insert here rest ih =>
    rcases ih there with old | ⟨p, member, key⟩
    · exact (here.of_mem old).imp id fun key => ⟨_, List.mem_cons_self, key⟩
    · exact .inr ⟨p, List.mem_cons_of_mem _ member, key⟩
  | capture v rest ih =>
    rcases ih there with old | ⟨p, member, key⟩
    · exact (Exports.of_mem_names_assign old).imp id fun same => ⟨_, List.mem_cons_self, List.mem_singleton.mpr same⟩
    · exact .inr ⟨p, List.mem_cons_of_mem _ member, key⟩

theorem Comes.follows {file : String} {body : List Stmt} {isAsync : Bool} {program : Program}
    {x : Wrapped file body isAsync program} {ns : Ref} {e₀ e : Exports Value} {f₀ f : Frame} {w₀ w : World}
    {cost : Nat → Nat} {k : Nat} (h : Comes x ns e₀ f₀ w₀ cost k f w e) :
    (fetched body).length ≤ k ∧ Follows (((x.stmts.take k).drop (fetched body).length).map partOf) e₀ e := by
  have next {k : Nat} {st : Stmt} {e e' : Exports Value} (at_ : x.stmts[k]? = some st)
      (before : (fetched body).length ≤ k ∧ Follows (((x.stmts.take k).drop (fetched body).length).map partOf) e₀ e)
      (step : Follows [partOf st] e e') : (fetched body).length ≤ k + 1 ∧
        Follows (((x.stmts.take (k + 1)).drop (fetched body).length).map partOf) e₀ e' := by
    refine ⟨Nat.le_succ_of_le before.1, ?_⟩
    have within := (List.getElem?_eq_some_iff.mp at_).1
    rw [List.take_add_one, at_, Option.toList_some, List.drop_append_of_le_length
      (by rw [List.length_take]; omega), List.map_append]
    exact before.2.append step
  induction h with
  | start goes has =>
    refine ⟨Nat.le_refl _, ?_⟩
    rw [List.drop_eq_nil_of_le (List.length_take_le _ _)]
    exact .nil _
  | cell before at_ part few through ih => exact next at_ ih (part ▸ .cell (.nil _))
  | insert before at_ part after few goes inBody same ih =>
    exact next at_ ih (part ▸ .insert ⟨_, after⟩ (.nil _))
  | capture before at_ part few through ih => exact next at_ ih (part ▸ .capture _ (.nil _))

end Notebook.Realm

namespace Notebook.Cell

open Notebook.Machine Notebook.Realm Notebook.Tree

def insertsAfter (s : Stmt) : List Insert :=
  (bindings s).map (fun n => if isCompound s then .guarded n else .deed (.publish n n))
    ++ (deletedNames s).map fun n => .deed (.remove n)

def innerParts (s : Stmt) : List Part :=
  if isBareAnnotation s then []
  else (requireStmt false s).map (fun _ => .cell) ++ (insertsAfter s).map .insert

/-- Setting the value of an expression aside; a body reads a name as it does elsewhere. -/
def capturePart : Expr → Part
  | .name _ n _ => if n == "__debug__" then .capture else .insert (.deed (.publish lastName n))
  | _ => .capture

def lastParts (s : Stmt) : List Part :=
  if isBareAnnotation s then []
  else match s with
    | .expr _ e => [capturePart e]
    | s => innerParts s ++ (displayedTarget s).toList.map fun n => .insert (.deed (.publish lastName n))

def bodyParts : List Stmt → List Part
  | [] => []
  | [s] => lastParts s
  | s :: ss => innerParts s ++ bodyParts ss

/-- The names that the body of a cell takes over. -/
def preloadNames (prior : Declarations) (body : List Stmt) : List String :=
  prior.names.filter fun n =>
    (mentioned (body.map requireInside)).contains n && !(topLevelGlobals body).contains n

def shapes (prior : Declarations) (body : List Stmt) : List Shape :=
  (preloadNames prior body).map .fetch ++ (bodyParts body).map .part

theorem keys_inner {s : Stmt} {p : Part} (member : p ∈ innerParts s) {n : String} (key : n ∈ p.keys) :
    n ∈ publishedNames s := by
  unfold innerParts at member
  unfold publishedNames
  split at member
  next => cases member
  next computes =>
    rw [if_neg computes]
    rcases List.mem_append.mp member with own | inserted
    · obtain ⟨_, -, rfl⟩ := List.mem_map.mp own
      cases key
    · obtain ⟨i, there, rfl⟩ := List.mem_map.mp inserted
      rcases List.mem_append.mp there with published | removed
      · obtain ⟨m, bound, rfl⟩ := List.mem_map.mp published
        split at key
        all_goals exact List.mem_singleton.mp key ▸ bound
      · obtain ⟨m, -, rfl⟩ := List.mem_map.mp removed
        cases key

theorem capturePart_cases (e : Expr) :
    capturePart e = .capture ∨ ∃ n, capturePart e = .insert (.deed (.publish lastName n)) := by
  unfold capturePart
  split
  next q n c =>
    split
    · exact .inl rfl
    · exact .inr ⟨n, rfl⟩
  next => exact .inl rfl

theorem keys_capture (e : Expr) {n : String} (key : n ∈ (capturePart e).keys) : n = lastName := by
  rcases capturePart_cases e with part | ⟨m, part⟩
  · rw [part] at key
    exact List.mem_singleton.mp key
  · rw [part] at key
    exact List.mem_singleton.mp key

theorem keys_last {s : Stmt} {p : Part} (member : p ∈ lastParts s) {n : String} (key : n ∈ p.keys) :
    n ∈ publishedNames s ∨ n = lastName := by
  unfold lastParts at member
  split at member
  next => cases member
  next computes =>
    split at member
    next q e =>
      cases List.mem_singleton.mp member
      exact .inr (keys_capture e key)
    next =>
      rcases List.mem_append.mp member with inner | shown
      · exact .inl (keys_inner inner key)
      · obtain ⟨m, -, rfl⟩ := List.mem_map.mp shown
        exact .inr (List.mem_singleton.mp key)

/-- After the parts of a statement that is not the last, its names are published as far as they are bound, and
those that it deletes are removed. -/
theorem follows_inner {s : Stmt} {e e' : Exports Value} (h : Follows (innerParts s) e e') :
    ∃ e₁, Publishes (publishedNames s) e e₁ ∧ e' = (deletedNames s).foldl Exports.remove e₁ := by
  unfold innerParts at h
  unfold publishedNames
  split at h
  next bare =>
    cases h
    have none : deletedNames s = [] := by
      cases s <;> first | rfl | cases bare
    rw [if_pos bare, none]
    exact ⟨_, .nil _, rfl⟩
  next computes =>
    rw [if_neg computes]
    obtain ⟨e₁, own, inserted⟩ := h.of_append
    have same : e₁ = e := own.of_cells fun p member => by
      obtain ⟨_, -, rfl⟩ := List.mem_map.mp member
      rfl
    rw [same, insertsAfter, List.map_append, List.map_map, List.map_map] at inserted
    obtain ⟨e₂, published, removed⟩ := inserted.of_append
    refine ⟨e₂, ?_, removed.of_removals⟩
    clear removed inserted same own h
    generalize bindings s = names at published
    generalize isCompound s = guarded at published
    induction names generalizing e with
    | nil =>
      cases published
      exact .nil _
    | cons n names ih =>
      cases published with
      | @insert _ _ _ e₃ _ here rest =>
        obtain ⟨known, after⟩ := here
        cases guarded with
        | false =>
          obtain ⟨v, -, rfl⟩ := Option.map_eq_some_iff.mp after
          exact .assign v (ih rest)
        | true =>
          cases after
          cases found : known n with
          | none =>
            rw [found] at rest
            exact .skip (ih rest)
          | some v =>
            rw [found] at rest
            exact .assign v (ih rest)

/-- After all parts of a body its statements have taken the namespace to another, beside the last value. -/
theorem follows_leaves {tree : List Stmt} {e e' : Exports Value} (h : Follows (bodyParts tree) e e') :
    ∃ e₁, Leaves tree e e₁ ∧ (e' = e₁ ∨ ∃ v, e' = e₁.assign lastName v) := by
  induction tree generalizing e with
  | nil =>
    cases h
    exact ⟨_, .nil _, .inl rfl⟩
  | cons s tree ih =>
    cases tree with
    | cons t tree =>
      obtain ⟨e₁, first, rest⟩ := Follows.of_append (show Follows (innerParts s ++ bodyParts (t :: tree)) e e' from h)
      obtain ⟨e₂, published, rfl⟩ := follows_inner first
      obtain ⟨e₃, leaves, shown⟩ := ih rest
      exact ⟨e₃, .cons published leaves, shown⟩
    | nil =>
      change Follows (lastParts s) e e' at h
      have inner (last : Follows (innerParts s) e e') :
          ∃ e₁, Leaves [s] e e₁ ∧ (e' = e₁ ∨ ∃ v, e' = e₁.assign lastName v) := by
        obtain ⟨e₁, published, rfl⟩ := follows_inner last
        exact ⟨_, .cons published (.nil _), .inl rfl⟩
      unfold lastParts at h
      split at h
      next bare =>
        refine inner ?_
        unfold innerParts
        rwa [if_pos bare]
      next computes =>
        split at h
        next q a =>
          have nothing : Leaves [.expr q a] e e := by
            refine .cons ?_ (.nil _)
            generalize publishedNames (.expr q a) = names
            induction names with
            | nil => exact .nil e
            | cons n names ih => exact .skip ih
          rcases capturePart_cases a with part | ⟨n, part⟩
          · rw [part] at h
            cases h with
            | capture v rest =>
              cases rest
              exact ⟨e, nothing, .inr ⟨v, rfl⟩⟩
          · rw [part] at h
            cases h with
            | insert here rest =>
              cases rest
              obtain ⟨known, after⟩ := here
              obtain ⟨v, -, rfl⟩ := Option.map_eq_some_iff.mp after
              exact ⟨e, nothing, .inr ⟨v, rfl⟩⟩
        next =>
          obtain ⟨e₁, first, last⟩ := h.of_append
          obtain ⟨e₂, published, rfl⟩ := follows_inner first
          refine ⟨_, .cons published (.nil _), ?_⟩
          cases shown : displayedTarget s with
          | none =>
            rw [shown] at last
            cases last
            exact .inl rfl
          | some n =>
            rw [shown] at last
            cases last with
            | insert here rest =>
              cases rest
              obtain ⟨known, after⟩ := here
              obtain ⟨v, -, rfl⟩ := Option.map_eq_some_iff.mp after
              exact .inr ⟨v, rfl⟩

/-- Wherever the body of a cell stops, some statements have taken the namespace to another, and beside the last
value it has no names but those and some that the next statement publishes. -/
theorem follows_stopped {tree : List Stmt} {ps : List Part} (within : ps <+: bodyParts tree) {e e' : Exports Value}
    (h : Follows ps e e') :
    ∃ done rest e₁, tree = done ++ rest ∧ Leaves done e e₁ ∧
      ∀ n ∈ e'.names, n ∈ e₁.names ∨ n ∈ rest.head?.elim [] publishedNames ∨ n = lastName := by
  induction tree generalizing ps e with
  | nil =>
    cases List.prefix_nil.mp within
    cases h
    exact ⟨[], [], _, rfl, .nil _, fun n there => .inl there⟩
  | cons s tree ih =>
    have midst (keys : ∀ p ∈ ps, ∀ n ∈ p.keys, n ∈ publishedNames s ∨ n = lastName) :
        ∃ done rest e₁, s :: tree = done ++ rest ∧ Leaves done e e₁ ∧
          ∀ n ∈ e'.names, n ∈ e₁.names ∨ n ∈ rest.head?.elim [] publishedNames ∨ n = lastName := by
      refine ⟨[], s :: tree, e, rfl, .nil e, fun n there => (h.of_mem there).imp id ?_⟩
      rintro ⟨p, member, key⟩
      exact keys p member n key
    cases tree with
    | nil => exact midst fun p member n key => keys_last (within.mem member) key
    | cons t tree =>
      change ps <+: innerParts s ++ bodyParts (t :: tree) at within
      rcases List.prefix_or_prefix_of_prefix within (List.prefix_append _ _) with inside | ⟨qs, rfl⟩
      · exact midst fun p member n key => .inl (keys_inner (inside.mem member) key)
      · have later : qs <+: bodyParts (t :: tree) := (List.prefix_append_right_inj _).mp within
        obtain ⟨e₁, first, rest⟩ := h.of_append
        obtain ⟨e₂, published, rfl⟩ := follows_inner first
        obtain ⟨done, left, e₃, whole, leaves, names⟩ := ih later rest
        exact ⟨s :: done, left, e₃, by rw [whole]; rfl, .cons published leaves, names⟩

theorem own_inner {s : Stmt} {p : Part} (member : p ∈ innerParts s) : p.isOwn = true := by
  unfold innerParts at member
  split at member
  next => cases member
  next =>
    rcases List.mem_append.mp member with own | inserted
    · obtain ⟨_, -, rfl⟩ := List.mem_map.mp own
      rfl
    · obtain ⟨i, there, rfl⟩ := List.mem_map.mp inserted
      rcases List.mem_append.mp there with published | removed
      · obtain ⟨m, -, rfl⟩ := List.mem_map.mp published
        split
        · rfl
        · exact beq_self_eq_true m
      · obtain ⟨m, -, rfl⟩ := List.mem_map.mp removed
        rfl

theorem lastStmts_shown {s : Stmt} (computes : isBareAnnotation s = false) (other : ∀ p e, s ≠ .expr p e) :
    (lastStmts s).2 = (displayedTarget s).isSome := by
  unfold lastStmts
  rw [if_neg (by simp [computes])]
  split
  next p e => exact absurd rfl (other p e)
  next => cases displayedTarget s <;> rfl

/-- The part of a body that sets aside the value of its last statement, if there is one to be shown. -/
def shownPart : Stmt → Option Part
  | .expr _ e => some (capturePart e)
  | s => (displayedTarget s).map fun n => .insert (.deed (.publish lastName n))

theorem shownPart_shows {s : Stmt} {p : Part} (h : shownPart s = some p) : p.Shows := by
  unfold shownPart at h
  split at h
  next q e =>
    cases h
    exact capturePart_cases e
  next =>
    obtain ⟨n, -, rfl⟩ := Option.map_eq_some_iff.mp h
    exact .inr ⟨n, rfl⟩

/-- A body sets a value aside with its last part, if at all, and its other parts publish names of its
statements under themselves. -/
theorem bodyParts_shown (tree : List Stmt) :
    ∃ ps, bodyParts tree = ps ++ (tree.getLast?.bind shownPart).toList ∧
      (∀ p ∈ ps, p.isOwn = true ∧ ∀ n ∈ p.keys, ∃ t ∈ tree, n ∈ publishedNames t) ∧
      (bodyStmts tree).2 = (tree.getLast?.bind shownPart).isSome := by
  have inner (s : Stmt) (tree : List Stmt) : ∀ p ∈ innerParts s,
      p.isOwn = true ∧ ∀ n ∈ p.keys, ∃ t ∈ s :: tree, n ∈ publishedNames t :=
    fun p member => ⟨own_inner member, fun n key => ⟨s, List.mem_cons_self, keys_inner member key⟩⟩
  induction tree with
  | nil => exact ⟨[], rfl, by simp, rfl⟩
  | cons s tree ih =>
    cases tree with
    | cons t tree =>
      obtain ⟨ps, split, own, shown⟩ := ih
      have last : (s :: t :: tree).getLast? = (t :: tree).getLast? := List.getLast?_cons_cons
      rw [last]
      refine ⟨innerParts s ++ ps, ?_, fun p member => ?_, shown⟩
      · rw [List.append_assoc, ← split]
        rfl
      · rcases List.mem_append.mp member with here | later
        · exact inner s _ p here
        · obtain ⟨own_, keys⟩ := own p later
          refine ⟨own_, fun n key => ?_⟩
          obtain ⟨u, there, published⟩ := keys n key
          exact ⟨u, List.mem_cons_of_mem _ there, published⟩
    | nil =>
      change ∃ ps, lastParts s = ps ++ (shownPart s).toList ∧ _ ∧ (lastStmts s).2 = (shownPart s).isSome
      unfold lastParts
      split
      next bare =>
        have nothing : shownPart s = none := by
          cases s <;> first | rfl | cases bare
        rw [nothing]
        refine ⟨[], rfl, by simp, ?_⟩
        unfold lastStmts
        rw [if_pos bare]
        rfl
      next computes =>
        split
        next q a =>
          refine ⟨[], rfl, by simp, ?_⟩
          unfold lastStmts
          rw [if_neg computes]
          rfl
        next other =>
          have shown : shownPart s = (displayedTarget s).map fun n => .insert (.deed (.publish lastName n)) := by
            cases s <;> first | rfl | exact absurd rfl (other _ _)
          rw [lastStmts_shown (by simpa using computes) other, shown]
          refine ⟨innerParts s, ?_, inner s [], ?_⟩ <;> cases displayedTarget s <;> rfl

end Notebook.Cell
