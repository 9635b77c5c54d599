import Notebook.Proofs.Guarded

/-! What a statement declares it also publishes: in the body of a cell the names that a statement binds
are published right after it, those of a statement with bodies of its own under a guard, and executing
that stretch publishes every one of them that stands for something. -/

set_option autoImplicit false

namespace Notebook.Exports

variable {α : Type} {m n : String}

theorem lookup_replaced_self (v : α) {entries : List (String × α)} (there : (entries.lookup n).isSome = true) :
    (entries.map fun p => if p.1 == n then (n, v) else p).lookup n = some v := by
  induction entries with
  | nil => cases there
  | cons p rest ih =>
    obtain ⟨k, u⟩ := p
    by_cases here : k = n
    · simp [here]
    · have other : (n == k) = false := by simpa using Ne.symm here
      have later : (rest.lookup n).isSome = true := by simpa [List.lookup_cons, other] using there
      simp only [List.map_cons, beq_eq_false_iff_ne.mpr here, Bool.false_eq_true, if_false, List.lookup_cons,
        other, ih later]

theorem lookup_replaced_other (other : m ≠ n) (v : α) (entries : List (String × α)) :
    (entries.map fun p => if p.1 == n then (n, v) else p).lookup m = entries.lookup m := by
  induction entries with
  | nil => rfl
  | cons p rest ih =>
    obtain ⟨k, u⟩ := p
    by_cases here : k = n
    · simp only [List.map_cons, here, BEq.rfl, if_true, List.lookup_cons, beq_eq_false_iff_ne.mpr other, ih]
    · simp only [List.map_cons, beq_eq_false_iff_ne.mpr here, Bool.false_eq_true, if_false, List.lookup_cons, ih]

theorem get?_assign (e : Exports α) (v : α) :
    (e.assign n v).get? m = if m = n ∧ n ≠ reservedMarker then some v else e.get? m := by
  unfold assign
  by_cases free : n = reservedMarker
  · simp [free]
  · rw [if_neg (by simpa using free)]
    simp only [free, ne_eq, not_false_eq_true, and_true]
    split
    next there =>
      split
      next same =>
        subst same
        exact lookup_replaced_self v there
      next other => exact lookup_replaced_other other v _
    next missing =>
      have absent : e.entries.lookup n = none := by
        unfold contains get? at missing
        exact Option.not_isSome_iff_eq_none.mp missing
      by_cases same : m = n
      · simp [get?, List.lookup_append, same, absent]
      · have other : (m == n) = false := by simpa using same
        simp [get?, List.lookup_append, List.lookup_cons, same, other]

end Notebook.Exports

namespace Notebook.Machine

open Notebook.Tree

def publishKnown (values : String → Option Value) (e : Exports Value) (names : List String) : Exports Value :=
  names.foldl (fun e n => (values n).elim e (e.assign n)) e

/-- Names that stand for something are published with their values, and the rest stays as it is; the
namespace takes any name but one. -/
theorem get?_publishKnown (values : String → Option Value) (e : Exports Value) (names : List String) (n : String) :
    (publishKnown values e names).get? n
      = if n ∈ names ∧ n ≠ reservedMarker then (values n).or (e.get? n) else e.get? n := by
  have first (e : Exports Value) (m : String) : ((values m).elim e (e.assign m)).get? n
      = if n = m ∧ m ≠ reservedMarker then (values m).or (e.get? n) else e.get? n := by
    cases values m with
    | none => simp
    | some v => simp [Exports.get?_assign]
  induction names generalizing e with
  | nil => simp [publishKnown]
  | cons m names ih =>
    change (publishKnown values ((values m).elim e (e.assign m)) names).get? n = _
    rw [ih, first]
    by_cases same : n = m
    · subst same
      by_cases free : n = reservedMarker
      · simp [free]
      · cases values n <;> simp [free]
    · simp [same]

end Notebook.Machine

namespace Notebook.Realm

open Notebook.Machine Notebook.Code Notebook.Scope Notebook.Source Notebook.Tree

variable {file : String} {body : List Stmt} {isAsync : Bool} {program : Program}

/-- Where some statements of a body end and the others start in its function. -/
structure Wrapped.Splits (x : Wrapped file body isAsync program) (first rest : List Stmt) (d : Draft) : Prop where
  whole : body = first ++ rest
  before : (Draft.start (wrapHeading body isAsync) x.scope params #[]).Leads d
  written : ∃ d', (genStmts [] rest).run x.setting d = .ok ((), d') ∧ d'.Leads x.draft

theorem Wrapped.splits {first rest : List Stmt} (x : Wrapped file (first ++ rest) isAsync program)
    (some_ : rest ≠ []) (undocumented : docOf rest = none) : ∃ d, x.Splits first rest d := by
  obtain ⟨d, d', before, written, after⟩ := writeInside_append some_ undocumented x.written
  exact ⟨d, rfl, before, d', written, after⟩

namespace Wrapped.Splits

variable {x : Wrapped file body isAsync program} {first rest : List Stmt} {d : Draft}

theorem across {mid : List Stmt} (h : x.Splits first (mid ++ rest) d) :
    ∃ d', (genStmts [] mid).run x.setting d = .ok ((), d') ∧ d'.Leads x.draft ∧
      x.Splits (first ++ mid) rest d' := by
  obtain ⟨whole, before, d₂, written, after⟩ := h
  obtain ⟨d', here, later⟩ := genStmts_append written
  refine ⟨d', here, ((genStmts [] rest).leads _ _ _ later).trans after, ?_, ?_, d₂, later, after⟩
  · rw [whole, List.append_assoc]
  · exact before.trans ((genStmts [] mid).leads _ _ _ here)

theorem next {s : Stmt} (h : x.Splits first (s :: rest) d) :
    ∃ d', (genStmt [] s).run x.setting d = .ok ((), d') ∧ d'.Leads x.draft ∧
      x.Splits (first ++ [s]) rest d' := by
  obtain ⟨d', here, onward, later⟩ := across (show x.Splits first ([s] ++ rest) d from h)
  rw [genStmts] at here
  obtain ⟨_, d₁, written, done⟩ := Gen.of_bind_ok here
  rw [genStmts] at done
  cases done
  exact ⟨d', written, onward, later⟩

theorem stage (h : x.Splits first rest d) {ns : Ref} {e : Exports Value} {f : Frame} {w : World}
    (inBody : InBody x ns e f w) : Stage x.scope params d.slots ns f w e := by
  obtain ⟨code, apart, native, isNamespace, here⟩ := inBody
  obtain ⟨d', written, after⟩ := h.written
  have within : d.slots.toList <+: x.code.slots.toList :=
    ((genStmts [] rest).leads _ _ _ written).slots.trans after.slots
  exact ⟨code ▸ x.houses, h.before.slots, code ▸ within, x.exports_own, apart, native, isNamespace, here⟩

theorem inBody {slots : Array String} {ns : Ref} {e : Exports Value} {f : Frame} {w : World}
    (code : f.code = x.code) (st : Stage x.scope params slots ns f w e) : InBody x ns e f w :=
  ⟨code, st.apart, st.native, st.isNamespace, st.here⟩

end Wrapped.Splits

theorem positionOf_placed {d : Draft} {l p : Nat} (placed : d.labels[l]? = some (some p)) :
    positionOf d l = p := by
  rw [positionOf, Array.getD_eq_getD_getElem?, placed]
  rfl

theorem guardedCode_placed (r : Resolved) (slots : Array String) (kind : Bool) (n : String)
    (handler cleanup next done : Nat) (g : Nat → Nat) :
    (guardedCode r slots kind n handler cleanup next done).map (·.mapTarget g)
      = guardedCode r slots kind n (g handler) (g cleanup) (g next) (g done) := by
  have named (m : String) : (nameInstr r slots m .load).mapTarget g = nameInstr r slots m .load :=
    mapTarget_fixed (nameInstr_hasTarget ..) g
  simp only [guardedCode, Deed.code, List.cons_append, List.nil_append, List.map_cons, List.map_nil, named]
  rfl

def publication (guarded : Bool) : String → Stmt :=
  if guarded then Cell.guardedPublishStmt else Cell.publishStmt

/-- A frame of the function goes on from one draft to another and publishes names as far as they stand for
something. Without a guard they all have to. -/
def Wrapped.PublishesFrom (x : Wrapped file body isAsync program) (guarded : Bool) (names : List String)
    (d d' : Draft) : Prop :=
  ∀ (k : Nat) (ns : Ref) (e : Exports Value) (f : Frame) (w : World), InBody x ns e f w →
    f.pc = d.instrs.size →
    (∀ n ∈ names, f.known? x.scope w n ≠ none ∨
      guarded = true ∧ f.known? x.scope w "NameError" = some (.ref (nativeRef "NameError"))) →
    ∃ steps w', Goes (hostAt (k + 1)) steps f w { f with pc := d'.instrs.size } w' ∧
      InBody x ns (publishKnown (f.known? x.scope w) e names) { f with pc := d'.instrs.size } w' ∧
      ∀ n, ({ f with pc := d'.instrs.size } : Frame).known? x.scope w' n = f.known? x.scope w n

namespace Wrapped.Splits

variable {x : Wrapped file body isAsync program} {first rest : List Stmt} {d : Draft}

theorem publish_from {n : String} (h : x.Splits first (Cell.publishStmt n :: rest) d)
    (unfree : ∀ m, x.scope.binding m ≠ .free) (plain : n ≠ "__debug__") :
    ∃ d', x.Splits (first ++ [Cell.publishStmt n]) rest d' ∧ x.PublishesFrom false [n] d d' := by
  obtain ⟨d', here, onward, later⟩ := h.next
  obtain ⟨kind, adds⟩ := deed_adds (deedOf_assign n plain) x.owner d.slots []
  obtain ⟨instrs, -⟩ := adds d _ d' rfl here
  have size : d'.instrs.size = d.instrs.size + 6 := by
    rw [← Array.length_toList, instrs, List.length_append, Array.length_toList]
    rfl
  have fixed : ∀ i ∈ (Deed.publish n n).code x.setting.scope d.slots kind, hasTarget i = false := by
    have doing : Doing x.setting.scope d.slots [.publish n n] _ := .cons _ kind .nil
    rw [List.append_nil] at doing
    exact doing_fixed doing
  have stands : Stands x.code d.instrs.size ((Deed.publish n n).code x.setting.scope d.slots kind) :=
    stands_unit (instrs ▸ onward.instrs) fixed ..
  refine ⟨d', later, fun k ns e f w inBody at_ known => ?_⟩
  have st := h.stage inBody
  rw [← inBody.code, ← at_, x.settingScope] at stands
  obtain some_ | ⟨⟨⟩, -⟩ := known n List.mem_cons_self
  obtain ⟨v, value⟩ := Option.ne_none_iff_exists'.mp some_
  have published := st.publish_goes k (unfree n) value stands
  have after : publishKnown (f.known? x.scope w) e [n] = e.assign n v := by
    change (f.known? x.scope w n).elim e (e.assign n) = _
    rw [value, Option.elim_some]
  rw [size, ← at_, after]
  exact ⟨6, _, published, Wrapped.Splits.inBody inBody.code (st.done _ _), st.known?_setEntries _ _⟩

theorem guarded_from {n : String} (h : x.Splits first (Cell.guardedPublishStmt n :: rest) d)
    (unfree : ∀ m, x.scope.binding m ≠ .free) (plain : n ≠ "__debug__") :
    ∃ d', x.Splits (first ++ [Cell.guardedPublishStmt n]) rest d' ∧ x.PublishesFrom true [n] d d' := by
  obtain ⟨d', here, onward, later⟩ := h.next
  obtain ⟨kind, ls, writes, handler, cleanup, next, done⟩ :=
    guarded_writes (guardedName_publish plain) x.owner d.slots d.instrs.size d.labels
  obtain ⟨-, instrs, -, rfl⟩ := writes d _ d' rfl rfl rfl here
  have size : d'.instrs.size = d.instrs.size + 22 := by
    rw [← Array.length_toList, instrs, List.length_append, Array.length_toList]
    rfl
  have stands := stands_placed (instrs ▸ onward.instrs) (wrapHeading body isAsync) x.scope cellFunction file
  rw [guardedCode_placed, positionOf_placed (onward.labels _ _ handler),
    positionOf_placed (onward.labels _ _ cleanup), positionOf_placed (onward.labels _ _ next),
    positionOf_placed (onward.labels _ _ done)] at stands
  change Stands x.code _ _ at stands
  refine ⟨d', later, fun k ns e f w inBody at_ known => ?_⟩
  have st := h.stage inBody
  rw [← inBody.code, ← at_, x.settingScope] at stands
  rw [size, ← at_]
  change ∃ steps w', _ ∧ InBody x ns ((f.known? x.scope w n).elim e (e.assign n)) _ w' ∧ _
  cases value : f.known? x.scope w n with
  | some v =>
    have published := st.guarded_known k (unfree n) value stands
    exact ⟨9, _, published, Wrapped.Splits.inBody inBody.code (st.done _ _), st.known?_setEntries _ _⟩
  | none =>
    obtain some_ | ⟨-, error⟩ := known n List.mem_cons_self
    · exact absurd value some_
    · obtain ⟨w', goes, grows⟩ := st.guarded_unknown k (unfree n) value (unfree _) error stands
      have st' : Stage x.scope params d.slots ns { f with pc := f.pc + 22 } w' e :=
        (st.grows grows).moved (f.pc + 22) f.stack f.guards
      exact ⟨14, w', goes, Wrapped.Splits.inBody inBody.code st', st.known?_grows grows⟩

theorem publications_from {guarded : Bool} {names : List String}
    (h : x.Splits first (names.map (publication guarded) ++ rest) d) (unfree : ∀ m, x.scope.binding m ≠ .free)
    (plain : "__debug__" ∉ names) :
    ∃ d', x.Splits (first ++ names.map (publication guarded)) rest d' ∧ x.PublishesFrom guarded names d d' := by
  induction names generalizing first d with
  | nil =>
    rw [List.map_nil, List.append_nil]
    refine ⟨d, h, fun k ns e f w inBody at_ known => ⟨0, w, ?_, ?_, fun n => rfl⟩⟩
    · rw [← at_]
      exact .refl _ f w
    · rw [← at_]
      exact inBody
  | cons n names ih =>
    have other : n ≠ "__debug__" := by
      rintro rfl
      exact plain List.mem_cons_self
    have here : ∃ d₁, x.Splits (first ++ [publication guarded n]) (names.map (publication guarded) ++ rest) d₁ ∧
        x.PublishesFrom guarded [n] d d₁ := by
      cases guarded with
      | false => exact publish_from h unfree other
      | true => exact guarded_from h unfree other
    obtain ⟨d₁, between, goesFirst⟩ := here
    obtain ⟨d', later, goesOn⟩ := ih between fun member => plain (List.mem_cons_of_mem _ member)
    rw [List.append_assoc] at later
    refine ⟨d', later, fun k ns e f w inBody at_ known => ?_⟩
    obtain ⟨m, w₁, first_, inBody₁, same⟩ :=
      goesFirst k ns e f w inBody at_ fun m member => known m (List.mem_singleton.mp member ▸ List.mem_cons_self)
    have values : ({ f with pc := d₁.instrs.size } : Frame).known? x.scope w₁ = f.known? x.scope w := funext same
    obtain ⟨m', w', second, inBody', same'⟩ := goesOn k ns _ _ w₁ inBody₁ rfl fun n' member => by
      rw [values]
      exact known n' (List.mem_cons_of_mem _ member)
    rw [values] at inBody'
    exact ⟨_, w', first_.trans second, inBody', fun n' => (same' n').trans (same n')⟩

end Wrapped.Splits

end Notebook.Realm

namespace Notebook.Cell

open Notebook.Machine Notebook.Tree Notebook.Realm
open Notebook.Code (of_bind_ok of_toOption_any)

/-- What stands in a body after what comes from a statement that computes. -/
def remainder (s : Stmt) : List Stmt → List Stmt
  | [] => (displayedTarget s).elim [] fun n => [assignStmt lastName (nameExpr n)]
  | t :: rest => (bodyStmts (t :: rest)).1

/-- What stands in a body after the publications of a statement that computes. -/
def afterwards (s : Stmt) (rest : List Stmt) : List Stmt :=
  (deletedNames s).map removeStmt ++ remainder s rest

/-- In a body what comes from a statement that computes is the statement, its publications and the rest;
of the last one only if it is no expression. -/
theorem bodyStmts_split {first rest : List Stmt} {s : Stmt} (computes : isBareAnnotation s = false)
    (kept : rest = [] → ∀ p v, s ≠ .expr p v) :
    (bodyStmts (first ++ s :: rest)).1 = first.flatMap innerStmts ++ (requireStmt false s ++
      ((bindings s).map (publication (isCompound s)) ++ afterwards s rest)) := by
  have own : withPublication s = requireStmt false s ++
      ((bindings s).map (publication (isCompound s)) ++ (deletedNames s).map removeStmt) := List.append_assoc ..
  induction first with
  | nil =>
    cases rest with
    | nil =>
      have last : (lastStmts s).1 = withPublication s ++
          (displayedTarget s).elim [] fun n => [assignStmt lastName (nameExpr n)] := by
        unfold lastStmts
        rw [computes, if_neg Bool.false_ne_true]
        split
        next p v => exact absurd rfl (kept rfl p v)
        next => cases displayedTarget s <;> simp
      change (lastStmts s).1 = _
      rw [last, own, afterwards, remainder]
      simp only [List.flatMap_nil, List.nil_append, List.append_assoc]
    | cons t rest =>
      have inner : (bodyStmts (s :: t :: rest)).1 = withPublication s ++ (bodyStmts (t :: rest)).1 := by
        change innerStmts s ++ _ = _
        rw [innerStmts, computes, if_neg Bool.false_ne_true]
      rw [List.nil_append, inner, own, afterwards, remainder]
      simp only [List.flatMap_nil, List.nil_append, List.append_assoc]
  | cons t first ih =>
    have inner : (bodyStmts (t :: (first ++ s :: rest))).1 = innerStmts t ++ (bodyStmts (first ++ s :: rest)).1 := by
      cases first <;> rfl
    rw [List.cons_append, inner, ih, List.flatMap_cons, List.append_assoc]

/-- Names are declared where they are bound: a declared target is stored to, and what is imported has a
name. -/
def DeclaresOwn : Stmt → Prop
  | .annAssign _ (.name _ _ c) _ _ _ => c = .store
  | .import _ names => ∀ a ∈ names, a.binding false ≠ "*"
  | _ => True

theorem entries_bound {s : Stmt} {es : List (String × String)} (h : entries s = .ok es) (own : DeclaresOwn s)
    {n : String} (declared : n ∈ es.map (·.1)) : n ∈ bindings s := by
  unfold entries at h
  split at h
  next p f body =>
    obtain ⟨line, _, h⟩ := of_bind_ok h
    cases h
    rw [bindings_function]
    exact declared
  next p c body =>
    obtain ⟨line, _, h⟩ := of_bind_ok h
    cases h
    rw [bindings_class]
    exact declared
  next p names =>
    cases h
    rw [List.map_map] at declared
    have member : n ∈ names.map (·.binding false) := declared
    obtain ⟨a, there, rfl⟩ := List.mem_map.mp declared
    rw [bindings, List.mem_eraseDups]
    simp only [Stmt.outline, Outline.leaf, bindingOccurrences, Mark.bound, Mark.opens, bindingOccurrencesAll,
      Bool.false_eq_true, if_false, List.append_nil, List.mem_filter]
    exact ⟨member, by simpa using own a there⟩
  next p q id c a v simple =>
    obtain ⟨line, _, h⟩ := of_bind_ok h
    cases h
    cases own
    rw [bindings, List.mem_eraseDups]
    rw [List.mem_singleton.mp declared]
    simp [Stmt.outline, Expr.outline, Outline.leaf, bindingOccurrences, bindingOccurrencesAll, Mark.bound, Mark.opens]
  next =>
    cases h
    simpa using declared

/-- What a body starts with before the publications of a statement. -/
def beforehand (prior : Declarations) (first rest : List Stmt) (s : Stmt) : List Stmt :=
  preloads prior (first ++ s :: rest) ++ first.flatMap innerStmts ++ requireStmt false s

/-- The function of a body publishes names at one place: the statements of the body that do it stand between
others, and a frame that comes to them goes through and has then published those that stand for something,
and nothing else. Without a guard all have to. -/
def PublishesAt {file : String} {body : List Stmt} {isAsync : Bool} {program : Code.Program}
    (x : Wrapped file body isAsync program) (before : List Stmt) (guarded : Bool) (names : List String)
    (after : List Stmt) : Prop :=
  ∃ d d', x.Splits before (names.map (publication guarded) ++ after) d ∧
    x.Splits (before ++ names.map (publication guarded)) after d' ∧
    ∀ (k : Nat) (ns : Ref) (e : Exports Value) (f : Frame) (w : World), InBody x ns e f w →
      f.pc = d.instrs.size →
      (∀ n ∈ names, f.known? x.scope w n ≠ none ∨
        guarded = true ∧ f.known? x.scope w "NameError" = some (.ref (nativeRef "NameError"))) →
      ∃ steps w' e', Goes (hostAt (k + 1)) steps f w { f with pc := d'.instrs.size } w' ∧
        InBody x ns e' { f with pc := d'.instrs.size } w' ∧
        ∀ n, e'.get? n = if n ∈ names ∧ n ≠ reservedMarker then (f.known? x.scope w n).or (e.get? n)
          else e.get? n

/-- The names that a statement declares are among those that are published after it, between what it has
become and the next statement: each that is bound there is then in the namespace. It holds for every
statement that computes but for a last one that is an expression. -/
theorem published_after {file : String} {prior : Declarations} {first rest : List Stmt} {s : Stmt}
    {isAsync : Bool} {program : Code.Program} {es : List (String × String)}
    (compiled : Code.compile { file }
      [wrap (preloads prior (first ++ s :: rest) ++ (bodyStmts (first ++ s :: rest)).1) isAsync] = .ok program)
    (computes : isBareAnnotation s = false) (kept : rest = [] → ∀ p v, s ≠ .expr p v)
    (binds : bindings s ≠ []) (plain : "__debug__" ∉ bindings s) (declared : entries s = .ok es)
    (own : DeclaresOwn s) :
    (∀ n ∈ es.map (·.1), n ∈ bindings s) ∧
    ∃ x : Wrapped file (preloads prior (first ++ s :: rest) ++ (bodyStmts (first ++ s :: rest)).1) isAsync program,
      PublishesAt x (beforehand prior first rest s) (isCompound s) (bindings s) (afterwards s rest) := by
  refine ⟨fun n member => entries_bound declared own member, ?_⟩
  obtain ⟨x, unfree⟩ := compile_unfree compiled
  refine ⟨x, ?_⟩
  have whole : preloads prior (first ++ s :: rest) ++ (bodyStmts (first ++ s :: rest)).1
      = beforehand prior first rest s ++
        ((bindings s).map (publication (isCompound s)) ++ afterwards s rest) := by
    rw [bodyStmts_split computes kept, beforehand]
    simp only [List.append_assoc]
  generalize preloads prior (first ++ s :: rest) ++ (bodyStmts (first ++ s :: rest)).1 = body at x whole
  subst whole
  obtain ⟨n, names, hn⟩ := List.exists_cons_of_ne_nil binds
  have undocumented : Code.docOf ((bindings s).map (publication (isCompound s)) ++ afterwards s rest) = none := by
    rw [hn]
    cases isCompound s <;> rfl
  have some_ : (bindings s).map (publication (isCompound s)) ++ afterwards s rest ≠ [] := by
    rw [hn]
    exact List.cons_ne_nil _ _
  obtain ⟨d, splits⟩ := x.splits some_ undocumented
  obtain ⟨d', later, goes⟩ := splits.publications_from unfree plain
  refine ⟨d, d', splits, later, fun k ns e f w inBody at_ known => ?_⟩
  obtain ⟨steps, w', through, inBody', -⟩ := goes k ns e f w inBody at_ known
  exact ⟨steps, w', _, through, inBody', get?_publishKnown _ e _⟩

set_option maxRecDepth 100000 in
theorem published_after_branch :
    let s : Stmt := .if ⟨1, 0⟩ (.const ⟨1, 3⟩ (.bool true))
      [.assign ⟨1, 9⟩ [.name ⟨1, 9⟩ "x" .store] (.const ⟨1, 13⟩ (.int 1))] []
    let es := [("x", "x: object")]
    ∃ program,
      (Code.compile { file := "<cell-1>" } [wrap (preloads [] ([] ++ s :: []) ++ (bodyStmts ([] ++ s :: [])).1) false]
            = .ok program ∧
          isBareAnnotation s = false ∧ (([] : List Stmt) = [] → ∀ p v, s ≠ .expr p v) ∧ bindings s ≠ [] ∧
          "__debug__" ∉ bindings s ∧ entries s = .ok es ∧ DeclaresOwn s) ∧
        (∀ n ∈ es.map (·.1), n ∈ bindings s) ∧
        ∃ x : Wrapped "<cell-1>" (preloads [] ([] ++ s :: []) ++ (bodyStmts ([] ++ s :: [])).1) false program,
          PublishesAt x (beforehand [] [] [] s) (isCompound s) (bindings s) (afterwards s []) := by
  intro s es
  have coded : (Code.compile { file := "<cell-1>" }
      [wrap (preloads [] ([] ++ s :: []) ++ (bodyStmts ([] ++ s :: [])).1) false]).toOption.any (fun _ => true)
        = true := by
    decide +kernel
  obtain ⟨program, compiled, -⟩ := of_toOption_any coded
  have kept : ([] : List Stmt) = [] → ∀ p v, s ≠ .expr p v := fun _ _ _ => Stmt.noConfusion
  have binds : bindings s ≠ [] := by decide +kernel
  have plain : "__debug__" ∉ bindings s := by decide +kernel
  have declared : entries s = .ok es := by rfl
  exact ⟨program, ⟨compiled, rfl, kept, binds, plain, declared, trivial⟩,
    published_after compiled rfl kept binds plain declared trivial⟩

end Notebook.Cell

namespace Notebook.Session

open Notebook.Machine Notebook.Loop Notebook.Cell

set_option maxRecDepth 100000 in
/-- A name that the last expression of a cell binds is declared and not published. -/
theorem not_published_shown :
    let session := State.start ⟨"/w", "/home/user"⟩ { rootDir := .str "/w" } {} false
    let ran := run (open_ session).1 "(x := 5)" (open_ session).2
    statusOf ran.1 = some .success ∧ ran.2.published = [] ∧ ran.2.declared = ["x"] := by
  decide +kernel

end Notebook.Session
