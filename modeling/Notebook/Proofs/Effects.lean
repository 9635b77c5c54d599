import Notebook.Proofs.Passage

/-! What assignments of a name and deletions of names do to the variables of a body: the value that an
assignment comes to is stored in the variable, and the variables of deleted names are unbound. -/

set_option autoImplicit false

namespace Notebook.Code.Gen.Adds

theorem unevaluated {α : Type} {s : Code.Setting} {slots : Array String} {f : Bool → Gen α}
    {is : List Instr} (kind : s.kind = .function) (h : Adds s slots (f false) is) :
    Adds s slots (evaluatesAnnotations >>= f) is := by
  intro d a d' hs ran
  obtain ⟨evaluated, d₁, first, second⟩ := Gen.of_bind_ok ran
  unfold evaluatesAnnotations at first
  cases first
  rw [kind] at second
  exact h d a d' hs second

end Notebook.Code.Gen.Adds

namespace Notebook.Realm

open Notebook.Machine Notebook.Code Notebook.Scope Notebook.Tree

/-- What a plain statement does to the variables: it assigns a name last of all, or deletes names. -/
inductive Effect where
  | sets (n : String)
  | drops (ns : List String)
deriving DecidableEq, Repr

def Effect.targets : Option Effect → List String
  | some (.sets n) => [n]
  | some (.drops names) => names
  | none => []

/-- What a name stands for after a statement, by the value of the statement and what it stood for before. -/
def Effect.after {α : Type} (v : α) (m : String) (old : Option α) : Option Effect → Option α
  | some (.sets n) => if m = n then some v else old
  | some (.drops names) => if m ∈ names then none else old
  | none => old

theorem Effect.after_some {α : Type} {v u : α} {m : String} {o : Option Effect} {a b : Option α}
    (h : ∀ u, a = some u → b = some u) (after : Effect.after v m a o = some u) : Effect.after v m b o = some u := by
  unfold Effect.after at after ⊢
  grind

theorem Effect.after_none {α : Type} {v : α} {m : String} {o : Option Effect} {a b : Option α}
    (h : a = none → b = none) (after : Effect.after v m a o = none) : Effect.after v m b o = none := by
  unfold Effect.after at after ⊢
  grind

def deletedName? : Expr → Option String
  | .name _ n .del => some n
  | _ => none

def effectOf : Stmt → Option Effect
  | .assign _ [.name _ n .store] _ => some (.sets n)
  | .annAssign _ (.name _ n .store) _ (some _) _ => some (.sets n)
  | .augAssign _ (.name _ n .store) _ _ => some (.sets n)
  | .delete _ ts => (ts.mapM deletedName?).map .drops
  | _ => none

/-! Code. -/

theorem sets_code {st : Stmt} {n : String} (h : effectOf st = some (.sets n)) {s : Code.Setting}
    (owner : s.owner = none) (kind : s.kind = .function) {d d' : Draft}
    (ran : (genStmt [] st).run s d = .ok ((), d')) :
    ∃ d₁, d.Leads d₁ ∧ d₁.Leads d' ∧
      d'.instrs.toList = d₁.instrs.toList ++ [nameInstr s.scope d₁.slots n .store] := by
  -- After the value is computed only the name is stored.
  have stored {α : Type} {d₀ : Draft} {x : Gen α} {y : α → Gen PUnit} (onward : d.Leads d₀)
      (whole : (x >>= y).run s d₀ = .ok ((), d'))
      (adds : ∀ a slots, Gen.Adds s slots (y a) [nameInstr s.scope slots (mangle s.owner n) .store]) :
      ∃ d₁, d.Leads d₁ ∧ d₁.Leads d' ∧
        d'.instrs.toList = d₁.instrs.toList ++ [nameInstr s.scope d₁.slots n .store] := by
    obtain ⟨a, d₁, first, second⟩ := Gen.of_bind_ok whole
    obtain ⟨instrs, -⟩ := adds a d₁.slots d₁ () d' rfl second
    rw [owner] at instrs
    exact ⟨d₁, onward.trans (x.leads _ _ _ first), (y a).leads _ _ _ second, instrs⟩
  have name (p : Source.Pos) (slots : Array String) : Gen.Adds s slots (genExpr (.name p n .store))
      [nameInstr s.scope slots (mangle s.owner n) .store] := .name p (by simp)
  unfold effectOf at h
  split at h
  next p q m v =>
    cases h
    rw [genStmt] at ran
    obtain ⟨_, d₀, first, rest⟩ := Gen.of_bind_ok ran
    refine stored ((setPlace p).leads _ _ _ first) rest fun _ slots => ?_
    rw [genTargetsInTurn]
    exact name q slots
  next p q m a v simple =>
    cases h
    rw [genStmt] at ran
    obtain ⟨_, d₀, first, rest⟩ := Gen.of_bind_ok ran
    refine stored ((setPlace p).leads _ _ _ first) rest fun _ slots => ?_
    refine (name q slots).before fun _ => (Gen.Adds.forbidName n .store).after fun _ => .unevaluated kind ?_
    rw [Bool.and_false, if_neg Bool.false_ne_true]
    refine .unevaluated kind (.read ?_)
    rw [Bool.and_false, Bool.false_and, if_neg Bool.false_ne_true]
    exact .pure _
  next p q m op v =>
    cases h
    rw [genStmt] at ran
    obtain ⟨_, d₀, first, rest⟩ := Gen.of_bind_ok ran
    obtain ⟨_, d₁, second, rest⟩ := Gen.of_bind_ok rest
    obtain ⟨_, d₂, third, rest⟩ := Gen.of_bind_ok rest
    have onward := (((setPlace p).leads _ _ _ first).trans ((genUpdateLoad _).leads _ _ _ second)).trans
      ((genExpr v).leads _ _ _ third)
    refine stored onward rest fun _ slots => ?_
    rw [genUpdateStore]
    exact (Gen.Adds.setPlace q).after fun _ => .nameOp n .store
  next => simp at h
  next => cases h

theorem drops_code {st : Stmt} {ns : List String} (h : effectOf st = some (.drops ns)) {s : Code.Setting}
    (owner : s.owner = none) (slots : Array String) :
    Gen.Adds s slots (genStmt [] st) (ns.map fun n => nameInstr s.scope slots n .del) := by
  unfold effectOf at h
  split at h
  next => cases h
  next => cases h
  next => cases h
  next p ts =>
    obtain ⟨names, each, same⟩ := Option.map_eq_some_iff.mp h
    cases same
    rw [genStmt]
    refine (Gen.Adds.setPlace p).after fun _ => ?_
    clear h
    induction ts generalizing ns with
    | nil =>
      cases each
      exact .exprs_nil
    | cons t ts ih =>
      rw [List.mapM_cons] at each
      obtain ⟨m, named, rest⟩ := Option.bind_eq_some_iff.mp each
      obtain ⟨ms, later, same⟩ := Option.bind_eq_some_iff.mp rest
      cases same
      unfold deletedName? at named
      split at named
      next q m =>
        cases named
        have one : Gen.Adds s slots (genFor .value (.name q m .del)) [nameInstr s.scope slots (mangle s.owner m) .del] :=
          .name q (by simp)
        rw [owner] at one
        exact .exprs_cons one (ih later)
      next => cases named
  next => cases h

/-! Steps. -/

variable {file : String} {body : List Stmt} {program : Program} {x : Wrapped file body false program}
  {ns : Ref} {e : Exports Value} {f : Frame} {w : World} {k : Nat} {st : Stmt} {n : String}

theorem attrs_put_payload (w : World) (r s : Ref) (p : Payload) :
    ((w.put r fun o => { o with payload := p }).heap.getD s default).attrs = (w.heap.getD s default).attrs := by
  by_cases other : r = s
  · subst other
    by_cases inside : r < w.heap.size
    · rw [World.put_same inside]
      unfold Obj.changed
      split <;> rfl
    · simp [World.put, Array.getD, inside]
  · rw [World.put_other w other]

/-- Storing a value in a variable of a body, or leaving nothing there, changes what the name stands for. -/
theorem InBody.stored (h : InBody x ns e f w) {p : Spot} (spot : spot? x.code n = some p)
    (own : x.scope.binding n = .local ∨ x.scope.binding n = .cell) (other : n ≠ "__exports__") (v : Option Value) :
    InBody x ns e (f.stored p v) (f.worldStored w p v) ∧
      ∀ m, (f.stored p v).known? x.scope (f.worldStored w p v) m
        = if m = n then v else f.known? x.scope w m := by
  obtain ⟨code, apart, native, isNamespace, here⟩ := h
  rw [← code] at spot
  have within := spot?_within spot
  have values := apart.local? spot v
  refine ⟨⟨(f.stored_code p v).trans code, apart.stored within v, apart.native within v native,
    apart.isNamespace within v isNamespace, ?_⟩, fun m => ?_⟩
  · rw [values, if_neg other.symm, here]
  · by_cases same : m = n
    · subst same
      rw [known?_own own, values, if_pos rfl, if_pos rfl]
    · have outside : (f.stored p v).global? (f.worldStored w p v) m = f.global? w m := by
        unfold Frame.global?
        cases p with
        | slot i => rfl
        | cell i =>
          change (List.lookup m ((w.put (cellRef f i) _).heap.getD f.globals default).attrs).or _ = _
          rw [attrs_put_payload]
      unfold Frame.known?
      rw [outside, values, if_neg same, if_neg same]

namespace Wrapped

theorem sets_at (at_ : x.stmts[k]? = some st) (effect : effectOf st = some (.sets n))
    (own : x.scope.binding n = .local ∨ x.scope.binding n = .cell) :
    ∃ p, spot? x.code n = some p ∧ Stands x.code (x.place (k + 1) - 1) [p.store] ∧
      x.place k < x.place (k + 1) := by
  obtain ⟨d, before, after, instrs⟩ := sets_code effect x.owner x.settingKind (written_next at_)
  have onward := (leads_at (x := x) (k + 1)).2
  have base : (Code.slotsOf x.scope params).toList <+: d.slots.toList :=
    ((leads_at (x := x) k).1.trans before).slots
  have within : d.slots.toList <+: x.code.slots.toList := (after.trans onward).slots
  obtain ⟨p, spot, -, store, -⟩ := nameInstr_spot x.top x.houses.cells base within own
  rw [x.settingScope, store] at instrs
  have size : x.place (k + 1) = d.instrs.size + 1 := by
    unfold place
    rw [← Array.length_toList, instrs]
    simp
  have longer : x.place k ≤ d.instrs.size := by simpa [place] using before.instrs.length_le
  refine ⟨p, spot, ?_, by omega⟩
  rw [size, Nat.add_sub_cancel]
  refine stands_unit (instrs ▸ onward.instrs) ?_ ..
  rw [← store]
  simp

theorem drops_at {names : List String} (at_ : x.stmts[k]? = some st) (effect : effectOf st = some (.drops names)) :
    Stands x.code (x.place k) (names.map fun n => nameInstr x.scope (x.draftAt k).slots n .del) ∧
      x.place (k + 1) = x.place k + names.length := by
  obtain ⟨instrs, -⟩ := drops_code effect x.owner (x.draftAt k).slots _ _ _ rfl (written_next at_)
  rw [x.settingScope] at instrs
  have fixed : ∀ i ∈ names.map fun n => nameInstr x.scope (x.draftAt k).slots n .del, hasTarget i = false := by
    simp
  simpa using stands_at instrs.symm fixed

theorem drops_goes {slots : Array String} (base : (Code.slotsOf x.scope params).toList <+: slots.toList)
    (within : slots.toList <+: x.code.slots.toList) {names : List String} (h : InBody x ns e f w)
    (own : ∀ n ∈ names, x.scope.binding n = .local ∨ x.scope.binding n = .cell)
    (other : "__exports__" ∉ names) (nodup : names.Nodup)
    (bound : ∀ n ∈ names, (f.known? x.scope w n).isSome)
    (stands : Stands x.code f.pc (names.map fun n => nameInstr x.scope slots n .del)) :
    ∃ g w', Goes (hostAt 1958) names.length f w g w' ∧ InBody x ns e g w' ∧ g.pc = f.pc + names.length ∧
      g.stack = f.stack ∧ g.guards = f.guards ∧
      ∀ m, g.known? x.scope w' m = if m ∈ names then none else f.known? x.scope w m := by
  induction names generalizing f w with
  | nil => exact ⟨f, w, .refl _ f w, h, rfl, rfl, rfl, fun m => by simp⟩
  | cons n names ih =>
    have here := own n List.mem_cons_self
    obtain ⟨v, known⟩ := Option.isSome_iff_exists.mp (bound n List.mem_cons_self)
    obtain ⟨p, spot, -, -, delete⟩ := nameInstr_spot x.top x.houses.cells base within here
    rw [List.map_cons, delete, ← h.code] at stands
    rw [known?_own here, Frame.local?, h.code, spot] at known
    have moved : InBody x ns e { f with pc := f.pc + 1 } w :=
      ⟨h.code, ⟨h.apart.slots, h.apart.cells, h.apart.nodup, h.apart.own⟩, h.native, h.isNamespace, h.here⟩
    have first : Goes (hostAt 1958) 1 f w (({ f with pc := f.pc + 1 } : Frame).stored p none)
        (({ f with pc := f.pc + 1 } : Frame).worldStored w p none) :=
      .step stands.head (Frame.delete_run (f := { f with pc := f.pc + 1 }) _ known)
    rw [List.mem_cons, not_or] at other
    obtain ⟨fresh, nodup⟩ := List.nodup_cons.mp nodup
    obtain ⟨inBody, values⟩ := moved.stored spot here (Ne.symm other.1) none
    have kept (m : String) (member : m ∈ names) : m ≠ n := fun same => fresh (same ▸ member)
    obtain ⟨g, w', later, inBody', pc, stack, guards, values'⟩ := ih inBody
      (fun m member => own m (List.mem_cons_of_mem _ member)) other.2 nodup
      (fun m member => by
        rw [values, if_neg (kept m member)]
        exact bound m (List.mem_cons_of_mem _ member))
      (by
        rw [Frame.stored_pc, ← h.code]
        exact stands.tail)
    refine ⟨g, w', first.trans later, inBody', ?_, ?_, ?_, fun m => ?_⟩
    · rw [pc, Frame.stored_pc, List.length_cons]
      change f.pc + 1 + _ = _
      omega
    · rw [stack, Frame.stored_stack]
    · rw [guards]
      cases p <;> rfl
    · rw [values', values]
      by_cases same : m = n
      · simp [same]
      · simp only [List.mem_cons, same, false_or, if_false]
        rfl

end Wrapped

/-- The value of an assignment is computed; the namespace and the variables are as they were. -/
structure Computes (x : Wrapped file body false program) (ns : Ref) (e : Exports Value) (k s : Nat) (v : Value)
    (f : Frame) (w : World) (g : Frame) (w' : World) : Prop where
  goes : Goes (hostAt 1958) s f w ({ g with pc := x.place (k + 1) - 1 }.push v) w'
  inBody : InBody x ns e g w'
  stack : g.stack = f.stack
  guards : g.guards = f.guards
  same : ∀ m, g.known? x.scope w' m = f.known? x.scope w m

theorem Computes.passes {s : Nat} {v : Value} {g : Frame} {w' : World} (h : Computes x ns e k s v f w g w')
    (at_ : x.stmts[k]? = some st) (effect : effectOf st = some (.sets n))
    (own : x.scope.binding n = .local ∨ x.scope.binding n = .cell) (other : n ≠ "__exports__") :
    ∃ g' w'', Passes x ns e k (1 + s) f w g' w'' ∧
      ∀ m, g'.known? x.scope w'' m = if m = n then some v else f.known? x.scope w m := by
  obtain ⟨p, spot, stands, further⟩ := Wrapped.sets_at at_ effect own
  have next : x.place (k + 1) - 1 + 1 = x.place (k + 1) := by omega
  have moved : InBody x ns e { g with pc := x.place (k + 1) } w' := by
    obtain ⟨code, apart, native, isNamespace, here⟩ := h.inBody
    exact ⟨code, ⟨apart.slots, apart.cells, apart.nodup, apart.own⟩, native, isNamespace, here⟩
  rw [← h.inBody.code] at stands
  obtain ⟨inBody, values⟩ := moved.stored spot own other (some v)
  have stored : Goes (hostAt 1958) 1 ({ g with pc := x.place (k + 1) - 1 }.push v) w'
      (({ g with pc := x.place (k + 1) } : Frame).stored p (some v))
      (({ g with pc := x.place (k + 1) } : Frame).worldStored w' p (some v)) := by
    refine .step stands.head ?_
    dsimp only [Frame.push]
    rw [next]
    exact Frame.store_run _ { g with pc := x.place (k + 1) } w' p v
  refine ⟨_, _, ⟨h.goes.trans stored, inBody, Frame.stored_pc .., ?_, ?_⟩, fun m => ?_⟩
  · rw [Frame.stored_stack]
    exact h.stack
  · refine Eq.trans ?_ h.guards
    cases p <;> rfl
  · rw [values, ← h.same]
    rfl

theorem drops_passes {names : List String} (at_ : x.stmts[k]? = some st)
    (effect : effectOf st = some (.drops names)) (h : InBody x ns e f w) (here : f.pc = x.place k)
    (own : ∀ n ∈ names, x.scope.binding n = .local ∨ x.scope.binding n = .cell) (other : "__exports__" ∉ names)
    (nodup : names.Nodup) (bound : ∀ n ∈ names, (f.known? x.scope w n).isSome) :
    ∃ g w', Passes x ns e k names.length f w g w' ∧
      ∀ m, g.known? x.scope w' m = if m ∈ names then none else f.known? x.scope w m := by
  obtain ⟨stands, size⟩ := Wrapped.drops_at at_ effect
  rw [← here] at stands
  obtain ⟨before, after⟩ := Wrapped.leads_at (x := x) k
  obtain ⟨g, w', goes, inBody, pc, stack, guards, values⟩ :=
    Wrapped.drops_goes before.slots after.slots h own other nodup bound stands
  exact ⟨g, w', ⟨goes, inBody, by rw [pc, here, size], stack, guards⟩, values⟩

/-- What is left of a statement beside its effect: the value of an assignment is computed, an expression is, and
names that are to be deleted are in the namespace, each named once. -/
inductive Performs (x : Wrapped file body false program) (ns : Ref) (e : Exports Value) (k : Nat) (v : Value)
    (f : Frame) (w : World) : Option Effect → Nat → Prop
  | sets {n : String} {s : Nat} {g : Frame} {w' : World} (computes : Computes x ns e k s v f w g w') :
      Performs x ns e k v f w (some (.sets n)) (1 + s)
  | drops {names : List String} (nodup : names.Nodup) (there : ∀ n ∈ names, n ∈ e.names) :
      Performs x ns e k v f w (some (.drops names)) names.length
  | rest {s : Nat} {g : Frame} {w' : World} (through : Passes x ns e k s f w g w')
      (same : ∀ m, g.known? x.scope w' m = f.known? x.scope w m) : Performs x ns e k v f w none s

theorem Performs.passes {s : Nat} {v : Value} (performs : Performs x ns e k v f w (effectOf st) s)
    (at_ : x.stmts[k]? = some st) (h : InBody x ns e f w) (here : f.pc = x.place k)
    (own : ∀ n ∈ Effect.targets (effectOf st), x.scope.binding n = .local ∨ x.scope.binding n = .cell)
    (other : "__exports__" ∉ Effect.targets (effectOf st))
    (bound : ∀ n ∈ Effect.targets (effectOf st), n ∈ e.names → (f.known? x.scope w n).isSome) :
    ∃ g w', Passes x ns e k s f w g w' ∧
      ∀ m, g.known? x.scope w' m = Effect.after v m (f.known? x.scope w m) (effectOf st) := by
  generalize effect : effectOf st = o at performs own other bound
  cases performs with
  | sets computes =>
    refine computes.passes at_ effect (own _ List.mem_cons_self) fun same => other ?_
    rw [same]
    exact List.mem_cons_self
  | drops nodup there =>
    exact drops_passes at_ effect h here own other nodup fun n member => bound n member (there n member)
  | rest through same => exact ⟨_, _, through, same⟩

end Notebook.Realm
