import Notebook.Proofs.Announced

/-! The statements of a body one by one, as they are read from its text: where each stands in the function of
the body, and what a frame does that comes to one which the cell does not have itself. -/

set_option autoImplicit false

namespace Notebook.Code

open Notebook.Source Notebook.Tree Notebook.Scope

theorem genBody_run (documented : Bool) (body : List Stmt) (s : Setting) (d : Draft) :
    (genBody documented body).run s d
      = (genStmts [] (if documented then body.tail else body)).run s d := by
  cases body with
  | nil =>
    rw [genBody, List.tail_nil, ite_self, genStmts]
  | cons st body =>
    rw [genBody]
    cases documented with
    | true => rfl
    | false =>
      rw [if_neg Bool.false_ne_true, genStmts]
      rfl

/-- Writing that adds instructions, goes on as other writing does, and adds instructions at last. -/
def Gen.Surrounds {α : Type} (s : Setting) (slots : Array String) (x : Gen α) (front : List Instr)
    (inner : Gen PUnit) (back : List Instr) : Prop :=
  ∀ d a d', d.slots = slots → x.run s d = .ok (a, d') →
    ∃ d₁ d₂, d₁.instrs.toList = d.instrs.toList ++ front ∧ inner.run s d₁ = .ok ((), d₂) ∧
      d'.instrs.toList = d₂.instrs.toList ++ back

namespace Gen.Surrounds

variable {α β : Type} {s : Setting} {slots : Array String} {is front back : List Instr} {inner : Gen PUnit}

theorem self : Surrounds s slots inner [] inner [] := by
  intro d a d' _ ran
  exact ⟨d, d', by simp, ran, by simp⟩

theorem after {x : Gen α} {f : α → Gen β} (hx : Adds s slots x is)
    (hf : ∀ a, Surrounds s slots (f a) front inner back) : Surrounds s slots (x >>= f) (is ++ front) inner back := by
  intro d b d' hs ran
  obtain ⟨a, d₁, first, second⟩ := Gen.of_bind_ok ran
  obtain ⟨instrs, hs₁, -⟩ := hx d a d₁ hs first
  obtain ⟨d₂, d₃, here, within, last⟩ := hf a d₁ b d' hs₁ second
  exact ⟨d₂, d₃, by rw [here, instrs, List.append_assoc], within, last⟩

theorem before {x : Gen α} {f : α → Gen β} (hx : Surrounds s slots x front inner back)
    (hf : ∀ a slots, Adds s slots (f a) is) : Surrounds s slots (x >>= f) front inner (back ++ is) := by
  intro d b d' hs ran
  obtain ⟨a, d₁, first, second⟩ := Gen.of_bind_ok ran
  obtain ⟨d₂, d₃, here, within, last⟩ := hx d a d₁ hs first
  obtain ⟨instrs, -⟩ := hf a d₁.slots d₁ b d' rfl second
  exact ⟨d₂, d₃, here, within, by rw [instrs, last, List.append_assoc]⟩

theorem look {f : Draft → Gen β} (h : ∀ d, Surrounds s slots (f d) front inner back) :
    Surrounds s slots (Gen.draft >>= f) front inner back := fun d b d' hs ran => h d d b d' hs ran

theorem gives (p : Pos) {body : Gen PUnit} (h : Surrounds s slots body front inner back) :
    Surrounds s slots (Code.gives .value p body) front inner back := by
  have placed : Surrounds s slots (Code.atPlace p body) front inner (back ++ []) := by
    refine look fun _ => ?_
    exact after (Adds.setPlace p) fun _ => before h fun _ _ => .moveTo _ _
  rw [List.append_nil] at placed
  have whole := before placed fun _ slots => (Adds.pure PUnit.unit : Adds s slots (Pure.pure PUnit.unit) [])
  rwa [List.append_nil] at whole

end Gen.Surrounds

end Notebook.Code

namespace Notebook.Machine

def Ends (h : Host) (n : Nat) (f : Frame) (w : World) (r : EStateM.Result Stop World Exit) : Prop :=
  ∀ fuel, (execute h (fuel + n) f).run w = r

namespace Ends

variable {h : Host} {n m : Nat} {f g : Frame} {w w' w'' : World} {r : EStateM.Result Stop World Exit}
  {i : Code.Instr} {e v : Value}

theorem after (goes : Goes h m f w g w') (ends : Ends h n g w' r) : Ends h (n + m) f w r := by
  intro fuel
  rw [← Nat.add_assoc, goes]
  exact ends fuel

theorem returned (at_ : f.code.instrs[f.pc]? = some i)
    (done : (step h { f with pc := f.pc + 1 } i).run w = .ok (.done v) w') :
    Ends h 1 f w (.ok (.returned v) w') := by
  intro fuel
  rw [execute]
  simp only [at_]
  rw [M.run_bind_ok (attempt_ok done)]
  rfl

theorem raised (at_ : f.code.instrs[f.pc]? = some i) (raises : goesOn i = false) (bare : f.guards = [])
    (failed : (step h { f with pc := f.pc + 1 } i).run w = .error (.raised e) w')
    (traced : (addTrace f e).run w' = .ok () w'') : Ends h 1 f w (.error (.raised e) w'') := by
  intro fuel
  rw [execute]
  simp only [at_]
  rw [M.run_bind_ok (attempt_raised failed)]
  simp only [raises, Bool.not_false, if_true]
  rw [M.run_bind_ok traced, Frame.caught, bare]
  rfl

end Ends

end Notebook.Machine

namespace Notebook.Realm

open Notebook.Machine Notebook.Code Notebook.Scope Notebook.Source Notebook.Tree

/-! What bodies do of their own accord. -/

inductive Insert where
  | deed (d : Deed)
  /-- Publishes a name that may not be bound. -/
  | guarded (n : String)
deriving DecidableEq, Repr

def insert? (s : Stmt) : Option Insert :=
  ((deedOf s).map .deed).or ((guardedName s).map .guarded)

/-- The namespace after what a body does of its own accord, by what names stand for; nothing if it needs one
that stands for nothing. -/
def Insert.after (known : String → Option Value) (e : Exports Value) : Insert → Option (Exports Value)
  | .deed d => d.after known e
  | .guarded n => some ((known n).elim e (e.assign n))

/-- The expression whose value a statement sets aside as the last one of its cell. -/
def captured? : Stmt → Option Expr
  | .expr _ (.call _ (.attribute _ (.name _ x .load) m _ .load) [.const _ (.str t _), a] []) =>
    if x = "__exports__" ∧ m = "assign" ∧ t = Cell.lastName ∧ isStarred a = false then some a else none
  | _ => none

theorem captured?_some {st : Stmt} {a : Expr} (h : captured? st = some a) :
    isStarred a = false ∧ ∃ p q b c d k kind,
      st = .expr p (.call q (.attribute b (.name c "__exports__" .load) "assign" d .load)
        [.const k (.str Cell.lastName kind), a] []) := by
  unfold captured? at h
  split at h
  next p q b c x m d k t kind a' =>
    by_cases same : x = "__exports__" ∧ m = "assign" ∧ t = Cell.lastName ∧ isStarred a' = false
    · rw [if_pos same] at h
      obtain ⟨rfl, rfl, rfl, plain⟩ := same
      cases h
      exact ⟨plain, p, q, b, c, d, k, kind, rfl⟩
    · rw [if_neg same] at h
      cases h
  next => cases h

theorem captured_surrounds {st : Stmt} {a : Expr} (h : captured? st = some a) {s : Code.Setting}
    (owner : s.owner = none) (slots : Array String) :
    ∃ kind, Gen.Surrounds s slots (genStmt [] st)
      [nameInstr s.scope slots "__exports__" .load, .loadAttr "assign", .const (.str Cell.lastName kind)]
      (genFor .value a) [.call 2 [], .pop] := by
  obtain ⟨plain, p, q, b, c, d, k, kind, rfl⟩ := captured?_some h
  refine ⟨kind, ?_⟩
  have object : Gen.Adds s slots (genFor .value (.name c "__exports__" .load))
      [nameInstr s.scope slots "__exports__" .load] := by
    have named : Gen.Adds s slots (genFor .value (.name c "__exports__" .load))
        [nameInstr s.scope slots (mangle s.owner "__exports__") .load] := .name c rfl
    rwa [owner] at named
  have method : Gen.Adds s slots
      (genFor .value (.attribute b (.name c "__exports__" .load) "assign" d .load))
      [nameInstr s.scope slots "__exports__" .load, .loadAttr "assign"] := by
    rw [genFor]
    refine .gives b (object.bind fun _ => (Gen.Adds.setAttrPlace b d).after fun _ => .read ?_)
    rw [owner]
    exact .emit _
  have args : Gen.Surrounds s slots (genExprs [.const k (.str Cell.lastName kind), a])
      [.const (.str Cell.lastName kind)] (genFor .value a) [] := by
    rw [genExprs]
    refine .after (Gen.Adds.const k _) fun _ => ?_
    rw [genExprs]
    exact .before .self fun _ _ => .exprs_nil
  have called : Gen.Surrounds s slots
      (genFor .value (.call q (.attribute b (.name c "__exports__" .load) "assign" d .load)
        [.const k (.str Cell.lastName kind), a] []))
      [nameInstr s.scope slots "__exports__" .load, .loadAttr "assign", .const (.str Cell.lastName kind)]
      (genFor .value a) [.call 2 []] := by
    rw [genFor]
    refine .gives q ?_
    rw [checkKeywords, genKeywords]
    refine .after (Gen.Adds.pure _) fun _ => .after (Gen.Adds.setPlace q) fun _ => ?_
    refine .after method fun _ => ?_
    unfold genCall
    have none : (([.const k (.str Cell.lastName kind), a] : List Expr).any isStarred
        || ([] : List (Keyword Expr)).any (·.name.isNone)) = false := by
      simp only [List.any_cons, List.any_nil, plain, Bool.or_false]
      rfl
    rw [none, if_neg Bool.false_ne_true]
    exact .before args fun _ _ => (Gen.Adds.pure _).after fun _ =>
      (Gen.Adds.setCallPlace _ _ _ _).after fun _ => .emit _
  rw [genStmt]
  · exact .after (Gen.Adds.setPlace p) fun _ => .before called fun _ _ => .emit _
  · intro _ _ same
    cases same

/-! Places. -/

namespace Wrapped

variable {file : String} {body : List Stmt} {isAsync : Bool} {program : Program}

/-- The statements of a body that have code; a text that stands first has none. -/
def stmts (_ : Wrapped file body isAsync program) : List Stmt :=
  if (docOf (inside body)).isSome then (inside body).tail else inside body

/-- The function of a body before any statement is written. -/
def start (x : Wrapped file body isAsync program) : Draft :=
  .start (wrapHeading body isAsync) x.scope params #[]

def draftAt (x : Wrapped file body isAsync program) (k : Nat) : Draft :=
  match (genStmts [] (x.stmts.take k)).run x.setting x.start with
  | .ok (_, d) => d
  | .error _ => x.start

def place (x : Wrapped file body isAsync program) (k : Nat) : Nat := (x.draftAt k).instrs.size

variable (x : Wrapped file body isAsync program)

theorem written_stmts : ∃ d, (genStmts [] x.stmts).run x.setting x.start = .ok ((), d) ∧
    x.draft = (d.add (.const .none)).add .return := by
  obtain ⟨_, d, body, ending⟩ := Gen.of_bind_ok x.written
  rw [genBody_run] at body
  exact ⟨d, body, (Prod.mk.inj (Except.ok.inj ending)).2.symm⟩

theorem written_at (k : Nat) :
    (genStmts [] (x.stmts.take k)).run x.setting x.start = .ok ((), x.draftAt k) ∧
      ∃ d, (genStmts [] (x.stmts.drop k)).run x.setting (x.draftAt k) = .ok ((), d) ∧
        x.draft = (d.add (.const .none)).add .return := by
  obtain ⟨d, whole, ending⟩ := x.written_stmts
  rw [← List.take_append_drop k x.stmts] at whole
  obtain ⟨d₁, first, rest⟩ := genStmts_append whole
  have same : x.draftAt k = d₁ := by rw [draftAt, first]
  rw [same]
  exact ⟨first, d, rest, ending⟩

variable {x}

theorem leads_at (k : Nat) : x.start.Leads (x.draftAt k) ∧ (x.draftAt k).Leads x.draft := by
  obtain ⟨first, d, rest, ending⟩ := x.written_at k
  refine ⟨(genStmts [] _).leads _ _ _ first, ((genStmts [] _).leads _ _ _ rest).trans ?_⟩
  rw [ending]
  exact ((emit (.const .none)).leads x.setting d _ rfl).trans ((emit .return).leads x.setting _ _ rfl)

theorem written_next {k : Nat} {st : Stmt} (at_ : x.stmts[k]? = some st) :
    (genStmt [] st).run x.setting (x.draftAt k) = .ok ((), x.draftAt (k + 1)) := by
  have next := (x.written_at (k + 1)).1
  rw [List.take_add_one, at_] at next
  obtain ⟨d₁, first, here⟩ := genStmts_append next
  cases (x.written_at k).1.symm.trans first
  rw [Option.toList_some, genStmts] at here
  obtain ⟨_, d₂, one, none⟩ := Gen.of_bind_ok here
  rw [genStmts] at none
  cases none
  exact one

theorem draft_at_end : x.draft = ((x.draftAt x.stmts.length).add (.const .none)).add .return := by
  obtain ⟨-, d, rest, ending⟩ := x.written_at x.stmts.length
  rw [List.drop_length, genStmts] at rest
  cases rest
  exact ending

theorem place_mono (k : Nat) : x.place k ≤ x.place (k + 1) := by
  cases at_ : x.stmts[k]? with
  | none =>
    have past := List.getElem?_eq_none_iff.mp at_
    have same : x.place k = x.place (k + 1) := by
      unfold place draftAt
      rw [List.take_of_length_le past, List.take_of_length_le (Nat.le_succ_of_le past)]
    exact Nat.le_of_eq same
  | some st =>
    have longer := ((genStmt [] st).leads _ _ _ (written_next at_)).instrs.length_le
    simpa [place] using longer

theorem place_le_size (k : Nat) : x.place k ≤ x.code.instrs.size := by
  have longer := (leads_at (x := x) k).2.instrs.length_le
  simpa [place, code, Draft.unit] using longer

theorem stands_at {k : Nat} {is : List Instr}
    (written : (x.draftAt k).instrs.toList ++ is = (x.draftAt (k + 1)).instrs.toList)
    (fixed : ∀ i ∈ is, hasTarget i = false) :
    Stands x.code (x.place k) is ∧ x.place (k + 1) = x.place k + is.length := by
  refine ⟨stands_unit (written ▸ (leads_at (k + 1)).2.instrs) fixed .., ?_⟩
  have size := congrArg List.length written
  simpa [place] using size.symm

theorem stage_at (k : Nat) {ns : Ref} {e : Exports Value} {f : Frame} {w : World} (h : InBody x ns e f w) :
    Stage x.scope params (x.draftAt k).slots ns f w e := by
  obtain ⟨code, apart, native, isNamespace, here⟩ := h
  obtain ⟨first, last⟩ := leads_at (x := x) k
  exact ⟨code ▸ x.houses, first.slots, code ▸ last.slots, x.exports_own, apart, native, isNamespace, here⟩

end Wrapped

/-! Steps. -/

namespace Wrapped

variable {file : String} {body : List Stmt} {isAsync : Bool} {program : Program}
  {x : Wrapped file body isAsync program} {k : Nat} {st : Stmt} {ns : Ref} {e e' : Exports Value}
  {f : Frame} {w : World}

theorem deed_at {d : Deed} (at_ : x.stmts[k]? = some st) (is : deedOf st = some d) :
    ∃ kind, Stands x.code (x.place k) (d.code x.scope (x.draftAt k).slots kind) ∧
      x.place (k + 1) = x.place k + (d.code x.scope (x.draftAt k).slots kind).length := by
  obtain ⟨kind, adds⟩ := deed_adds is x.owner (x.draftAt k).slots []
  obtain ⟨instrs, -⟩ := adds _ _ _ rfl (written_next at_)
  rw [x.settingScope] at instrs
  have fixed : ∀ i ∈ d.code x.scope (x.draftAt k).slots kind, hasTarget i = false := by
    have doing : Doing x.scope (x.draftAt k).slots [d] _ := .cons d kind .nil
    rw [List.append_nil] at doing
    exact doing_fixed doing
  exact ⟨kind, stands_at instrs.symm fixed⟩

theorem guarded_at {n : String} (at_ : x.stmts[k]? = some st) (is : guardedName st = some n) :
    ∃ kind cleanup next, Stands x.code (x.place k)
        (guardedCode x.scope (x.draftAt k).slots kind n (x.place k + 9) cleanup next (x.place (k + 1))) ∧
      x.place (k + 1) = x.place k + 22 := by
  obtain ⟨kind, ls, writes, handler, cleanup, next, done⟩ :=
    guarded_writes is x.owner (x.draftAt k).slots (x.draftAt k).instrs.size (x.draftAt k).labels
  obtain ⟨-, instrs, -, labels⟩ := writes _ _ _ rfl rfl rfl (written_next at_)
  have size : x.place (k + 1) = x.place k + 22 := by
    unfold place
    rw [← Array.length_toList, instrs, List.length_append, Array.length_toList]
    rfl
  have onward := (leads_at (x := x) (k + 1)).2
  have stands := stands_placed (instrs ▸ onward.instrs) (wrapHeading body isAsync) x.scope cellFunction file
  subst labels
  rw [guardedCode_placed, positionOf_placed (onward.labels _ _ handler),
    positionOf_placed (onward.labels _ _ cleanup), positionOf_placed (onward.labels _ _ next),
    positionOf_placed (onward.labels _ _ done), x.settingScope] at stands
  refine ⟨kind, x.place k + 19, x.place k + 18, ?_, size⟩
  rw [size]
  exact stands

theorem inBody_of {slots : Array String} (code : f.code = x.code)
    (st : Stage x.scope params slots ns f w e) : InBody x ns e f w :=
  ⟨code, st.apart, st.native, st.isNamespace, st.here⟩

/-- What stands for the class of errors about names does so in the function of the body. -/
def ErrorKnown (x : Wrapped file body isAsync program) (f : Frame) (w : World) : Prop :=
  f.known? x.scope w "NameError" = some (.ref (nativeRef "NameError"))

/-- A body goes through what it does of its own accord, and changes nothing but the namespace. -/
theorem insert_goes (unfree : ∀ m, x.scope.binding m ≠ .free) {i : Insert} (at_ : x.stmts[k]? = some st)
    (is : insert? st = some i) (h : InBody x ns e f w) (here : f.pc = x.place k)
    (error : (∃ n, i = .guarded n) → x.ErrorKnown f w)
    (after : i.after (f.known? x.scope w) e = some e') :
    ∃ n w', n ≤ x.place (k + 1) - x.place k ∧
      Goes (hostAt 1958) n f w { f with pc := x.place (k + 1) } w' ∧
      InBody x ns e' { f with pc := x.place (k + 1) } w' ∧
      ∀ m, ({ f with pc := x.place (k + 1) } : Frame).known? x.scope w' m = f.known? x.scope w m := by
  have stage := stage_at k h
  unfold insert? at is
  cases deed : deedOf st with
  | some d =>
    rw [deed] at is
    cases is
    obtain ⟨kind, stands, size⟩ := deed_at at_ deed
    rw [← h.code, ← here] at stands
    have moved (e₁ : Exports Value) (pc : Nat) : InBody x ns e₁ { f with pc } (w.setEntries ns e₁) ∧
        ∀ m, ({ f with pc } : Frame).known? x.scope (w.setEntries ns e₁) m = f.known? x.scope w m :=
      ⟨inBody_of h.code (stage.done e₁ pc), stage.known?_setEntries e₁ pc⟩
    rw [size, ← here, Nat.add_sub_cancel_left]
    cases d with
    | publish key n =>
      obtain ⟨v, known, rfl⟩ := Option.map_eq_some_iff.mp after
      exact ⟨6, _, Nat.le_refl 6, stage.publish_goes 1957 (unfree n) known stands, moved _ _⟩
    | remove n =>
      cases after
      exact ⟨5, _, Nat.le_refl 5, stage.deed_goes 1957 (fun _ _ member => by cases List.mem_singleton.mp member)
        stands rfl, moved _ _⟩
  | none =>
    rw [deed, Option.map_none, Option.none_or] at is
    obtain ⟨n, named, rfl⟩ := Option.map_eq_some_iff.mp is
    obtain ⟨kind, cleanup, next, stands, size⟩ := guarded_at at_ named
    rw [← h.code, ← here] at stands
    have steps : x.place (k + 1) - x.place k = 22 := by rw [size, Nat.add_sub_cancel_left]
    rw [steps]
    cases after
    cases known : f.known? x.scope w n with
    | some v =>
      refine ⟨9, _, by decide, stage.guarded_known 1957 (unfree n) known stands, ?_, ?_⟩
      · exact inBody_of h.code (stage.done _ _)
      · exact stage.known?_setEntries _ _
    | none =>
      obtain ⟨w', goes, grows⟩ := stage.guarded_unknown 1957 (unfree n) known (unfree _) (error ⟨n, rfl⟩) stands
      refine ⟨14, w', by decide, goes, ?_, stage.known?_grows grows⟩
      exact inBody_of h.code ((stage.grows grows).moved (x.place (k + 1)) f.stack f.guards)

/-- At a name that it needs and that stands for nothing, a body without guards ends, with an error about the
name. -/
theorem insert_stops (unfree : ∀ m, x.scope.binding m ≠ .free) {i : Insert} (at_ : x.stmts[k]? = some st)
    (is : insert? st = some i) (h : InBody x ns e f w) (here : f.pc = x.place k) (bare : f.guards = [])
    (after : i.after (f.known? x.scope w) e = none) :
    ∃ key n, i = .deed (.publish key n) ∧ f.known? x.scope w n = none ∧
      ∃ m r w' cls message, m ≤ x.place (k + 1) - x.place k ∧
        Ends (hostAt 1958) m f w (.error (.raised (.ref r)) w') ∧ IsNamespace w' ns e ∧
        cls ∈ ["NameError", "UnboundLocalError"] ∧ Complains w' r cls message := by
  have stage := stage_at k h
  unfold insert? at is
  cases deed : deedOf st with
  | none =>
    rw [deed, Option.map_none, Option.none_or] at is
    obtain ⟨n, named, rfl⟩ := Option.map_eq_some_iff.mp is
    cases after
  | some d =>
    rw [deed] at is
    cases is
    cases d with
    | remove n => cases after
    | publish key n =>
      have unknown : f.known? x.scope w n = none := Option.map_eq_none_iff.mp after
      obtain ⟨kind, stands, size⟩ := deed_at at_ deed
      rw [← h.code, ← here] at stands
      have steps : x.place (k + 1) - x.place k = 6 := by
        rw [size, Nat.add_sub_cancel_left]
        rfl
      have ready := stage.front 1958 (show "assign" ∈ bodyMethods by decide) stands
      let callee : Value := .bound (.ref ns) (.native "ExportNamespace" "assign")
      let asked : Frame := { f with pc := f.pc + 3 }.pushAll [.str key, callee]
      have there := stands.tail.tail.tail.head
      obtain ⟨r, w₁, cls, message, failed, named, complains, new, grows⟩ :=
        (stage.moved (f.pc + 4) asked.stack f.guards).load_unknown (hostAt 1958) (unfree n) unknown
      obtain ⟨w₂, traced, complains', keeps⟩ := addTrace_run asked complains
      have grows' := keeps w new grows
      have ends : Ends (hostAt 1958) 1 asked w (.error (.raised (.ref r)) w₂) :=
        .raised there (stage.name_raises (unfree n)) bare failed traced
      rw [steps]
      exact ⟨key, n, rfl, unknown, 1 + 3, r, w₂, cls, message, by decide, .after ready ends,
        (stage.grows grows').isNamespace, named, complains'⟩

theorem returns_at_end (code : f.code = x.code) (here : f.pc = x.place x.stmts.length) :
    Ends (hostAt 1958) 2 f w (.ok (.returned .none) w) := by
  have stands : Stands f.code f.pc [.const .none, .return] := by
    rw [code, here]
    refine stands_unit ?_ (by simp [hasTarget]) ..
    rw [draft_at_end]
    simp [Draft.add]
  have first : Goes (hostAt 1958) 1 f w ({ f with pc := f.pc + 1 }.push .none) w := .step stands.head rfl
  exact .after first (.returned stands.tail.head rfl)

theorem captured_at {a : Expr} (at_ : x.stmts[k]? = some st) (is : captured? st = some a) :
    ∃ kind, Stands x.code (x.place k) [nameInstr x.scope (x.draftAt k).slots "__exports__" .load,
        .loadAttr "assign", .const (.str Cell.lastName kind)] ∧
      Stands x.code (x.place (k + 1) - 2) [.call 2 [], .pop] ∧ x.place k + 5 ≤ x.place (k + 1) := by
  obtain ⟨kind, surrounds⟩ := captured_surrounds is x.owner (x.draftAt k).slots
  obtain ⟨d₁, d₂, front, inner, back⟩ := surrounds _ _ _ rfl (written_next at_)
  rw [x.settingScope] at front
  have onward := (leads_at (x := x) (k + 1)).2
  have within := (genFor .value a).leads _ _ _ inner
  have firstSize : d₁.instrs.size = x.place k + 3 := by
    rw [← Array.length_toList, front]
    simp [place]
  have lastSize : x.place (k + 1) = d₂.instrs.size + 2 := by
    unfold place
    rw [← Array.length_toList, back]
    simp
  have between : d₁.instrs.size ≤ d₂.instrs.size := by simpa using within.instrs.length_le
  have fixed : ∀ i ∈ [nameInstr x.scope (x.draftAt k).slots "__exports__" .load, .loadAttr "assign",
      .const (.str Cell.lastName kind)], hasTarget i = false := by
    simp only [List.forall_mem_cons, nameInstr_hasTarget, true_and]
    exact ⟨rfl, rfl, by simp⟩
  refine ⟨kind, stands_unit ?_ fixed .., ?_, by omega⟩
  · rw [← front]
    refine within.instrs.trans (List.IsPrefix.trans ?_ onward.instrs)
    exact ⟨_, back.symm⟩
  · rw [lastSize, Nat.add_sub_cancel]
    exact stands_unit (back ▸ onward.instrs) (by simp [hasTarget]) ..

theorem capture_begins {a : Expr} (at_ : x.stmts[k]? = some st) (is : captured? st = some a)
    (h : InBody x ns e f w) (here : f.pc = x.place k) :
    Goes (hostAt 1958) 3 f w ({ f with pc := x.place k + 3 }.pushAll
      [.str Cell.lastName, .bound (.ref ns) (.native "ExportNamespace" "assign")]) w := by
  obtain ⟨kind, stands, -⟩ := captured_at at_ is
  rw [← h.code, ← here] at stands
  rw [← here]
  have whole : Stands f.code f.pc (nameInstr x.scope (x.draftAt k).slots "__exports__" .load ::
      .loadAttr "assign" :: .const (.str Cell.lastName kind) :: []) := stands
  exact (stage_at k h).front 1958 (show "assign" ∈ bodyMethods by decide) whole

theorem capture_done {a : Expr} {v : Value} (at_ : x.stmts[k]? = some st) (is : captured? st = some a)
    (h : InBody x ns e f w) :
    Goes (hostAt 1958) 2
      ({ f with pc := x.place (k + 1) - 2 }.pushAll
        [v, .str Cell.lastName, .bound (.ref ns) (.native "ExportNamespace" "assign")]) w
      { f with pc := x.place (k + 1) } (w.setEntries ns (e.assign Cell.lastName v)) ∧
      InBody x ns (e.assign Cell.lastName v) { f with pc := x.place (k + 1) }
        (w.setEntries ns (e.assign Cell.lastName v)) := by
  obtain ⟨kind, -, stands, far⟩ := captured_at at_ is
  have stage := stage_at k h
  rw [← h.code] at stands
  have called := stage.back 1957 (show "assign" ∈ bodyMethods by decide) [.str Cell.lastName, v]
    (List.cons_ne_nil _ _) stands (exportsMethod_assign (hostAt 1957) Cell.lastName v)
  have next : x.place (k + 1) - 2 + 2 = x.place (k + 1) := by omega
  rw [next] at called
  exact ⟨called, inBody_of h.code (stage.done _ _)⟩

end Wrapped

end Notebook.Realm
