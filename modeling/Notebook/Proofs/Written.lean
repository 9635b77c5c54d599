import Notebook.Code.Compile

/-! Writing code: what compiling goes through, and stretches of code that writing adds. -/

set_option autoImplicit false

namespace Notebook.Code

open Notebook.Source Notebook.Tree Notebook.Scope

theorem of_bind_ok {ε α β : Type} {x : Except ε α} {f : α → Except ε β} {b : β}
    (h : x >>= f = .ok b) : ∃ a, x = .ok a ∧ f a = .ok b := by
  cases x with
  | error e => cases h
  | ok a => exact ⟨a, rfl, h⟩

theorem of_toOption_any {ε α : Type} {x : Except ε α} {p : α → Bool} (h : x.toOption.any p = true) :
    ∃ a, x = .ok a ∧ p a = true := by
  cases x with
  | error e => cases h
  | ok a => exact ⟨a, rfl, h⟩

theorem Gen.of_bind_ok {α β : Type} {x : Gen α} {f : α → Gen β} {s : Code.Setting} {d : Draft}
    {r : β × Draft} (h : (x >>= f).run s d = .ok r) :
    ∃ a d', x.run s d = .ok (a, d') ∧ (f a).run s d' = .ok r := by
  change (Gen.bind x f).run s d = _ at h
  unfold Gen.bind at h
  cases hx : x.run s d with
  | error e =>
    simp only [hx] at h
    cases h
  | ok made =>
    simp only [hx] at h
    exact ⟨made.1, made.2, rfl, h⟩

theorem Gen.run_bind_ok {α β : Type} {x : Gen α} {f : α → Gen β} {s : Code.Setting} {d d' : Draft}
    {a : α} (h : x.run s d = .ok (a, d')) : (x >>= f).run s d = (f a).run s d' := by
  change (Gen.bind x f).run s d = _
  simp only [Gen.bind, h]

theorem inUnit_ok {h : Heading} {scope : Resolved} {owner : Option String} {params : List String} {body : Gen PUnit}
   {s : Code.Setting} {outer : Draft} {r : Nat × Draft} (ran : (inUnit h scope owner params body).run s outer = .ok r) :
   ∃ d, body.run { s with scope, kind := h.kind, qualifiedName := innerName s h.name h.isNamed, owner }
        (.start h scope params outer.units) = .ok ((), d) ∧
     r = (d.units.size, { outer with units := d.units.push (d.unit h scope (innerName s h.name h.isNamed) s.file) }) := by
  unfold inUnit at ran
  dsimp only at ran
  split at ran
  next => cases ran
  next d hd =>
    cases ran
    exact ⟨d, hd, rfl⟩

theorem compile_ok {o : Options} {body : List Stmt} {program : Program}
    (h : Code.compile o body = .ok program) :
    ∃ features block scope s d, findFeatures {} false 0 body = .ok features ∧
      collect (o.deferred || features.deferred) body = .ok block ∧ resolve block = .ok scope ∧
      s.scope = scope ∧ s.owner = none ∧ s.kind = .module ∧ s.file = o.file ∧
      (writeText body).run s (.start (textHeading body) scope [] #[]) = .ok ((), d) ∧
      program = { units := d.units.push (d.unit (textHeading body) scope "<module>" o.file)
                  main := d.units.size } := by
  unfold Code.compile at h
  obtain ⟨features, hf, h⟩ := of_bind_ok h
  obtain ⟨block, hb, h⟩ := of_bind_ok h
  obtain ⟨scope, hs, h⟩ := of_bind_ok h
  obtain ⟨⟨main, draft⟩, written, h⟩ := of_bind_ok h
  obtain ⟨d, wrote, hd⟩ := inUnit_ok written
  cases h
  cases hd
  exact ⟨features, block, scope, _, d, hf, hb, hs, rfl, rfl, rfl, rfl, wrote, rfl⟩

theorem nameOp_run {n : String} (hn : n ≠ "__debug__") (ctx : Ctx) (s : Code.Setting) (d : Draft) :
    (nameOp n ctx).run s d
      = .ok ((), d.add (nameInstr s.scope d.slots (mangle s.owner n) ctx)) := by
  have allowed : (forbidName n ctx).run s d = .ok ((), d) := by
    unfold forbidName
    rw [if_neg (by simpa using hn)]
    rfl
  unfold nameOp
  rw [Gen.run_bind_ok allowed]
  rfl

def Gen.Adds {α : Type} (s : Setting) (slots : Array String) (x : Gen α) (is : List Instr) : Prop :=
  ∀ d a d', d.slots = slots → x.run s d = .ok (a, d') →
    d'.instrs.toList = d.instrs.toList ++ is ∧ d'.slots = slots ∧ d'.labels = d.labels

namespace Gen.Adds

variable {α β : Type} {s : Setting} {slots : Array String} {is js : List Instr}

theorem pure (a : α) : Adds s slots (pure a : Gen α) [] := by
  intro d b d' hs h
  cases h
  exact ⟨by simp, hs, rfl⟩

theorem throw (e : Fault) : Adds s slots (Gen.throw e : Gen α) is := by
  intro d b d' hs h
  cases h

theorem bind {x : Gen α} {f : α → Gen β} (hx : Adds s slots x is) (hf : ∀ a, Adds s slots (f a) js) :
    Adds s slots (x >>= f) (is ++ js) := by
  intro d b d' hs h
  obtain ⟨a, d₁, first, second⟩ := Gen.of_bind_ok h
  obtain ⟨instrs, hs₁, labels⟩ := hx d a d₁ hs first
  obtain ⟨instrs', hs', labels'⟩ := hf a d₁ b d' hs₁ second
  exact ⟨by rw [instrs', instrs, List.append_assoc], hs', labels'.trans labels⟩

theorem after {x : Gen α} {f : α → Gen β} (hx : Adds s slots x []) (hf : ∀ a, Adds s slots (f a) js) :
    Adds s slots (x >>= f) js := hx.bind hf

theorem before {x : Gen α} {f : α → Gen β} (hx : Adds s slots x is) (hf : ∀ a, Adds s slots (f a) []) :
    Adds s slots (x >>= f) is := by
  simpa using hx.bind hf

theorem read {f : Setting → Gen β} (h : Adds s slots (f s) is) :
    Adds s slots (MonadReader.read >>= f) is := h

theorem look {f : Draft → Gen β} (h : ∀ d, d.slots = slots → Adds s slots (f d) is) :
    Adds s slots (draft >>= f) is := fun d b d' hs ran => h d hs d b d' hs ran

theorem emit (i : Instr) : Adds s slots (Code.emit i) [i] := by
  intro d b d' hs h
  cases h
  exact ⟨by simp [Draft.add], hs, rfl⟩

theorem moveTo (place : Option Pos) (line : Nat) : Adds s slots (Code.moveTo place line) [] := by
  intro d b d' hs h
  cases h
  exact ⟨by simp, hs, rfl⟩

theorem setPlace (p : Pos) : Adds s slots (Code.setPlace p) [] := moveTo _ _

theorem setAttrPlace (p q : Pos) : Adds s slots (Code.setAttrPlace p q) [] := by
  unfold Code.setAttrPlace
  split
  · exact setPlace q
  · exact pure _

theorem atPlace (p : Pos) {body : Gen PUnit} (h : Adds s slots body is) :
    Adds s slots (Code.atPlace p body) is :=
  look fun _ _ => (setPlace p).after fun _ => h.before fun _ => moveTo _ _

theorem fault (message : String) : Adds s slots (Code.fault message : Gen α) is := by
  refine look fun d _ => ?_
  split
  · exact throw _
  · exact throw _

theorem forbidName (n : String) (ctx : Ctx) : Adds s slots (Code.forbidName n ctx) [] := by
  unfold Code.forbidName
  split
  · cases ctx
    · exact pure _
    · exact fault _
    · exact fault _
  · exact pure _

theorem nameOp (n : String) (ctx : Ctx) :
    Adds s slots (Code.nameOp n ctx) [nameInstr s.scope slots (mangle s.owner n) ctx] := by
  refine (forbidName n ctx).after fun _ => read (look fun d hd => ?_)
  rw [hd]
  exact emit _

theorem gives (p : Pos) {body : Gen PUnit} (h : Adds s slots body is) :
    Adds s slots (Code.gives .value p body) is := (atPlace p h).before fun _ => pure _

theorem name (p : Pos) {n : String} {ctx : Ctx} (h : (n == "__debug__" && ctx == .load) = false) :
    Adds s slots (genFor .value (.name p n ctx)) [nameInstr s.scope slots (mangle s.owner n) ctx] := by
  rw [genFor]
  refine gives p ?_
  rw [h, if_neg Bool.false_ne_true]
  exact nameOp n ctx

theorem const (p : Pos) (c : Constant) : Adds s slots (genFor .value (.const p c)) [.const c] := by
  rw [genFor]
  exact gives p (emit _)

theorem exprs_nil : Adds s slots (genExprs []) [] := by
  rw [genExprs]
  exact pure _

theorem exprs_cons {e : Expr} {es : List Expr} (first : Adds s slots (genFor .value e) is)
    (rest : Adds s slots (genExprs es) js) : Adds s slots (genExprs (e :: es)) (is ++ js) := by
  rw [genExprs]
  exact first.bind fun _ => rest

theorem setCallPlace (p : Pos) (f : Expr) (as : List Expr) (ks : List (Keyword Expr)) :
    Adds s slots (Code.setCallPlace p f as ks) [] := by
  refine (setPlace p).after fun _ => ?_
  split
  · split
    · exact setAttrPlace _ _
    · exact pure _
  · exact pure _

theorem methodCall (p a c : Pos) {object : Expr} (m : String) {args : List Expr}
    (owner : s.owner = none) (plain : args.any isStarred = false)
    (hobject : Adds s slots (genFor .value object) is) (hargs : Adds s slots (genExprs args) js) :
    Adds s slots (genFor .value (.call p (.attribute a object m c .load) args []))
      (is ++ [.loadAttr m] ++ js ++ [.call args.length []]) := by
  have method : Adds s slots (genFor .value (.attribute a object m c .load)) (is ++ [.loadAttr m]) := by
    rw [genFor]
    refine gives a (hobject.bind fun _ => (setAttrPlace a c).after fun _ => read ?_)
    rw [owner]
    exact emit _
  rw [genFor]
  refine gives p ?_
  rw [checkKeywords, genKeywords]
  refine (pure _).after fun _ => (setPlace p).after fun _ => ?_
  rw [List.append_assoc]
  refine method.bind fun _ => ?_
  unfold genCall
  rw [plain, List.any_nil, Bool.or_self, if_neg Bool.false_ne_true]
  refine hargs.bind fun _ => (pure _).after fun _ => (setCallPlace _ _ _ _).after fun _ => ?_
  have called : Adds s slots (Code.emit (.call (0 + args.length + 0) []))
      [.call (0 + args.length + 0) []] := emit _
  simpa using called

end Gen.Adds

end Notebook.Code
