import Notebook.Proofs.Settling

/-! A logic for stretches of the code of modules: a stretch that starts with some values on the stack comes to
its end with others there, or it raises, and takes no more steps than it has instructions. -/

set_option autoImplicit false

namespace Notebook.Machine

open Notebook.Code (Instr)

/-- A frame comes to an exception in some steps, after which it does what its guards say. -/
def Fails (h : Host) (n : Nat) (f : Frame) (w : World) (e : Value) (w' : World) : Prop :=
  ∀ fuel, (execute h (fuel + n) f).run w = ((f.caught e).elim (throw (.raised e)) (execute h fuel)).run w'

namespace Fails

variable {h : Host} {n k : Nat} {f g : Frame} {w w' w'' : World} {e : Value} {i : Instr}

theorem after (first : Goes h n f w g w') (same : g.caught e = f.caught e) (failed : Fails h k g w' e w'') :
    Fails h (k + n) f w e w'' := by
  intro fuel
  rw [← Nat.add_assoc, first, failed, same]

theorem step (at_ : f.code.instrs[f.pc]? = some i)
    (raised : (Machine.step h { f with pc := f.pc + 1 } i).run w = .error (.raised e) w') :
    ∃ w'', w'.Still w'' ∧ w'.Leads w'' ∧ Fails h 1 f w e w'' := by
  have run (fuel : Nat) : (execute h (fuel + 1) f).run w
      = (if !goesOn i then addTrace f e >>= fun _ => (f.caught e).elim (throw (.raised e)) (execute h fuel)
          else (f.caught e).elim (throw (.raised e)) (execute h fuel)).run w' := by
    rw [execute]
    simp only [at_]
    rw [M.run_bind_ok (attempt_raised raised)]
    dsimp only
    cases f.caught e <;> rfl
  by_cases goes : (!goesOn i) = true
  · obtain ⟨_, w'', traced⟩ := returns_addTrace f e w'
    refine ⟨w'', (isStill_addTrace f e).ofOk traced, M.leads_of_ok traced, fun fuel => ?_⟩
    rw [run, if_pos goes]
    exact M.run_bind_ok traced
  · refine ⟨w', .refl w', .refl w', fun fuel => ?_⟩
    rw [run, if_neg goes]

end Fails

def Frame.standing (f : Frame) (pc : Nat) (vs : List Value) : Frame := { f with pc, stack := vs ++ f.stack }

/-- A frame of the code of a module, whose guards do not reach above its stack. -/
structure Frame.Inside (f : Frame) (code : Code.Unit) (m : Ref) : Prop where
  code : f.code = code
  globals : f.globals = m
  names : f.names = some m
  heights : ∀ g ∈ f.guards, g.height ≤ f.stack.length

theorem Frame.Inside.caught {f : Frame} {code : Code.Unit} {m : Ref} (inside : f.Inside code m) (pc : Nat)
    (vs : List Value) (e : Value) : (f.standing pc vs).caught e = f.caught e := by
  unfold Frame.caught Frame.standing
  dsimp only
  cases guards : f.guards with
  | nil => rfl
  | cons g gs =>
    have height := inside.heights g (guards ▸ List.mem_cons_self)
    have taken : (vs ++ f.stack).length - g.height = vs.length + (f.stack.length - g.height) := by
      rw [List.length_append]
      omega
    simp only [taken, List.drop_append, List.drop_eq_nil_of_le (Nat.le_add_right _ _), Nat.add_sub_cancel_left,
      List.nil_append]

def isReserved (n : String) : Bool := n == "__require__" || n == "__getattr__" || isErrorName n

theorem isReserved_special {n : String} (special : n ∈ specialNames) : isReserved n = false := by
  have other : "__require__" ∉ specialNames ∧ "__getattr__" ∉ specialNames := by decide
  have loader : n ≠ "__require__" := fun same => other.1 (same ▸ special)
  have lookup : n ≠ "__getattr__" := fun same => other.2 (same ▸ special)
  simp [isReserved, loader, lookup, isErrorName_special special]

def World.Means (w : World) (m : Ref) (n : String) (v : Value) : Prop :=
  (w.object m).attrs.lookup n = some v ∨
    ((w.object m).attrs.lookup n = none ∧ builtinTable.lookup n = some v)

/-- What holds of worlds while the body of a module runs: it stays as long as nothing happens to modules, as the
body binds names, and over calls of its loader. -/
structure Surrounds (h : Host) (m : Ref) (I : World → Prop) : Prop where
  sane : ∀ {w}, I w → w.Sane
  still : ∀ {w w'}, I w → w.Leads w' → w.Still w' → I w'
  bind : ∀ {w w' n v}, I w → w.Leads w' → isReserved n = false → w.Sets w' m n v → I w'
  require : ∀ {w v}, I w → (w.object m).attrs.lookup "__require__" = some v →
    ∃ r, v = .ref r ∧ (w.IsModule r ∨ ∃ dir, (w.object r).payload = .loader dir)
  error : ∀ {w n v}, I w → isErrorName n = true → (w.object m).attrs.lookup n = some v →
    ∃ r, v = .ref r ∧ w.IsModule r
  module : ∀ {w r} args, I w → w.IsModule r → (h.call (.ref r) args []).Ends w (fun _ _ => False) (Raises w)
  raises : ∀ {w r} args, I w → isErrorRef r = true →
    (h.call (.ref r) args []).Ends w (Excepts w args) (Raises w)
  load : ∀ {w r dir} s name, I w → (w.object r).payload = .loader dir →
    (h.call (.ref r) (loaderArgs s name) []).Ends w (fun _ w' => I w') fun e w' => I w' ∧ ∃ exc, e = .raised exc

/-- With some values on the stack, in worlds where `P`, a stretch of code comes to its end with values on the stack
so that `Q`, or it raises. -/
def Triple (h : Host) (m : Ref) (I : World → Prop) (code : Code.Unit) (vs : List Value) (P : World → Prop)
    (p n : Nat) (Q : List Value → World → Prop) : Prop :=
  ∀ (f : Frame) (w : World), f.Inside code m → I w → P w → ∃ k ≤ n,
    (∃ us w', Goes h k (f.standing p vs) w (f.standing (p + n) us) w' ∧ I w' ∧ Q us w') ∨
      ∃ e w', Fails h k (f.standing p vs) w e w' ∧ I w'

/-! Reading names. -/

section

variable {code : Code.Unit} {m : Ref} {f : Frame}

theorem loadGlobal_ends (inside : f.Inside code m) (n : String) (w : World) :
    (loadGlobal f n).Ends w (fun v w' => w' = w ∧ w.Means m n v) (Raises w) := by
  unfold loadGlobal
  rw [inside.globals]
  refine .bind (.ofOk (own?_run m n w) ?_)
  cases found : (w.heap.getD m default).attrs.lookup n with
  | some v => exact .pure ⟨rfl, .inl found⟩
  | none =>
    dsimp only
    cases known : builtinTable.lookup n with
    | some v => exact .pure ⟨rfl, .inr ⟨found, known⟩⟩
    | none => exact raise_ends _ _ fun e _ still => ⟨still, e, rfl⟩

theorem loadNamed_ends (inside : f.Inside code m) (n : String) (w : World) :
    (loadNamed f n).Ends w (fun v w' => w' = w ∧ w.Means m n v) (Raises w) := by
  unfold loadNamed
  rw [inside.names]
  dsimp only
  refine .bind (.ofOk (own?_run m n w) ?_)
  cases found : (w.heap.getD m default).attrs.lookup n with
  | some v => exact .pure ⟨rfl, .inl found⟩
  | none => exact loadGlobal_ends inside n w

theorem Frame.Inside.standing (inside : f.Inside code m) (p : Nat) (vs : List Value) :
    (f.standing p vs).Inside code m := by
  refine ⟨inside.code, inside.globals, inside.names, fun g member => ?_⟩
  have height := inside.heights g member
  simp only [Frame.standing, List.length_append]
  omega

inductive ReadsName (n : String) : Instr → Prop
  | named : ReadsName n (.loadName n)
  | global : ReadsName n (.loadGlobal n)

inductive BindsName (n : String) : Instr → Prop
  | named : BindsName n (.storeName n)
  | global : BindsName n (.storeGlobal n)

end

namespace Triple

variable {h : Host} {m : Ref} {I : World → Prop} {code : Code.Unit} {vs us : List Value} {P : World → Prop}
  {p n k : Nat} {Q R : List Value → World → Prop} {i : Instr}

theorem nil (vs : List Value) (P : World → Prop) (p : Nat) :
    Triple h m I code vs P p 0 fun us w => us = vs ∧ P w :=
  fun _ w _ inv pre => ⟨0, Nat.le_refl _, .inl ⟨vs, w, .refl _ _ _, inv, rfl, pre⟩⟩

theorem mono (t : Triple h m I code vs P p n Q) (after : ∀ us w, Q us w → R us w) : Triple h m I code vs P p n R := by
  intro f w inside inv pre
  obtain ⟨k, short, ⟨us, w', goes, inv', post⟩ | failed⟩ := t f w inside inv pre
  · exact ⟨k, short, .inl ⟨us, w', goes, inv', after us w' post⟩⟩
  · exact ⟨k, short, .inr failed⟩

theorem seq (first : Triple h m I code vs P p n Q) (second : ∀ us, Triple h m I code us (Q us) (p + n) k R) :
    Triple h m I code vs P p (n + k) R := by
  intro f w inside inv pre
  obtain ⟨a, short, ⟨us, w₁, goes, inv₁, mid⟩ | ⟨e, w₁, failed, inv₁⟩⟩ := first f w inside inv pre
  · obtain ⟨b, short', ⟨vs', w₂, goes', inv₂, post⟩ | ⟨e, w₂, failed, inv₂⟩⟩ := second us f w₁ inside inv₁ mid
    · exact ⟨b + a, by omega, .inl ⟨vs', w₂, Nat.add_assoc p n k ▸ goes.trans goes', inv₂, post⟩⟩
    · refine ⟨b + a, by omega, .inr ⟨e, w₂, .after goes ?_ failed, inv₂⟩⟩
      rw [inside.caught, inside.caught]
  · exact ⟨a, by omega, .inr ⟨e, w₁, failed, inv₁⟩⟩

theorem next {ws : List Value} {P' : World → Prop} (first : Triple h m I code vs P p n fun us w => us = ws ∧ P' w)
    (second : Triple h m I code ws P' (p + n) k R) : Triple h m I code vs P p (n + k) R := by
  refine first.seq fun us f w inside inv ⟨same, before⟩ => ?_
  subst same
  exact second f w inside inv before

theorem step (around : Surrounds h m I) (at_ : code.instrs[p]? = some i)
    (done : ∀ (f : Frame) w, f.Inside code m → I w → P w → (Machine.step h (f.standing (p + 1) vs) i).Ends w
      (fun next w' => I w' ∧ ∃ us, next = .go (f.standing (p + 1) us) ∧ Q us w') fun e w' => I w' ∧ ∃ exc, e = .raised exc) :
    Triple h m I code vs P p 1 Q := by
  intro f w inside inv pre
  have at_' : (f.standing p vs).code.instrs[(f.standing p vs).pc]? = some i := by
    rw [show (f.standing p vs).code = code from inside.code]
    exact at_
  have ends := done f w inside inv pre
  unfold M.Ends at ends
  cases ran : (Machine.step h (f.standing (p + 1) vs) i).run w with
  | ok next w' =>
    rw [ran] at ends
    obtain ⟨inv', us, rfl, post⟩ := ends
    exact ⟨1, Nat.le_refl _, .inl ⟨us, w', .step at_' ran, inv', post⟩⟩
  | error e w' =>
    rw [ran] at ends
    obtain ⟨inv', exc, rfl⟩ := ends
    obtain ⟨w'', still, leads, failed⟩ := Fails.step at_' ran
    exact ⟨1, Nat.le_refl _, .inr ⟨exc, w'', failed, around.still inv' leads still⟩⟩

theorem stepStill (around : Surrounds h m I) (at_ : code.instrs[p]? = some i)
    (done : ∀ (f : Frame) w, f.Inside code m → I w → P w → (Machine.step h (f.standing (p + 1) vs) i).Ends w
      (fun next w' => w.Still w' ∧ ∃ us, next = .go (f.standing (p + 1) us) ∧ Q us w') (Raises w)) :
    Triple h m I code vs P p 1 Q :=
  .step around at_ fun f w inside inv pre => (done f w inside inv pre).leads.mono
    (fun _ _ ⟨⟨still, goes⟩, leads⟩ => ⟨around.still inv leads still, goes⟩)
    fun _ _ ⟨⟨still, raised⟩, leads⟩ => ⟨around.still inv leads still, raised⟩

theorem pre (t : ∀ w, I w → P w → Triple h m I code vs (· = w) p n Q) : Triple h m I code vs P p n Q :=
  fun f w inside inv before => t w inv before f w inside inv rfl

section

variable (around : Surrounds h m I)

include around

theorem const {c : Tree.Constant} (at_ : code.instrs[p]? = some (.const c)) :
    Triple h m I code vs P p 1 fun us w => us = constant c :: vs ∧ P w :=
  .stepStill around at_ fun _ w _ _ pre => .ofOk rfl ⟨.refl w, _, rfl, rfl, pre⟩

theorem pop {v : Value} (at_ : code.instrs[p]? = some .pop) :
    Triple h m I code (v :: us) P p 1 fun us' _ => us' = us :=
  .stepStill around at_ fun _ w _ _ _ => .ofOk rfl ⟨.refl w, _, rfl, rfl⟩

theorem load {n : String} (reads : ReadsName n i) (at_ : code.instrs[p]? = some i) :
    Triple h m I code vs P p 1 fun us w => ∃ v, us = v :: vs ∧ w.Means m n v ∧ P w := by
  refine .stepStill around at_ fun f w inside _ pre => ?_
  have place := inside.standing (p + 1) vs
  cases reads with
  | named =>
    refine .bind (.bind ((loadNamed_ends place n w).mono (fun v w' ⟨same, means⟩ => ?_) fun _ _ failed => failed))
    subst same
    exact .pure ⟨.refl _, v :: vs, rfl, v, rfl, means, pre⟩
  | global =>
    refine .bind (.bind ((loadGlobal_ends place n w).mono (fun v w' ⟨same, means⟩ => ?_) fun _ _ failed => failed))
    subst same
    exact .pure ⟨.refl _, v :: vs, rfl, v, rfl, means, pre⟩

theorem store {n : String} {v : Value} (binds : BindsName n i) (free : isReserved n = false)
    (at_ : code.instrs[p]? = some i) : Triple h m I code (v :: us) P p 1 fun us' _ => us' = us := by
  refine .step around at_ fun f w inside inv _ => ?_
  obtain ⟨w', ran, sets⟩ := sets_run m n v w
  have kept := around.bind inv (M.leads_of_ok ran) free sets
  cases binds with
  | named =>
    refine .bind (.bind (@M.Ends.ofOk _ _ _ _ _ () w' ?_ (.pure ⟨kept, us, rfl, rfl⟩)))
    rw [← ran, ← Option.getD_some (a := m) (b := f.globals), ← inside.names]
    rfl
  | global =>
    refine .bind (.bind (@M.Ends.ofOk _ _ _ _ _ () w' ?_ (.pure ⟨kept, us, rfl, rfl⟩)))
    rw [← ran, ← inside.globals]
    rfl

theorem call {r : Ref} {args : List Value} {R : Value → World → Prop}
    (at_ : code.instrs[p]? = some (.call args.length [])) (other : r ≠ nativeRef "super")
    (called : ∀ w, I w → P w → (h.call (.ref r) args []).Ends w (fun v w' => I w' ∧ R v w')
      fun e w' => I w' ∧ ∃ exc, e = .raised exc) :
    Triple h m I code (args.reverse ++ .ref r :: us) P p 1 fun us' w => ∃ v, us' = v :: us ∧ R v w := by
  refine .step around at_ fun f w _ inv pre => ?_
  have taken : (f.standing (p + 1) (args.reverse ++ .ref r :: us)).popMany args.length
      = (args, f.standing (p + 1) (.ref r :: us)) := by simp [Frame.standing, Frame.popMany]
  have here : (callHere h (f.standing (p + 1) us) (.ref r) args []).run w = (h.call (.ref r) args []).run w := by
    unfold callHere
    cases args with
    | nil =>
      have none : (callHere? (f.standing (p + 1) us) (.ref r)).run w = .ok none w := by
        unfold callHere?
        dsimp only
        rw [if_neg (by simpa using other)]
        rfl
      exact M.run_bind_ok none
    | cons => rfl
  have ends := called w inv pre
  unfold M.Ends at ends
  rw [← here] at ends
  have defined : (stepDefine h (f.standing (p + 1) (args.reverse ++ .ref r :: us)) (.call args.length [])).Ends w
      (fun g w' => I w' ∧ ∃ v, g = some (f.standing (p + 1) (v :: us)) ∧ R v w')
      fun e w' => I w' ∧ ∃ exc, e = .raised exc := by
    unfold stepDefine
    have popped : (f.standing (p + 1) (.ref r :: us)).pop = (.ref r, f.standing (p + 1) us) := rfl
    simp only [taken, popped, List.length_nil, Nat.sub_zero, List.take_length, List.zip_nil_left]
    refine .bind (M.Ends.mono (x := callHere h (f.standing (p + 1) us) (.ref r) args []) ends ?_ fun _ _ failed => failed)
    exact fun v w' made => .pure ⟨made.1, v, rfl, made.2⟩
  refine .bind (defined.mono (fun g w' made => ?_) fun _ _ failed => failed)
  obtain ⟨inv', v, rfl, made⟩ := made
  exact .pure ⟨inv', v :: us, rfl, v, rfl, made⟩

theorem raise {v : Value} (at_ : code.instrs[p]? = some (.raise 1))
    (raised : ∀ w, I w → P w → (raiseValue h v none : M Next).Ends w (fun _ _ => False) (Raises w)) :
    Triple h m I code (v :: us) P p 1 Q :=
  .stepStill around at_ fun _ w _ inv pre =>
    M.Ends.bind (.ofOk (a := none) rfl ((raised w inv pre).mono (fun _ _ none => none.elim) fun _ _ failed => failed))

theorem raiseAgain (at_ : code.instrs[p]? = some (.raise 0)) : Triple h m I code vs P p 1 Q := by
  refine .stepStill around at_ fun f w _ _ _ => M.Ends.bind (.ofOk (a := none) rfl (.read ?_))
  cases handled : w.handled
  case none => exact raise_ends _ _ fun e _ still => ⟨still, e, rfl⟩
  all_goals exact .ofError rfl ⟨.refl w, _, rfl⟩

end

end Triple

/-- A stretch of the code of statements: nothing is left on the stack. -/
def Passes (h : Host) (m : Ref) (I : World → Prop) (code : Code.Unit) (p n : Nat) : Prop :=
  Triple h m I code [] (fun _ => True) p n fun us _ => us = []

namespace Passes

variable {h : Host} {m : Ref} {I : World → Prop} {code : Code.Unit} {p n k : Nat}

theorem nil (p : Nat) : Passes h m I code p 0 := (Triple.nil [] _ p).mono fun _ _ same => same.1

theorem seq (first : Passes h m I code p n) (second : Passes h m I code (p + n) k) : Passes h m I code p (n + k) :=
  (Triple.mono first fun _ _ same => ⟨same, trivial⟩).next second

end Passes

/-! Guarded stretches. -/

theorem Fails.guarded {h : Host} {n : Nat} {f g : Frame} {w w' : World} {e : Value} (failed : Fails h n f w e w')
    (caught : f.caught e = some g) : Goes h n f w g w' := by
  intro fuel
  rw [failed, caught]
  rfl

def Frame.guarding (f : Frame) (handler : Nat) : Frame := { f with guards := ⟨handler, f.stack.length⟩ :: f.guards }

def Frame.handling (f : Frame) (before : Value) (cleanup : Nat) : Frame :=
  { f with guards := ⟨cleanup, f.stack.length + 1⟩ :: f.guards, stack := before :: f.stack }

section

variable {f : Frame} {code : Code.Unit} {m : Ref}

theorem Frame.Inside.guarding (inside : f.Inside code m) (handler : Nat) : (f.guarding handler).Inside code m := by
  refine ⟨inside.code, inside.globals, inside.names, fun g member => ?_⟩
  rcases List.mem_cons.mp member with rfl | member
  · exact Nat.le_refl _
  · exact inside.heights g member

theorem Frame.Inside.handling (inside : f.Inside code m) (before : Value) (cleanup : Nat) :
    (f.handling before cleanup).Inside code m := by
  refine ⟨inside.code, inside.globals, inside.names, fun g member => ?_⟩
  rcases List.mem_cons.mp member with rfl | member
  · exact Nat.le_refl _
  · exact Nat.le_succ_of_le (inside.heights g member)

theorem Frame.guarding_caught (f : Frame) (handler pc : Nat) (e : Value) :
    ((f.guarding handler).standing pc []).caught e = some (f.standing handler [e]) := by
  simp [Frame.caught, Frame.guarding, Frame.standing]

theorem Frame.handling_caught (f : Frame) (before : Value) (cleanup pc : Nat) (e : Value) :
    ((f.handling before cleanup).standing pc []).caught e = some (f.standing cleanup [e, before]) := by
  simp [Frame.caught, Frame.handling, Frame.standing]

end

/-- A stretch of handlers of an exception: one of them takes it and the frame goes on where the guarded statement
ends, or none does, or it raises. -/
def Handles (h : Host) (m : Ref) (I : World → Prop) (code : Code.Unit) (p n done : Nat) : Prop :=
  ∀ (f : Frame) (exc before : Value) (cleanup : Nat) (w : World), f.Inside code m → I w →
    ∃ k ≤ n,
      (∃ w', Goes h k ((f.handling before cleanup).standing p [exc]) w (f.standing done []) w' ∧ I w') ∨
      (∃ w', Goes h k ((f.handling before cleanup).standing p [exc]) w
        ((f.handling before cleanup).standing (p + n) [exc]) w' ∧ I w') ∨
      ∃ e w', Fails h k ((f.handling before cleanup).standing p [exc]) w e w' ∧ I w'

section

variable {h : Host} {m : Ref} {I : World → Prop} {code : Code.Unit} {p n b l done : Nat} {i : Instr} {name : String}

theorem Handles.nil (p done : Nat) : Handles h m I code p 0 done :=
  fun _ _ _ _ w _ inv => ⟨0, Nat.le_refl _, .inr (.inl ⟨w, .refl _ _ _, inv⟩)⟩

/-- What a handler does that takes the exception: its body, and then it leaves the guarded statement. -/
theorem Handles.taken (around : Surrounds h m I) (pop : code.instrs[p]? = some .pop)
    (body : Passes h m I code (p + 1) b)
    (leaves : Stands code (p + 1 + b) [.endRegion, .leaveHandler, .jump done])
    (f : Frame) (exc before : Value) (cleanup : Nat) (w : World) (inside : f.Inside code m) (inv : I w) :
    ∃ k ≤ b + 4,
      (∃ w', Goes h k ((f.handling before cleanup).standing p [exc]) w (f.standing done []) w' ∧ I w') ∨
      ∃ e w', Fails h k ((f.handling before cleanup).standing p [exc]) w e w' ∧ I w' := by
  have inner := inside.handling before cleanup
  have code_ : f.code = code := inside.code
  have popped : Goes h 1 ((f.handling before cleanup).standing p [exc]) w
      ((f.handling before cleanup).standing (p + 1) []) w := .step (by rw [← code_] at pop; exact pop) rfl
  obtain ⟨k, short, ⟨us, w₁, goes, inv₁, rfl⟩ | ⟨e, w₁, failed, inv₁⟩⟩ := body _ w inner inv trivial
  · let w₂ : World := { w₁ with handled := before }
    have still : w₁.Still w₂ := .aside rfl rfl rfl
    have leaves' := code_ ▸ leaves
    have ended : Goes h 1 ((f.handling before cleanup).standing (p + 1 + b) []) w₁
        (f.standing (p + 1 + b + 1) [before]) w₁ := .step leaves'.head rfl
    have left : Goes h 1 (f.standing (p + 1 + b + 1) [before]) w₁ (f.standing (p + 1 + b + 2) []) w₂ :=
      .step leaves'.tail.head rfl
    have jumped : Goes h 1 (f.standing (p + 1 + b + 2) []) w₂ (f.standing done []) w₂ :=
      .step leaves'.tail.tail.head rfl
    refine ⟨1 + (1 + (1 + (k + 1))), by omega, .inl ⟨w₂, ?_, ?_⟩⟩
    · exact (((popped.trans goes).trans ended).trans left).trans jumped
    · exact around.still inv₁ (M.leads_of_ok (x := setHandled before) (a := ()) rfl) still
  · exact ⟨k + 1, by omega, .inr ⟨e, w₁, .after popped (by rw [inner.caught, inner.caught]) failed, inv₁⟩⟩

theorem Handles.all (around : Surrounds h m I) (pop : code.instrs[p]? = some .pop)
    (body : Passes h m I code (p + 1) b)
    (leaves : Stands code (p + 1 + b) [.endRegion, .leaveHandler, .jump done]) :
    Handles h m I code p (b + 4) done := by
  intro f exc before cleanup w inside inv
  obtain ⟨k, short, goes | failed⟩ := Handles.taken around pop body leaves f exc before cleanup w inside inv
  · exact ⟨k, short, .inl goes⟩
  · exact ⟨k, short, .inr (.inr failed)⟩

theorem Handles.cons (around : Surrounds h m I) (reads : ReadsName name i) (class_ : code.instrs[p]? = some i)
    (tests : Stands code (p + 1) [.matchException, .jumpIfFalse (p + (b + 7))]) (pop : code.instrs[p + 3]? = some .pop)
    (body : Passes h m I code (p + 4) b)
    (leaves : Stands code (p + 4 + b) [.endRegion, .leaveHandler, .jump done])
    (rest : Handles h m I code (p + (b + 7)) l done) : Handles h m I code p (b + 7 + l) done := by
  intro f exc before cleanup w inside inv
  have inner := inside.handling before cleanup
  have asked : Triple h m I code [exc] (fun _ => True) p (1 + 1) fun us _ => ∃ b, us = [.bool b, exc] := by
    refine (Triple.load around reads class_).seq fun us => .pre fun w₀ _ ⟨v, stack, _⟩ => ?_
    subst stack
    refine .stepStill around tests.head fun f w _ _ _ => ?_
    exact M.Ends.bind (.ofOk (a := none) rfl (M.Ends.bind ((settles_catches exc v w).mono
      (fun b _ still => .pure ⟨still, _, rfl, b, rfl⟩) fun _ _ failed => failed)))
  obtain ⟨k, short, ⟨us, w₁, goes, inv₁, takes, rfl⟩ | ⟨e, w₁, failed, inv₁⟩⟩ := asked _ w inner inv trivial
  · have tests' := (show f.code = code from inside.code) ▸ tests
    cases takes with
    | false =>
      have jumped : Goes h 1 ((f.handling before cleanup).standing (p + (1 + 1)) [.bool false, exc]) w₁
          ((f.handling before cleanup).standing (p + (b + 7)) [exc]) w₁ := .step tests'.tail.head rfl
      have first := goes.trans jumped
      obtain ⟨j, short', ⟨w₂, goes', inv₂⟩ | ⟨w₂, goes', inv₂⟩ | ⟨e, w₂, failed, inv₂⟩⟩ :=
        rest f exc before cleanup w₁ inside inv₁
      · exact ⟨j + (1 + k), by omega, .inl ⟨w₂, first.trans goes', inv₂⟩⟩
      · exact ⟨j + (1 + k), by omega, .inr (.inl ⟨w₂, by simpa only [Nat.add_assoc] using first.trans goes', inv₂⟩)⟩
      · exact ⟨j + (1 + k), by omega, .inr (.inr ⟨e, w₂, .after first (by rw [inner.caught, inner.caught]) failed, inv₂⟩)⟩
    | true =>
      have stays : Goes h 1 ((f.handling before cleanup).standing (p + (1 + 1)) [.bool true, exc]) w₁
          ((f.handling before cleanup).standing (p + 3) [exc]) w₁ := .step tests'.tail.head rfl
      have first := goes.trans stays
      obtain ⟨j, short', ⟨w₂, goes', inv₂⟩ | ⟨e, w₂, failed, inv₂⟩⟩ :=
        Handles.taken around pop body leaves f exc before cleanup w₁ inside inv₁
      · exact ⟨j + (1 + k), by omega, .inl ⟨w₂, first.trans goes', inv₂⟩⟩
      · exact ⟨j + (1 + k), by omega, .inr (.inr ⟨e, w₂, .after first (by rw [inner.caught, inner.caught]) failed, inv₂⟩)⟩
  · exact ⟨k, by omega, .inr (.inr ⟨e, w₁, failed, inv₁⟩)⟩

theorem Fails.cleanup (around : Surrounds h m I) (ends : Stands code p [.swap 2, .leaveHandler, .reraise])
    {f : Frame} (inside : f.Inside code m) (exc before : Value) {w : World} (inv : I w) :
    ∃ w', Fails h 3 (f.standing p [exc, before]) w exc w' ∧ I w' := by
  let w₁ : World := { w with handled := before }
  have ends' := (show f.code = code from inside.code) ▸ ends
  have swapped : Goes h 1 (f.standing p [exc, before]) w (f.standing (p + 1) [before, exc]) w := .step ends'.head rfl
  have left : Goes h 1 (f.standing (p + 1) [before, exc]) w (f.standing (p + 2) [exc]) w₁ := .step ends'.tail.head rfl
  obtain ⟨w₂, still, leads, failed⟩ := Fails.step (h := h) (f := f.standing (p + 2) [exc]) (w := w₁) (e := exc)
    ends'.tail.tail.head rfl
  refine ⟨w₂, .after (swapped.trans left) (by rw [inside.caught, inside.caught]) failed, ?_⟩
  have handled : w.Still w₁ := .aside rfl rfl rfl
  exact around.still (around.still inv (M.leads_of_ok (x := setHandled before) (a := ()) rfl) handled) leads still

theorem Passes.guard (around : Surrounds h m I) (setup : code.instrs[p]? = some (.setup (p + (b + 3))))
    (body : Passes h m I code (p + 1) b)
    (leaves : Stands code (p + 1 + b) [.endRegion, .jump (p + (b + l + 9)), .setup (p + (b + l + 6)), .enterHandler])
    (handlers : Handles h m I code (p + (b + 5)) l (p + (b + l + 9)))
    (ends : Stands code (p + (b + 5) + l) [.reraise, .swap 2, .leaveHandler, .reraise]) :
    Passes h m I code p (b + l + 9) := by
  intro f w inside inv _
  have code_ : f.code = code := inside.code
  have guarding := inside.guarding (p + (b + 3))
  have leaves' := code_ ▸ leaves
  have entered : Goes h 1 (f.standing p []) w ((f.guarding (p + (b + 3))).standing (p + 1) []) w :=
    .step (by rw [← code_] at setup; exact setup) rfl
  obtain ⟨k, short, ⟨us, w₁, goes, inv₁, rfl⟩ | ⟨e, w₁, failed, inv₁⟩⟩ := body _ w guarding inv trivial
  · have ended : Goes h 1 ((f.guarding (p + (b + 3))).standing (p + 1 + b) []) w₁ (f.standing (p + 1 + b + 1) []) w₁ :=
      .step leaves'.head rfl
    have jumped : Goes h 1 (f.standing (p + 1 + b + 1) []) w₁ (f.standing (p + (b + l + 9)) []) w₁ :=
      .step leaves'.tail.head rfl
    exact ⟨1 + (1 + (k + 1)), by omega, .inl ⟨[], w₁, ((entered.trans goes).trans ended).trans jumped, inv₁, rfl⟩⟩
  · -- The exception is handled: the code of the handlers starts with it on the stack.
    have caught := failed.guarded ((guarding.caught _ _ _).symm ▸ f.guarding_caught _ (p + 1) e)
    let w₂ : World := { w₁ with handled := e }
    have inv₂ : I w₂ := around.still inv₁ (M.leads_of_ok (x := setHandled e) (a := ()) rfl) (.aside rfl rfl rfl)
    have start : p + (b + 3) = p + 1 + b + 2 := by omega
    have placed : Goes h 1 (f.standing (p + (b + 3)) [e]) w₁
        { f.standing (p + (b + 3) + 1) [e] with guards := ⟨p + (b + l + 6), f.stack.length + 1⟩ :: f.guards } w₁ :=
      .step (start ▸ leaves'.tail.tail.head) rfl
    have handled : Goes h 1
        { f.standing (p + (b + 3) + 1) [e] with guards := ⟨p + (b + l + 6), f.stack.length + 1⟩ :: f.guards } w₁
        ((f.handling w₁.handled (p + (b + l + 6))).standing (p + (b + 5)) [e]) w₂ :=
      .step (start ▸ leaves'.tail.tail.tail.head) rfl
    have first := ((entered.trans caught).trans placed).trans handled
    have inner := inside.handling w₁.handled (p + (b + l + 6))
    have leave {j : Nat} {e' : Value} {w₃ : World} (short' : j ≤ l + 1) (inv₃ : I w₃)
        (failed : Fails h j ((f.handling w₁.handled (p + (b + l + 6))).standing (p + (b + 5)) [e]) w₂ e' w₃) :
        ∃ k ≤ b + l + 9, ∃ e' w', Fails h k (f.standing p []) w e' w' ∧ I w' := by
      have after : p + (b + l + 6) = p + (b + 5) + l + 1 := by omega
      have caught := failed.guarded ((inner.caught _ _ _).symm ▸ f.handling_caught w₁.handled _ p e')
      obtain ⟨w₄, failed', inv₄⟩ := Fails.cleanup around (after ▸ ends.tail) inside e' w₁.handled inv₃
      refine ⟨3 + (j + (1 + (1 + (k + 1)))), by omega, e', w₄, .after (first.trans caught) ?_ failed', inv₄⟩
      rw [inside.caught, inside.caught]
    obtain ⟨j, short', ⟨w₃, goes, inv₃⟩ | ⟨w₃, goes, inv₃⟩ | ⟨e', w₃, failed', inv₃⟩⟩ :=
      handlers f e w₁.handled (p + (b + l + 6)) w₂ inside inv₂
    · exact ⟨j + (1 + (1 + (k + 1))), by omega, .inl ⟨[], w₃, first.trans goes, inv₃, rfl⟩⟩
    · -- No handler took it.
      obtain ⟨w₄, still, leads, raised⟩ := Fails.step (h := h)
        (f := (f.handling w₁.handled (p + (b + l + 6))).standing (p + (b + 5) + l) [e]) (w := w₃) (e := e)
        (code_ ▸ ends.head) rfl
      have failed := Fails.after goes (by rw [inner.caught, inner.caught]) raised
      obtain ⟨n, short, left⟩ := leave (Nat.add_comm 1 j ▸ Nat.succ_le_succ short') (around.still inv₃ leads still) failed
      exact ⟨n, short, .inr left⟩
    · obtain ⟨n, short, left⟩ := leave (Nat.le_succ_of_le short') inv₃ failed'
      exact ⟨n, short, .inr left⟩

end

end Notebook.Machine
