import Notebook.Machine.Run

/-! Executions followed step by step: what single instructions lead to, and what stretches of code
lead to. -/

set_option autoImplicit false

namespace Notebook.Machine

open Notebook.Code (Instr)

variable {α β : Type}

theorem M.run_pure (a : α) (w : World) : (pure a : M α).run w = .ok a w := rfl

theorem M.run_bind_ok {x : M α} {f : α → M β} {a : α} {w w' : World} (h : x.run w = .ok a w') :
    (x >>= f).run w = (f a).run w' := by
  change (M.bind x f).run w = _
  simp only [M.bind, h]

theorem M.run_bind_error {x : M α} {f : α → M β} {e : Stop} {w w' : World}
    (h : x.run w = .error e w') : (x >>= f).run w = .error e w' := by
  change (M.bind x f).run w = _
  simp only [M.bind, h]

theorem M.of_bind_ok {x : M α} {f : α → M β} {b : β} {w w' : World}
    (h : (x >>= f).run w = .ok b w') :
    ∃ a w₁, x.run w = .ok a w₁ ∧ (f a).run w₁ = .ok b w' := by
  change (M.bind x f).run w = _ at h
  unfold M.bind at h
  dsimp only at h
  split at h
  next a w₁ first => exact ⟨a, w₁, first, h⟩
  next => cases h

theorem M.run_tryCatch_ok {x : M α} {other : Stop → M α} {a : α} {w w' : World}
    (h : x.run w = .ok a w') : (M.tryCatch x other).run w = .ok a w' := by
  simp only [M.tryCatch, h]

theorem M.run_tryCatch_error {x : M α} {other : Stop → M α} {e : Stop} {w w' : World}
    (h : x.run w = .error e w') : (M.tryCatch x other).run w = (other e).run w' := by
  simp only [M.tryCatch, h]

theorem M.leads_of_ok {x : M α} {a : α} {w w' : World} (h : x.run w = .ok a w') : w.Leads w' := by
  have leads := x.leads w
  rwa [h] at leads

def M.Gives (x : M α) (P : α → World → Prop) : Prop := ∀ w a w', x.run w = .ok a w' → P a w'

theorem M.Gives.pure {P : α → World → Prop} {a : α} (h : ∀ w, P a w) : M.Gives (pure a) P := by
  intro w b w' ran
  cases ran
  exact h w

theorem M.Gives.bind {P : β → World → Prop} {x : M α} {f : α → M β} (h : ∀ a, M.Gives (f a) P) :
    M.Gives (x >>= f) P := by
  intro w b w' ran
  obtain ⟨a, w₁, _, ran⟩ := M.of_bind_ok ran
  exact h a w₁ b w' ran

theorem M.Gives.ite {P : α → World → Prop} {c : Prop} [Decidable c] {x y : M α} (hx : M.Gives x P)
    (hy : M.Gives y P) : M.Gives (if c then x else y) P := by
  split
  · exact hx
  · exact hy

theorem attempt_ok {x : M α} {a : α} {w w' : World} (h : x.run w = .ok a w') :
    (attempt x).run w = .ok (.ok a) w' :=
  M.run_tryCatch_ok (M.run_bind_ok h)

theorem attempt_raised {x : M α} {e : Value} {w w' : World} (h : x.run w = .error (.raised e) w') :
    (attempt x).run w = .ok (.error e) w' :=
  M.run_tryCatch_error (M.run_bind_error h)

/-! Objects. -/

theorem obj_run (r : Ref) (w : World) : (obj r).run w = .ok (w.heap.getD r default) w := rfl

theorem own?_run (r : Ref) (name : String) (w : World) :
    (own? r name).run w = .ok ((w.heap.getD r default).attrs.lookup name) w := rfl

/-! Stretches of code. -/

def Stands (code : Code.Unit) (pos : Nat) (part : List Instr) : Prop :=
  part <+: code.instrs.toList.drop pos

theorem Stands.head {code : Code.Unit} {pos : Nat} {i : Instr} {part : List Instr}
    (h : Stands code pos (i :: part)) : code.instrs[pos]? = some i := by
  obtain ⟨rest, hr⟩ := h
  have first : (code.instrs.toList.drop pos)[0]? = some i := by
    rw [← hr]
    rfl
  simpa using first

theorem Stands.tail {code : Code.Unit} {pos : Nat} {i : Instr} {part : List Instr}
    (h : Stands code pos (i :: part)) : Stands code (pos + 1) part := by
  obtain ⟨rest, hr⟩ := h
  refine ⟨rest, ?_⟩
  rw [← List.tail_drop, ← hr]
  rfl

theorem Stands.front {code : Code.Unit} {pos : Nat} (first : List Instr) {second : List Instr}
    (h : Stands code pos (first ++ second)) : Stands code pos first :=
  (List.prefix_append first second).trans h

theorem Stands.append {code : Code.Unit} {pos : Nat} {first second : List Instr}
    (h : Stands code pos (first ++ second)) : Stands code (pos + first.length) second := by
  induction first generalizing pos with
  | nil => exact h
  | cons i first ih =>
    have later := ih h.tail
    rwa [Nat.add_right_comm] at later

def Goes (h : Host) (n : Nat) (f : Frame) (w : World) (g : Frame) (w' : World) : Prop :=
  ∀ fuel, (execute h (fuel + n) f).run w = (execute h fuel g).run w'

namespace Goes

variable {h : Host} {n m : Nat} {f g k : Frame} {w w' w'' : World} {i : Instr}

theorem refl (h : Host) (f : Frame) (w : World) : Goes h 0 f w f w := fun _ => rfl

theorem trans (first : Goes h n f w g w') (second : Goes h m g w' k w'') :
    Goes h (m + n) f w k w'' := by
  intro fuel
  rw [← Nat.add_assoc, first, second]

theorem step (at_ : f.code.instrs[f.pc]? = some i)
    (done : (Machine.step h { f with pc := f.pc + 1 } i).run w = .ok (.go g) w') :
    Goes h 1 f w g w' := by
  intro fuel
  rw [execute]
  simp only [at_]
  rw [M.run_bind_ok (attempt_ok done)]

end Goes

end Notebook.Machine
