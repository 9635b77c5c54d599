import Notebook.Proofs.Body
import Notebook.Proofs.Stretch

/-! Elementary bodies of modules: they bind names, raise, and call their loader, inside of guards or not. Their
code is made of stretches that pass or raise. -/

set_option autoImplicit false

namespace Notebook.Code

open Notebook.Machine Notebook.Realm Notebook.Scope Notebook.Source Notebook.Tree

/-! Drafts as parts of finished code. -/

/-- A draft that a unit is finished from, with the positions that its labels stand for in the end. -/
def Draft.Within (d : Draft) (code : Code.Unit) (t : Nat → Nat) : Prop :=
  ∃ e : Draft, d.Leads e ∧ t = positionOf e ∧ code.instrs = e.instrs.map (·.mapTarget t)

/-- A draft after some more instructions are written, for which the labels that were there are left alone. -/
structure Draft.Grows (d : Draft) (n : Nat) (d' : Draft) : Prop where
  leads : d.Leads d'
  size : d'.instrs.size = d.instrs.size + n
  labels : ∀ l < d.labels.size, d'.labels[l]? = d.labels[l]?

section

variable {s : Setting} {d d' d'' : Draft} {code : Code.Unit} {t : Nat → Nat} {n k : Nat} {is : List Instr}

namespace Draft.Within

theorem ofLeads (leads : d.Leads d') (within : d'.Within code t) : d.Within code t :=
  within.imp fun _ ⟨later, rest⟩ => ⟨leads.trans later, rest⟩

theorem label {l p : Nat} (placed : d.labels[l]? = some (some p)) (within : d.Within code t) : t l = p := by
  obtain ⟨e, leads, rfl, -⟩ := within
  have last := leads.labels l p placed
  rw [positionOf, Array.getD_eq_getD_getElem?, last]
  rfl

theorem stands (written : d'.instrs.toList = d.instrs.toList ++ is) (within : d'.Within code t) :
    Stands code d.instrs.size (is.map (·.mapTarget t)) := by
  obtain ⟨e, leads, -, instrs⟩ := within
  obtain ⟨rest, whole⟩ := leads.instrs
  unfold Stands
  rw [instrs, Array.toList_map, ← whole, written, List.append_assoc, List.map_append, List.map_append,
    List.drop_left' (by simp)]
  exact List.prefix_append _ _

end Draft.Within

namespace Draft.Grows

theorem labels_le (h : d.Grows n d') : d.labels.size ≤ d'.labels.size := by
  refine Nat.le_of_not_lt fun less => ?_
  have last := h.labels d'.labels.size less
  rw [Array.getElem?_eq_none (Nat.le_refl _), Array.getElem?_eq_getElem less] at last
  cases last

theorem trans (h : d.Grows n d') (h' : d'.Grows k d'') : d.Grows (n + k) d'' where
  leads := h.leads.trans h'.leads
  size := by rw [h'.size, h.size, Nat.add_assoc]
  labels l less := (h'.labels l (Nat.lt_of_lt_of_le less h.labels_le)).trans (h.labels l less)

theorem ofAdds {α : Type} {x : Gen α} {a : α} (adds : Gen.Adds s d.slots x is) (ran : x.run s d = .ok (a, d')) :
    d.Grows is.length d' ∧ d'.instrs.toList = d.instrs.toList ++ is := by
  obtain ⟨instrs, -, labels⟩ := adds d a d' rfl ran
  refine ⟨⟨x.leads _ _ _ ran, ?_, fun l _ => by rw [labels]⟩, instrs⟩
  rw [← Array.length_toList, instrs, List.length_append, Array.length_toList]

end Draft.Grows

def Draft.Awaits (d : Draft) (l : Nat) : Prop := d.labels[l]? = some none

namespace Draft.Awaits

variable {l : Nat}

theorem lt (h : d.Awaits l) : l < d.labels.size := (Array.getElem?_eq_some_iff.mp h).1

theorem grows (h : d.Awaits l) (grows : d.Grows n d') : d'.Awaits l := (grows.labels l h.lt).trans h

end Draft.Awaits

theorem emit_ok {i : Instr} {u : PUnit} (ran : (emit i).run s d = .ok (u, d')) :
    d.Grows 1 d' ∧ d'.instrs.toList = d.instrs.toList ++ [i] :=
  Draft.Grows.ofAdds (.emit i) ran

theorem newLabel_ok {l : Nat} (ran : newLabel.run s d = .ok (l, d')) :
    l = d.labels.size ∧ d.Grows 0 d' ∧ d'.Awaits l ∧ d'.instrs = d.instrs := by
  have leads := newLabel.leads _ _ _ ran
  cases ran
  refine ⟨rfl, ⟨leads, rfl, fun k less => ?_⟩, Array.getElem?_push_size, rfl⟩
  rw [Array.getElem?_push_lt less, Array.getElem?_eq_getElem less]

theorem placeLabel_ok {l : Nat} {u : PUnit} (new : d.labels.size ≤ l) (h : d.Grows n d')
    (ran : (placeLabel l).run s d' = .ok (u, d'')) :
    d.Grows n d'' ∧ d''.instrs = d'.instrs ∧ (d'.Awaits l → d''.labels[l]? = some (some d'.instrs.size)) ∧
      ∀ k, k ≠ l → d'.Awaits k → d''.Awaits k := by
  have leads := (placeLabel l).leads _ _ _ ran
  cases ran
  refine ⟨⟨h.leads.trans leads, h.size, fun k less => ?_⟩, rfl, fun awaits => ?_, fun k other awaits => ?_⟩
  · rw [Array.getElem?_modify, if_neg (Nat.ne_of_gt (Nat.lt_of_lt_of_le less new))]
    exact h.labels k less
  · rw [Array.getElem?_modify, if_pos rfl, awaits]
    rfl
  · unfold Draft.Awaits
    rw [Array.getElem?_modify, if_neg other.symm]
    exact awaits

theorem fault_not_ok {α : Type} {message : String} {r : α × Draft} : (fault message : Gen α).run s d ≠ .ok r := by
  intro ran
  obtain ⟨d₁, _, looked, ran⟩ := Gen.of_bind_ok ran
  cases looked
  cases place : d.place <;> rw [place] at ran <;> cases ran

theorem enter_ok {r : Region} {rs rs' : List Region} (ran : (enter r rs).run s d = .ok (rs', d')) : d' = d := by
  unfold enter at ran
  split at ran
  · obtain ⟨_, _, failed, _⟩ := Gen.of_bind_ok ran
    exact absurd failed fault_not_ok
  · cases ran
    rfl

end

/-- Writing that leaves alone the labels there are, and what its code does wherever it stands. -/
def Gen.Does (s : Setting) (x : Gen PUnit) (T : Code.Unit → (Nat → Nat) → Nat → Nat → Prop) : Prop :=
  ∀ d d', x.run s d = .ok ((), d') →
    ∃ n, d.Grows n d' ∧ ∀ code t, d'.Within code t → T code t d.instrs.size n

namespace Gen.Does

variable {s : Setting} {T U V : Code.Unit → (Nat → Nat) → Nat → Nat → Prop}

theorem ofAdds {x : Gen PUnit} (adds : ∀ slots, ∃ is, Gen.Adds s slots x is ∧
    ∀ code t p, Stands code p (is.map (·.mapTarget t)) → T code t p is.length) : Does s x T := by
  intro d d' ran
  obtain ⟨is, adds, does⟩ := adds d.slots
  obtain ⟨grows, instrs⟩ := Draft.Grows.ofAdds adds ran
  exact ⟨is.length, grows, fun code t within => does code t _ (within.stands instrs)⟩

theorem ofFixed {x : Gen PUnit} (adds : ∀ slots, ∃ is, Gen.Adds s slots x is ∧ (∀ i ∈ is, hasTarget i = false) ∧
    ∀ code t p, Stands code p is → T code t p is.length) : Does s x T := by
  refine ofAdds fun slots => ?_
  obtain ⟨is, adds, fixed, does⟩ := adds slots
  have same (t : Nat → Nat) : is.map (·.mapTarget t) = is :=
    (List.map_congr_left fun i member => mapTarget_fixed (fixed i member) t).trans (List.map_id is)
  exact ⟨is, adds, fun code t p stands => does code t p (same t ▸ stands)⟩

theorem mono {x : Gen PUnit} (does : Does s x T) (more : ∀ code t p n, T code t p n → U code t p n) : Does s x U := by
  intro d d' ran
  obtain ⟨n, grows, does⟩ := does d d' ran
  exact ⟨n, grows, fun code t within => more code t _ n (does code t within)⟩

theorem bind {α : Type} {x : Gen α} {y : α → Gen PUnit} (first : ∀ d a d', x.run s d = .ok (a, d') →
    ∃ n, d.Grows n d' ∧ ∀ code t, d'.Within code t → T code t d.instrs.size n) (second : ∀ a, Does s (y a) U)
    (both : ∀ code t p n k, T code t p n → U code t (p + n) k → V code t p (n + k)) : Does s (x >>= y) V := by
  intro d d' ran
  obtain ⟨a, d₁, ran₁, ran₂⟩ := Gen.of_bind_ok ran
  obtain ⟨n, grows₁, does₁⟩ := first d a d₁ ran₁
  obtain ⟨k, grows₂, does₂⟩ := second a d₁ d' ran₂
  refine ⟨n + k, grows₁.trans grows₂, fun code t within => both code t _ n k (does₁ code t (within.ofLeads grows₂.leads)) ?_⟩
  exact grows₁.size ▸ does₂ code t within

theorem seq {x y : Gen PUnit} (first : Does s x T) (second : Does s y U)
    (both : ∀ code t p n k, T code t p n → U code t (p + n) k → V code t p (n + k)) : Does s (x >>= fun _ => y) V :=
  bind (T := T) (fun d _ d' => first d d') (fun _ => second) both

theorem emit {i : Instr} (fixed : hasTarget i = false) :
    Does s (Code.emit i) fun code _ p n => n = 1 ∧ code.instrs[p]? = some i :=
  ofFixed fun _ => ⟨[i], .emit i, by simpa using fixed, fun _ _ _ stands => ⟨rfl, stands.head⟩⟩

theorem after {α : Type} {x : Gen α} {y : α → Gen PUnit} (adds : ∀ slots, Gen.Adds s slots x [])
    (rest : ∀ a, Does s (y a) T) : Does s (x >>= y) T := by
  refine bind (T := fun _ _ _ n => n = 0) (fun d a d' ran => ⟨0, (Draft.Grows.ofAdds (adds d.slots) ran).1, fun _ _ _ => rfl⟩)
    rest fun code t p n k none does => ?_
  subst none
  simpa using does

end Gen.Does

end Notebook.Code

namespace Notebook.Machine

open Notebook.Code Notebook.Realm Notebook.Scope Notebook.Source Notebook.Tree

section

variable {h : Host} {m : Ref} {I : World → Prop} {s : Code.Setting}

theorem passes_genTry (around : Surrounds h m I) {rs : List Region} {body orelse : List Region → Gen PUnit}
    {handlers : List Region → Nat → Gen PUnit} (body_ : ∀ rs, Gen.Does s (body rs) fun code _ => Passes h m I code)
    (orelse_ : ∀ rs slots, Gen.Adds s slots (orelse rs) [])
    (handlers_ : ∀ rs done, Gen.Does s (handlers rs done) fun code t p n => Handles h m I code p n (t done)) :
    Gen.Does s (genTry rs false body orelse handlers) fun code _ => Passes h m I code := by
  intro d d' ran
  unfold genTry genCleanup at ran
  obtain ⟨handler, d₁, made₁, ran⟩ := Gen.of_bind_ok ran
  obtain ⟨cleanup, d₂, made₂, ran⟩ := Gen.of_bind_ok ran
  obtain ⟨done, d₃, made₃, ran⟩ := Gen.of_bind_ok ran
  obtain ⟨_, d₄, setup, ran⟩ := Gen.of_bind_ok ran
  obtain ⟨inner, d₅, entered, ran⟩ := Gen.of_bind_ok ran
  obtain ⟨_, d₆, wrote, ran⟩ := Gen.of_bind_ok ran
  obtain ⟨_, d₇, ended, ran⟩ := Gen.of_bind_ok ran
  obtain ⟨_, d₈, otherwise, ran⟩ := Gen.of_bind_ok ran
  obtain ⟨_, d₉, jumped, ran⟩ := Gen.of_bind_ok ran
  obtain ⟨_, d₁₀, placed₁, ran⟩ := Gen.of_bind_ok ran
  obtain ⟨_, d₁₁, again, ran⟩ := Gen.of_bind_ok ran
  obtain ⟨_, d₁₂, handles, ran⟩ := Gen.of_bind_ok ran
  obtain ⟨handling, d₁₃, entered', ran⟩ := Gen.of_bind_ok ran
  obtain ⟨_, d₁₄, caught, ran⟩ := Gen.of_bind_ok ran
  obtain ⟨_, d₁₅, raised, ran⟩ := Gen.of_bind_ok ran
  obtain ⟨_, d₁₉, cleaned, placed₃⟩ := Gen.of_bind_ok ran
  obtain ⟨_, d₁₆, placed₂, cleaned⟩ := Gen.of_bind_ok cleaned
  obtain ⟨_, d₁₇, swapped, cleaned⟩ := Gen.of_bind_ok cleaned
  obtain ⟨_, d₁₈, left, raised'⟩ := Gen.of_bind_ok cleaned
  -- The labels.
  obtain ⟨rfl, grows₁, awaits₁, same₁⟩ := newLabel_ok made₁
  obtain ⟨rfl, grows₂, awaits₂, same₂⟩ := newLabel_ok made₂
  obtain ⟨rfl, grows₃, awaits₃, same₃⟩ := newLabel_ok made₃
  -- The stretches.
  cases enter_ok entered
  cases enter_ok entered'
  obtain ⟨grows₄, instrs₄⟩ := emit_ok setup
  obtain ⟨b, grows₆, passes⟩ := body_ inner d₄ d₆ wrote
  obtain ⟨grows₇, instrs₇⟩ := emit_ok ended
  obtain ⟨grows₈, instrs₈⟩ := Draft.Grows.ofAdds (orelse_ _ _) otherwise
  obtain ⟨grows₉, instrs₉⟩ := emit_ok jumped
  have first : d.Grows 0 d₃ := grows₁.trans (grows₂.trans grows₃)
  have body₉ := grows₄.trans (grows₆.trans (grows₇.trans (grows₈.trans grows₉)))
  obtain ⟨grows₁₀, same₁₀, place₁, keeps₁⟩ := placeLabel_ok (Nat.le_refl _) (first.trans body₉) placed₁
  obtain ⟨grows₁₁, instrs₁₁⟩ := emit_ok again
  obtain ⟨grows₁₂, instrs₁₂⟩ := emit_ok handles
  obtain ⟨l, grows₁₄, handles⟩ := handlers_ handling d₂.labels.size d₁₂ d₁₄ caught
  obtain ⟨grows₁₅, instrs₁₅⟩ := emit_ok raised
  have rest₁₅ := grows₁₁.trans (grows₁₂.trans (grows₁₄.trans grows₁₅))
  obtain ⟨grows₁₆, same₁₆, place₂, keeps₂⟩ := placeLabel_ok grows₁.labels_le (grows₁₀.trans rest₁₅) placed₂
  obtain ⟨grows₁₇, instrs₁₇⟩ := emit_ok swapped
  obtain ⟨grows₁₈, instrs₁₈⟩ := emit_ok left
  obtain ⟨grows₁₉, instrs₁₉⟩ := emit_ok raised'
  have last₁₉ := grows₁₇.trans (grows₁₈.trans grows₁₉)
  obtain ⟨grows', same', place₃, -⟩ := placeLabel_ok (grows₁.trans grows₂).labels_le (grows₁₆.trans last₁₉) placed₃
  -- The positions.
  have size₃ := first.size
  have size₄ := grows₄.size
  have size₆ := grows₆.size
  have size₉ := (grows₇.trans (grows₈.trans grows₉)).size
  have size₁₀ := congrArg Array.size same₁₀
  have size₁₂ := (grows₁₁.trans grows₁₂).size
  have size₁₄ := grows₁₄.size
  have size₁₅ := grows₁₅.size
  have size₁₆ := congrArg Array.size same₁₆
  have size₁₉ := last₁₉.size
  have size' := congrArg Array.size same'
  simp only [List.length_nil] at size₉
  refine ⟨b + l + 9, ⟨grows'.leads, by omega, grows'.labels⟩, fun code t within => ?_⟩
  have within₁₉ : d₁₉.Within code t := within.ofLeads ((placeLabel _).leads _ _ _ placed₃)
  have within₁₆ := within₁₉.ofLeads last₁₉.leads
  have within₁₅ : d₁₅.Within code t := within₁₆.ofLeads ((placeLabel _).leads _ _ _ placed₂)
  have within₁₂ := within₁₅.ofLeads (grows₁₄.trans grows₁₅).leads
  have within₁₀ := within₁₂.ofLeads (grows₁₁.trans grows₁₂).leads
  have within₆ : d₆.Within code t :=
    within₁₀.ofLeads ((grows₇.trans (grows₈.trans grows₉)).leads.trans ((placeLabel _).leads _ _ _ placed₁))
  have within₄ := within₆.ofLeads grows₆.leads
  -- The labels are placed once.
  have less₁ : d.labels.size < d₁.labels.size := awaits₁.lt
  have less₂ : d₁.labels.size < d₂.labels.size := awaits₂.lt
  have handler : t d.labels.size = d.instrs.size + (b + 3) := by
    rw [within₁₀.label (place₁ (awaits₁.grows (grows₂.trans (grows₃.trans body₉))))]
    omega
  have cleanup : t d₁.labels.size = d.instrs.size + (b + l + 6) := by
    have awaits := (keeps₁ _ (Nat.ne_of_gt less₁) (awaits₂.grows (grows₃.trans body₉))).grows rest₁₅
    rw [within₁₆.label (place₂ awaits)]
    omega
  have done : t d₂.labels.size = d.instrs.size + (b + l + 9) := by
    have awaits := (keeps₁ _ (Nat.ne_of_gt (Nat.lt_trans less₁ less₂)) (awaits₃.grows body₉)).grows rest₁₅
    rw [within.label (place₃ ((keeps₂ _ (Nat.ne_of_gt less₂) awaits).grows last₁₉))]
    omega
  have setup := (within₄.stands instrs₄).head
  have leaves : Stands code d₆.instrs.size (List.map (Instr.mapTarget t)
      [.endRegion, .jump d₂.labels.size, .setup d₁.labels.size, .enterHandler]) :=
    within₁₂.stands (by rw [instrs₁₂, instrs₁₁, same₁₀, instrs₉, instrs₈, instrs₇]; simp)
  have ends : Stands code d₁₄.instrs.size (List.map (Instr.mapTarget t)
      [.reraise, .swap 2, .leaveHandler, .reraise]) :=
    within₁₉.stands (by rw [instrs₁₉, instrs₁₈, instrs₁₇, same₁₆, instrs₁₅]; simp)
  have handled : Handles h m I code d₁₂.instrs.size l (t d₂.labels.size) :=
    handles code t (within₁₅.ofLeads grows₁₅.leads)
  have passed : Passes h m I code d₄.instrs.size b := passes code t within₆
  simp only [List.map_cons, List.map_nil, Instr.mapTarget, handler, cleanup, done] at setup leaves ends
  rw [done] at handled
  rw [show d₃.instrs.size = d.instrs.size by omega] at setup
  rw [show d₄.instrs.size = d.instrs.size + 1 by omega] at passed
  rw [show d₆.instrs.size = d.instrs.size + 1 + b by omega] at leaves
  rw [show d₁₂.instrs.size = d.instrs.size + (b + 5) by omega] at handled
  rw [show d₁₄.instrs.size = d.instrs.size + (b + 5) + l by omega] at ends
  exact .guard around setup passed leaves handled ends

def literal? : Expr → Option Constant
  | .const _ c => some c
  | _ => none

/-! The code of a text: names are those of the module. -/

structure AtTop (s : Code.Setting) : Prop where
  owner : s.owner = none
  kind : s.scope.info.kind = .module
  own : ∀ n, s.scope.binding n ≠ .cell ∧ s.scope.binding n ≠ .free

theorem AtTop.reads (top : AtTop s) (n : String) (slots : Array String) :
    ReadsName n (nameInstr s.scope slots n .load) := by
  have own := top.own n
  unfold nameInstr
  rw [top.kind]
  cases bound : s.scope.binding n with
  | cell => exact absurd bound own.1
  | free => exact absurd bound own.2
  | «local» => exact .named
  | globalDeclared => exact .global
  | global => exact .named

theorem AtTop.binds (top : AtTop s) (n : String) (slots : Array String) :
    BindsName n (nameInstr s.scope slots n .store) := by
  rcases nameInstr_text top.kind (top.own n) slots with same | same <;> rw [same]
  · exact .named
  · exact .global

theorem AtTop.adds_name (top : AtTop s) (p : Pos) {n : String} (plain : (n != "__debug__") = true) (slots : Array String) :
    Gen.Adds s slots (genExpr (.name p n .load)) [nameInstr s.scope slots n .load] := by
  have named : Gen.Adds s slots (genFor .value (.name p n .load)) [nameInstr s.scope slots (mangle s.owner n) .load] :=
    .name p (by simpa using plain)
  rwa [top.owner] at named

theorem taken_ok {body : Gen PUnit} {done : Nat} {d d₁ d₂ d₃ d₄ d₅ : Draft} {u₁ u₃ u₄ u₅ : PUnit}
    (body_ : Gen.Does s body fun code _ => Passes h m I code) (popped : (emit .pop).run s d = .ok (u₁, d₁))
    (wrote : body.run s d₁ = .ok ((), d₂)) (ended : (emit .endRegion).run s d₂ = .ok (u₃, d₃))
    (left : (emit .leaveHandler).run s d₃ = .ok (u₄, d₄)) (jumped : (emit (.jump done)).run s d₄ = .ok (u₅, d₅)) :
    ∃ b, d.Grows (b + 4) d₅ ∧ ∀ code t, d₅.Within code t → code.instrs[d.instrs.size]? = some .pop ∧
      Passes h m I code (d.instrs.size + 1) b ∧
      Stands code (d.instrs.size + 1 + b) [.endRegion, .leaveHandler, .jump (t done)] := by
  obtain ⟨grows₁, instrs₁⟩ := emit_ok popped
  obtain ⟨b, grows₂, passes⟩ := body_ d₁ d₂ wrote
  obtain ⟨grows₃, instrs₃⟩ := emit_ok ended
  obtain ⟨grows₄, instrs₄⟩ := emit_ok left
  obtain ⟨grows₅, instrs₅⟩ := emit_ok jumped
  have last := grows₃.trans (grows₄.trans grows₅)
  have grows := grows₁.trans (grows₂.trans last)
  refine ⟨b, ⟨grows.leads, by rw [grows.size]; omega, grows.labels⟩, fun code t within => ?_⟩
  have within₂ := within.ofLeads last.leads
  have leaves : Stands code d₂.instrs.size
      (List.map (Instr.mapTarget t) [.endRegion, .leaveHandler, .jump done]) :=
    within.stands (by rw [instrs₅, instrs₄, instrs₃]; simp)
  rw [grows₂.size, grows₁.size] at leaves
  exact ⟨((within₂.ofLeads grows₂.leads).stands instrs₁).head, grows₁.size ▸ passes code t within₂, leaves⟩

theorem handles_all (around : Surrounds h m I) {rs : List Region} {done : Nat} {body : List Stmt} (p : Pos)
    (body_ : ∀ rs, Gen.Does s (genStmts rs body) fun code _ => Passes h m I code) :
    Gen.Does s (genHandlers rs done [⟨p, none, none, body⟩]) fun code t p n => Handles h m I code p n (t done) := by
  intro d d' ran
  rw [genHandlers] at ran
  dsimp only at ran
  obtain ⟨_, d₁, placed, ran⟩ := Gen.of_bind_ok ran
  obtain ⟨next, d₂, made, ran⟩ := Gen.of_bind_ok ran
  obtain ⟨_, d₃, popped, ran⟩ := Gen.of_bind_ok ran
  obtain ⟨inner, d₄, entered, ran⟩ := Gen.of_bind_ok ran
  cases enter_ok entered
  obtain ⟨_, d₅, wrote, ran⟩ := Gen.of_bind_ok ran
  obtain ⟨_, d₆, ended, ran⟩ := Gen.of_bind_ok ran
  obtain ⟨_, d₇, left, ran⟩ := Gen.of_bind_ok ran
  obtain ⟨_, d₈, jumped, ran⟩ := Gen.of_bind_ok ran
  obtain ⟨_, d₉, placed', ran⟩ := Gen.of_bind_ok ran
  rw [genHandlers] at ran
  cases ran
  obtain ⟨grows₁, -⟩ := Draft.Grows.ofAdds (.setPlace p) placed
  obtain ⟨rfl, grows₂, awaits, same₂⟩ := newLabel_ok made
  obtain ⟨b, grows₈, does⟩ := taken_ok (body_ inner) popped wrote ended left jumped
  obtain ⟨grows', same', -⟩ := placeLabel_ok grows₁.labels_le (grows₁.trans (grows₂.trans grows₈)) placed'
  have size₂ := (grows₁.trans grows₂).size
  refine ⟨b + 4, ⟨grows'.leads, by rw [grows'.size]; simp, grows'.labels⟩, fun code t within => ?_⟩
  obtain ⟨pop, passes, leaves⟩ := does code t (within.ofLeads ((placeLabel _).leads _ _ _ placed'))
  simp only [List.length_nil, Nat.add_zero] at size₂
  rw [size₂] at pop passes leaves
  exact .all around pop passes leaves

theorem handles_cons (around : Surrounds h m I) (top : AtTop s) {rs : List Region} {done : Nat} {body : List Stmt}
    {hs : List (Handler (List Stmt))} (p q : Pos) {name : String} (plain : (name != "__debug__") = true)
    (body_ : ∀ rs, Gen.Does s (genStmts rs body) fun code _ => Passes h m I code)
    (rest_ : Gen.Does s (genHandlers rs done hs) fun code t p n => Handles h m I code p n (t done)) :
    Gen.Does s (genHandlers rs done (⟨p, some (.name q name .load), none, body⟩ :: hs))
      fun code t p n => Handles h m I code p n (t done) := by
  intro d d' ran
  rw [genHandlers] at ran
  dsimp only at ran
  obtain ⟨_, d₁, placed, ran⟩ := Gen.of_bind_ok ran
  obtain ⟨next, d₂, made, ran⟩ := Gen.of_bind_ok ran
  obtain ⟨_, d₃, read, ran⟩ := Gen.of_bind_ok ran
  obtain ⟨_, d₄, tested, ran⟩ := Gen.of_bind_ok ran
  obtain ⟨_, d₅, jumped, ran⟩ := Gen.of_bind_ok ran
  obtain ⟨_, d₆, popped, ran⟩ := Gen.of_bind_ok ran
  obtain ⟨inner, d₇, entered, ran⟩ := Gen.of_bind_ok ran
  cases enter_ok entered
  obtain ⟨_, d₈, wrote, ran⟩ := Gen.of_bind_ok ran
  obtain ⟨_, d₉, ended, ran⟩ := Gen.of_bind_ok ran
  obtain ⟨_, d₁₀, left, ran⟩ := Gen.of_bind_ok ran
  obtain ⟨_, d₁₁, jumped', ran⟩ := Gen.of_bind_ok ran
  obtain ⟨_, d₁₂, placed', others⟩ := Gen.of_bind_ok ran
  obtain ⟨grows₁, -⟩ := Draft.Grows.ofAdds (.setPlace p) placed
  obtain ⟨rfl, grows₂, awaits, same₂⟩ := newLabel_ok made
  obtain ⟨grows₃, instrs₃⟩ := Draft.Grows.ofAdds (top.adds_name q plain _) read
  obtain ⟨grows₄, instrs₄⟩ := emit_ok tested
  obtain ⟨grows₅, instrs₅⟩ := emit_ok jumped
  obtain ⟨b, grows₁₁, does⟩ := taken_ok (body_ inner) popped wrote ended left jumped'
  have first := grows₁.trans grows₂
  have tests := grows₃.trans (grows₄.trans grows₅)
  obtain ⟨grows₁₂, same₁₂, place, -⟩ := placeLabel_ok grows₁.labels_le (first.trans (tests.trans grows₁₁)) placed'
  obtain ⟨l, grows', handles⟩ := rest_ d₁₂ d' others
  have size₂ := first.size
  have size₃ := grows₃.size
  have size₅ := tests.size
  have size₁₁ := grows₁₁.size
  have size₁₂ := congrArg Array.size same₁₂
  have size' := grows'.size
  simp only [List.length_nil, List.length_singleton] at size₂ size₃ size₅
  refine ⟨b + 7 + l, ⟨(grows₁₂.trans grows').leads, by omega, (grows₁₂.trans grows').labels⟩, fun code t within => ?_⟩
  have within₁₂ := within.ofLeads grows'.leads
  have within₁₁ : d₁₁.Within code t := within₁₂.ofLeads ((placeLabel _).leads _ _ _ placed')
  obtain ⟨pop, passes, leaves⟩ := does code t within₁₁
  have next : t d₁.labels.size = d.instrs.size + (b + 7) := by
    rw [within₁₂.label (place (awaits.grows (tests.trans grows₁₁)))]
    omega
  have within₅ := within₁₁.ofLeads grows₁₁.leads
  have class_ : code.instrs[d₂.instrs.size]? = some ((nameInstr s.scope d₂.slots name .load).mapTarget t) :=
    ((within₅.ofLeads (grows₄.trans grows₅).leads).stands instrs₃).head
  have tests : Stands code d₃.instrs.size (List.map (Instr.mapTarget t) [.matchException, .jumpIfFalse d₁.labels.size]) :=
    within₅.stands (by rw [instrs₅, instrs₄]; simp)
  have rest : Handles h m I code d₁₂.instrs.size l (t done) := handles code t within
  simp only [List.map_cons, List.map_nil, Instr.mapTarget, next] at tests
  rw [mapTarget_fixed (nameInstr_hasTarget ..), show d₂.instrs.size = d.instrs.size by omega] at class_
  rw [show d₃.instrs.size = d.instrs.size + 1 by omega] at tests
  rw [show d₅.instrs.size = d.instrs.size + 3 by omega] at pop passes leaves
  rw [show d₁₂.instrs.size = d.instrs.size + (b + 7) by omega] at rest
  exact .cons around (top.reads name _) class_ tests pop passes leaves rest

/-! Expressions of elementary bodies. -/

theorem Triple.consts (around : Surrounds h m I) {code : Code.Unit} {us : List Value} {P : World → Prop} {p : Nat}
    {cs : List Constant} (at_ : Stands code p (cs.map .const)) :
    Triple h m I code us P p cs.length fun us' w => us' = (cs.map constant).reverse ++ us ∧ P w := by
  induction cs generalizing us p with
  | nil => exact (Triple.nil us P p).mono fun _ _ after => after
  | cons c cs ih =>
    have first : Triple h m I code us P p 1 fun us' w => us' = constant c :: us ∧ P w := .const around at_.head
    rw [List.length_cons, Nat.add_comm]
    refine (first.next (ih at_.tail)).mono fun us' w ⟨same, after⟩ => ⟨?_, after⟩
    simpa using same

theorem adds_literals {args : List Expr} (literals : args.all (literal? · |>.isSome) = true) (slots : Array String) :
    (args.filterMap literal?).length = args.length ∧ args.any isStarred = false ∧
      Gen.Adds s slots (genExprs args) ((args.filterMap literal?).map .const) := by
  induction args with
  | nil => exact ⟨rfl, rfl, .exprs_nil⟩
  | cons e args ih =>
    rw [List.all_cons, Bool.and_eq_true] at literals
    obtain ⟨length, unstarred, adds⟩ := ih literals.2
    cases e
    case const p c => exact ⟨congrArg (· + 1) length, unstarred, .exprs_cons (.const p c) adds⟩
    all_goals cases literals.1

theorem AtTop.adds_call (top : AtTop s) (p q : Pos) {n : String} (plain : (n != "__debug__") = true) {args : List Expr}
    (literals : args.all (literal? · |>.isSome) = true) (slots : Array String) :
    Gen.Adds s slots (genExpr (.call p (.name q n .load) args [])) ([nameInstr s.scope slots n .load]
      ++ (args.filterMap literal?).map .const ++ [.call (args.filterMap literal?).length []]) := by
  obtain ⟨length, unstarred, adds⟩ := adds_literals literals slots
  unfold genExpr
  rw [genFor, length]
  refine Gen.Adds.gives p ?_
  rw [checkKeywords, genKeywords]
  refine (Gen.Adds.pure _).after fun _ => (Gen.Adds.setPlace p).after fun _ => ?_
  rw [List.append_assoc]
  refine (top.adds_name q plain slots).bind fun _ => ?_
  unfold genCall
  rw [unstarred, List.any_nil, Bool.or_self, if_neg Bool.false_ne_true]
  refine adds.bind fun _ => (Gen.Adds.pure _).after fun _ => (Gen.Adds.setCallPlace _ _ _ _).after fun _ => ?_
  have called : Gen.Adds s slots (Code.emit (.call (0 + args.length + 0) [])) [.call (0 + args.length + 0) []] := .emit _
  simpa using called

theorem Triple.callName (around : Surrounds h m I) {code : Code.Unit} {us : List Value} {P : World → Prop} {p : Nat}
    {n : String} {i : Instr} {cs : List Constant} {R : Value → World → Prop} (reads : ReadsName n i)
    (at_ : Stands code p ([i] ++ cs.map .const ++ [.call cs.length []]))
    (callee : ∀ w v, I w → w.Means m n v → ∃ r, v = .ref r ∧ r ≠ nativeRef "super" ∧
      (h.call (.ref r) (cs.map constant) []).Ends w (fun v w' => I w' ∧ R v w')
        fun e w' => I w' ∧ ∃ exc, e = .raised exc) :
    Triple h m I code us P p (1 + cs.length + 1) fun us' w => ∃ v, us' = v :: us ∧ R v w := by
  have called := at_.append
  rw [List.length_append, List.length_map, List.length_singleton, ← Nat.add_assoc] at called
  rw [List.append_assoc] at at_
  rw [Nat.add_assoc]
  refine (Triple.load around reads at_.head).seq fun us' => .pre fun w inv ⟨v, same, means, _⟩ => ?_
  subst same
  obtain ⟨r, rfl, other, ends⟩ := callee w v inv means
  refine (Triple.consts around (at_.append.front (cs.map .const))).next (.call around ?_ other ?_)
  · rw [List.length_map]
    exact called.head
  · rintro _ _ rfl
    exact ends

/-! What a body does besides binding names: it calls its loader and raises. -/

theorem builtinTable_lookup {n : String} (unknown : n ∉ Cell.builtinNames)
    (other : n ∉ ["Ellipsis", "NotImplemented", "__name__", "__doc__", "__package__", "__build_class__", "__debug__"]) :
    builtinTable.lookup n = none := by
  refine List.lookup_eq_none_iff.mpr fun entry member => ?_
  rw [bne_iff_ne]
  rintro rfl
  rcases List.mem_append.mp member with member | member
  · obtain ⟨b, inside, made⟩ := List.mem_filterMap.mp member
    have same : b.name = entry.1 := by
      split at made
      · split at made
        · cases made
          rfl
        · cases made
      · cases made
        rfl
      · cases made
        rfl
      · cases made
    exact unknown (same ▸ List.mem_map_of_mem inside)
  · exact other (List.mem_map_of_mem (f := (·.1)) member)

theorem builtinTable_require : builtinTable.lookup "__require__" = none :=
  builtinTable_lookup (by decide +kernel) (by decide +kernel)

theorem World.Sane.foreign {w : World} {r : Ref} (sane : w.Sane) (other : (w.object r).payload.class? = none) :
    r ≠ nativeRef "super" := by
  rintro rfl
  have inside := nativeRef_lt "super"
  obtain ⟨c, payload⟩ := firstHeap_class inside
  rw [show (w.object (nativeRef "super")).payload = .class c from (sane.native _ inside).payload.trans payload] at other
  cases other

theorem World.IsModule.foreign {w : World} {r : Ref} (is : w.IsModule r) (sane : w.Sane) : r ≠ nativeRef "super" := by
  obtain ⟨name, payload⟩ := is.payload
  exact sane.foreign (by rw [payload]; rfl)

theorem isErrorRef_super : isErrorRef (nativeRef "super") = false := by decide +kernel

section

variable (around : Surrounds h m I)

include around

theorem Surrounds.calls_require (s : String) (name : Option String) {w : World} {v : Value} (inv : I w)
    (means : w.Means m "__require__" v) : ∃ r, v = .ref r ∧ r ≠ nativeRef "super" ∧
      (h.call (.ref r) (loaderArgs s name) []).Ends w (fun _ w' => I w' ∧ True)
        fun e w' => I w' ∧ ∃ exc, e = .raised exc := by
  have sane := around.sane inv
  rcases means with found | ⟨-, known⟩
  · obtain ⟨r, rfl, is | ⟨dir, loader⟩⟩ := around.require inv found
    · refine ⟨r, rfl, is.foreign sane, (around.module _ inv is).leads.mono (fun _ _ none => none.1.elim) ?_⟩
      exact fun e w' ⟨⟨still, raised⟩, leads⟩ => ⟨around.still inv leads still, raised⟩
    · refine ⟨r, rfl, sane.foreign (by rw [loader]; rfl), ?_⟩
      exact (around.load s name inv loader).mono (fun _ _ kept => ⟨kept, trivial⟩) fun _ _ failed => failed
  · rw [builtinTable_require] at known
    cases known

theorem Surrounds.calls_error {n : String} (is : isErrorName n = true) (args : List Value) {w : World} {v : Value} (inv : I w)
    (means : w.Means m n v) : ∃ r, v = .ref r ∧ r ≠ nativeRef "super" ∧
      (h.call (.ref r) args []).Ends w
        (fun v w' => I w' ∧ ∃ x e, v = .ref x ∧ (w'.object x).payload = .exception e)
        fun e w' => I w' ∧ ∃ exc, e = .raised exc := by
  have sane := around.sane inv
  rcases means with found | ⟨-, known⟩
  · obtain ⟨r, rfl, is⟩ := around.error inv is found
    refine ⟨r, rfl, is.foreign sane, (around.module _ inv is).leads.mono (fun _ _ none => none.1.elim) ?_⟩
    exact fun e w' ⟨⟨still, raised⟩, leads⟩ => ⟨around.still inv leads still, raised⟩
  · obtain ⟨r, known', error⟩ := isErrorName_lookup is
    cases known.symm.trans known'
    refine ⟨r, rfl, ?_, (around.raises args inv error).leads.mono ?_ ?_⟩
    · rintro rfl
      rw [isErrorRef_super] at error
      cases error
    · exact fun v w' ⟨made, leads⟩ => ⟨around.still inv leads made.still, made.exception⟩
    · exact fun e w' ⟨⟨still, raised⟩, leads⟩ => ⟨around.still inv leads still, raised⟩

theorem Surrounds.raises_error {α : Type} {n : String} (is : isErrorName n = true) {w : World} {v : Value} (inv : I w)
    (means : w.Means m n v) : (raiseValue h v none : M α).Ends w (fun _ _ => False) (Raises w) := by
  rcases means with found | ⟨-, known⟩
  · obtain ⟨r, rfl, is⟩ := around.error inv is found
    obtain ⟨name, payload⟩ := is.payload
    refine raiseObject_ends ((class?_run r w).trans ?_)
    rw [payload]
    rfl
  · obtain ⟨r, known', error⟩ := isErrorName_lookup is
    cases known.symm.trans known'
    exact raiseError_ends error (around.sane inv) (around.raises [] inv error)

end

/-! Elementary bodies. -/

/-- A call of the loader of a module, with a specifier and perhaps a name. -/
def isRequire : Expr → Bool
  | .call _ (.name _ f .load) [.const _ (.str _ _)] [] => f == "__require__"
  | .call _ (.name _ f .load) [.const _ (.str _ _), .const _ (.str _ _)] [] => f == "__require__"
  | _ => false

/-- What an elementary body binds names to: a literal, what another name stands for, or what its loader gives. -/
def isBound : Expr → Bool
  | .const .. => true
  | .name _ n .load => n != "__debug__"
  | e => isRequire e

/-- What an elementary body raises: an error that every program knows, perhaps made from literals. -/
def isRaised : Expr → Bool
  | .name _ n .load => n != "__debug__" && isErrorName n
  | .call _ (.name _ n .load) args [] => n != "__debug__" && isErrorName n && args.all (literal? · |>.isSome)
  | _ => false

mutual

/-- Statements of elementary bodies: they bind names, call the loader, raise, and guard such statements. -/
def isElementary : Stmt → Bool
  | .pass _ => true
  | .expr _ e => isBound e
  | .assign _ [.name _ n .store] e => !isReserved n && isBound e
  | .raise _ none none => true
  | .raise _ (some e) none => isRaised e
  | .try _ false body handlers [] [] => areElementary body && handleElementary handlers
  | _ => false

def areElementary : List Stmt → Bool
  | [] => true
  | s :: ss => isElementary s && areElementary ss

/-- Handlers with elementary bodies, each of a class of exceptions or the last of all of them. -/
def handleElementary : List (Handler (List Stmt)) → Bool
  | [] => true
  | [⟨_, none, none, body⟩] => areElementary body
  | ⟨_, some (.name _ n .load), none, body⟩ :: hs => n != "__debug__" && areElementary body && handleElementary hs
  | _ => false

end

section

variable (around : Surrounds h m I) (top : AtTop s)

include around top

theorem does_call (p q : Pos) {n : String} (plain : (n != "__debug__") = true) {args : List Expr}
    (literals : args.all (literal? · |>.isSome) = true) {R : Value → World → Prop}
    (callee : ∀ w v, I w → w.Means m n v → ∃ r, v = .ref r ∧ r ≠ nativeRef "super" ∧
      (h.call (.ref r) ((args.filterMap literal?).map constant) []).Ends w (fun v w' => I w' ∧ R v w')
        fun e w' => I w' ∧ ∃ exc, e = .raised exc) :
    Gen.Does s (genExpr (.call p (.name q n .load) args [])) fun code _ p k =>
      Triple h m I code [] (fun _ => True) p k fun us w => ∃ v, us = [v] ∧ R v w := by
  refine .ofFixed fun slots => ⟨_, top.adds_call p q plain literals slots, ?_, fun code _ p stands => ?_⟩
  · intro i member
    simp only [List.mem_append, List.mem_singleton, List.mem_map] at member
    rcases member with (rfl | ⟨c, -, rfl⟩) | rfl
    · exact nameInstr_hasTarget ..
    · rfl
    · rfl
  · have whole := @Triple.callName _ _ _ around _ [] (fun _ => True) _ _ _ _ _ (top.reads n slots) stands callee
    simpa [Nat.add_comm 1] using whole

theorem does_require {e : Expr} (require : isRequire e = true) : Gen.Does s (genExpr e) fun code _ p n =>
    Triple h m I code [] (fun _ => True) p n fun us _ => ∃ v, us = [v] := by
  have plain : ("__require__" != "__debug__") = true := by decide
  have given (code : Code.Unit) (_ : Nat → Nat) (p n : Nat)
      (t : Triple h m I code [] (fun _ => True) p n fun us _ => ∃ v, us = [v] ∧ True) :
      Triple h m I code [] (fun _ => True) p n fun us _ => ∃ v, us = [v] :=
    t.mono fun _ _ ⟨v, same, _⟩ => ⟨v, same⟩
  unfold isRequire at require
  split at require
  next p q f r t k =>
    cases beq_iff_eq.mp require
    exact (does_call around top p q plain rfl fun w v inv => around.calls_require t none inv).mono given
  next p q f r t k l n _ =>
    cases beq_iff_eq.mp require
    exact (does_call around top p q plain rfl fun w v inv => around.calls_require t (some n) inv).mono given
  next => cases require

theorem does_bound {e : Expr} (bound : isBound e = true) : Gen.Does s (genExpr e) fun code _ p n =>
    Triple h m I code [] (fun _ => True) p n fun us _ => ∃ v, us = [v] := by
  unfold isBound at bound
  split at bound
  next q c =>
    refine .ofFixed fun slots => ⟨_, .const q c, by simp [hasTarget], fun code _ p stands => ?_⟩
    exact (Triple.const around stands.head).mono fun us _ ⟨same, _⟩ => ⟨_, same⟩
  next q n =>
    refine .ofFixed fun slots => ⟨_, top.adds_name q bound slots, by simp, fun code _ p stands => ?_⟩
    exact (Triple.load around (top.reads n slots) stands.head).mono fun us _ ⟨v, same, _⟩ => ⟨v, same⟩
  next => exact does_require around top bound

theorem does_raised {e : Expr} (raised : isRaised e = true) : Gen.Does s (genExpr e >>= fun _ => emit (.raise 1))
    fun code _ => Passes h m I code := by
  -- One instruction more.
  have last {R : Value → World → Prop} (raises : ∀ w v, I w → R v w →
      (raiseValue h v none : M Next).Ends w (fun _ _ => False) (Raises w))
      (first : Gen.Does s (genExpr e) fun code _ p n =>
        Triple h m I code [] (fun _ => True) p n fun us w => ∃ v, us = [v] ∧ R v w) :
      Gen.Does s (genExpr e >>= fun _ => emit (.raise 1)) fun code _ => Passes h m I code := by
    refine .seq first (.emit rfl) ?_
    rintro code t p n _ gives ⟨rfl, at_⟩
    refine gives.seq fun us => .pre fun w inv ⟨v, same, known⟩ => ?_
    subst same
    exact Triple.raise around at_ fun w' _ same => same ▸ raises w v inv known
  unfold isRaised at raised
  split at raised
  next q n =>
    rw [Bool.and_eq_true] at raised
    refine last (R := fun v w => w.Means m n v) (fun w v inv => around.raises_error raised.2 inv) ?_
    refine .ofFixed fun slots => ⟨_, top.adds_name q raised.1 slots, by simp, fun code _ p stands => ?_⟩
    exact (Triple.load around (top.reads n slots) stands.head).mono fun us w ⟨v, same, means, _⟩ => ⟨v, same, means⟩
  next p q n args =>
    rw [Bool.and_eq_true, Bool.and_eq_true] at raised
    refine last ?_ (does_call around top p q raised.1.1 raised.2 fun w v inv => around.calls_error raised.1.2 _ inv)
    rintro w v inv ⟨x, e, rfl, payload⟩
    refine raiseObject_ends ((class?_run x w).trans ?_)
    rw [payload]
    rfl
  next => cases raised

theorem does_elementary :
    (∀ st, isElementary st = true → ∀ rs, Gen.Does s (genStmt rs st) fun code _ => Passes h m I code) ∧
    (∀ hs, handleElementary hs = true → ∀ rs done,
      Gen.Does s (genHandlers rs done hs) fun code t p n => Handles h m I code p n (t done)) ∧
    ∀ ss, areElementary ss = true → ∀ rs, Gen.Does s (genStmts rs ss) fun code _ => Passes h m I code := by
  have nothing {x : Gen PUnit} (adds : ∀ slots, Gen.Adds s slots x []) : Gen.Does s x fun code _ => Passes h m I code :=
    .ofFixed fun slots => ⟨[], adds slots, by simp, fun _ _ p _ => .nil p⟩
  have dropped (code : Code.Unit) (_ : Nat → Nat) (p n k : Nat)
      (gives : Triple h m I code [] (fun _ => True) p n fun us _ => ∃ v, us = [v])
      (at_ : k = 1 ∧ code.instrs[p + n]? = some .pop) : Passes h m I code p (n + k) := by
    obtain ⟨rfl, at_⟩ := at_
    refine gives.seq fun us => .pre fun w inv ⟨v, same⟩ => ?_
    subst same
    exact .pop around at_
  refine isElementary.mutual_induct_unfolding
    (fun st b => b = true → ∀ rs, Gen.Does s (genStmt rs st) fun code _ => Passes h m I code)
    (fun hs b => b = true → ∀ rs done,
      Gen.Does s (genHandlers rs done hs) fun code t p n => Handles h m I code p n (t done))
    (fun ss b => b = true → ∀ rs, Gen.Does s (genStmts rs ss) fun code _ => Passes h m I code)
    ?pass ?expr ?assign ?again ?raised ?guarded ?other ?nil ?cons ?unhandled ?all ?typed ?unknown
  case pass =>
    intro p _ rs
    rw [genStmt]
    exact nothing fun _ => .setPlace p
  case expr =>
    intro p e bound rs
    cases e
    case const =>
      rw [genStmt]
      exact nothing fun _ => (Gen.Adds.setPlace p).after fun _ => .pure _
    all_goals
      rw [genStmt]
      · refine .after (fun _ => .setPlace p) fun _ => ?_
        exact (does_bound around top bound).seq (.emit rfl) dropped
      · intro _ _ same
        cases same
  case assign =>
    intro p q n e plain rs
    rw [Bool.and_eq_true] at plain
    have store : Gen.Does s (genTargetsInTurn [.name q n .store]) fun code _ p k =>
        k = 1 ∧ ∃ i, BindsName n i ∧ code.instrs[p]? = some i := by
      rw [genTargetsInTurn]
      refine .ofFixed fun slots => ⟨[nameInstr s.scope slots n .store], ?_, by simp, fun code _ p stands => ?_⟩
      · have named : Gen.Adds s slots (genFor .value (.name q n .store))
            [nameInstr s.scope slots (mangle s.owner n) .store] := .name q (by simp)
        rwa [top.owner] at named
      · exact ⟨rfl, _, top.binds n slots, stands.head⟩
    rw [genStmt]
    refine .after (fun _ => .setPlace p) fun _ => ?_
    refine (does_bound around top plain.2).seq store ?_
    rintro code t p n _ gives ⟨rfl, i, binds, at_⟩
    refine gives.seq fun us => .pre fun w inv ⟨v, same⟩ => ?_
    subst same
    exact .store around binds (by simpa using plain.1) at_
  case again =>
    intro p _ rs
    rw [genStmt]
    refine .after (fun _ => .setPlace p) fun _ => ?_
    refine (Gen.Does.emit rfl).mono ?_
    rintro code _ p _ ⟨rfl, at_⟩
    exact .raiseAgain around at_
  case raised =>
    intro p e raised rs
    rw [genStmt]
    exact .after (fun _ => .setPlace p) fun _ => does_raised around top raised
  case guarded =>
    intro p body handlers body_ handlers_ both rs
    rw [Bool.and_eq_true] at both
    rw [genStmt]
    refine .after (fun _ => .setPlace p) fun _ => ?_
    rw [List.isEmpty_nil, if_pos rfl]
    refine passes_genTry around (body_ both.1) (fun rs slots => ?_) fun rs done => handlers_ both.2 rs done
    rw [genStmts]
    exact .pure _
  case other => exact fun _ _ _ _ _ _ _ no => absurd no Bool.false_ne_true
  case nil =>
    intro _ rs
    rw [genStmts]
    exact nothing fun _ => .pure _
  case cons =>
    intro st ss first rest both rs
    rw [Bool.and_eq_true] at both
    rw [genStmts]
    exact (first both.1 rs).seq (rest both.2 rs) fun _ _ _ _ _ => .seq
  case unhandled =>
    intro _ rs done
    rw [genHandlers]
    exact .ofFixed fun slots => ⟨[], .pure _, by simp, fun code t p _ => .nil p (t done)⟩
  case all => exact fun p body body_ plain rs done => handles_all around p (body_ plain)
  case typed =>
    intro p q n body hs body_ rest both rs done
    rw [Bool.and_eq_true, Bool.and_eq_true] at both
    exact handles_cons around top p q both.1.1 (body_ both.1.2) (rest both.2 rs done)
  case unknown => exact fun _ _ _ _ no => absurd no Bool.false_ne_true

end

end

/-! Texts of elementary bodies. -/

theorem collect_text {deferred : Bool} {body : List Stmt} {block : Block} (h : collect deferred body = .ok block) :
    ∃ i bs, block = .mk i bs ∧ i.kind = .module := by
  unfold collect at h
  obtain ⟨⟨⟨⟩, os⟩, ran, h⟩ := of_bind_ok h
  have led := (collectStmts body).leads _ _ _ ran
  cases os with
  | nil => cases led.length
  | cons o os =>
    cases h
    exact ⟨_, _, rfl, (led.blocks 0 _ o rfl rfl).kind⟩

section

variable {h : Host} {m : Ref} {I : World → Prop} {s : Code.Setting} {file : String} {deferred : Bool} {body : List Stmt}
  {program : Code.Program}

theorem isReserved_doc : isReserved "__doc__" = false := isReserved_special (by simp [specialNames])

theorem does_writeText (around : Surrounds h m I) (top : AtTop s) (elementary : areElementary body = true) :
    Gen.Does s (writeText body) fun code _ p n =>
      ∃ k, n = k + 2 ∧ Passes h m I code p k ∧ Stands code (p + k) [.const .none, .return] := by
  have statements (documented : Bool) : Gen.Does s (genBody documented body) fun code _ => Passes h m I code := by
    cases body with
    | nil => exact .ofFixed fun slots => ⟨[], .pure _, by simp, fun _ _ p _ => .nil p⟩
    | cons st ss =>
      have both := elementary
      rw [areElementary, Bool.and_eq_true] at both
      have rest := (does_elementary around top).2.2 ss both.2 []
      cases documented with
      | true => exact rest
      | false => exact ((does_elementary around top).1 st both.1 []).seq rest fun _ _ _ _ _ => .seq
  have returns : Gen.Does s (emit (.const .none) >>= fun _ => emit .return) fun code _ p n =>
      n = 2 ∧ Stands code p [.const .none, .return] := by
    refine .ofFixed fun slots => ⟨_, (Gen.Adds.emit _).bind fun _ => .emit _, by simp [hasTarget], ?_⟩
    exact fun _ _ _ stands => ⟨rfl, stands⟩
  have rest (documented : Bool) :
      Gen.Does s (genBody documented body >>= fun _ => emit (.const .none) >>= fun _ => emit .return)
        fun code _ p n => ∃ k, n = k + 2 ∧ Passes h m I code p k ∧ Stands code (p + k) [.const .none, .return] := by
    refine (statements documented).seq returns ?_
    rintro code _ p n _ passes ⟨rfl, stands⟩
    exact ⟨n, rfl, passes, stands⟩
  unfold writeText
  dsimp only
  cases Code.docOf body with
  | none => exact rest false
  | some text =>
    have document {p : Nat} {code : Code.Unit} (const : code.instrs[p]? = some (.const (.str text false)))
        (store : code.instrs[p + 1]? = some (.storeName "__doc__")) : Passes h m I code p 2 := by
      refine (Triple.const around const).seq (k := 1) fun us => .pre fun w inv ⟨same, _⟩ => ?_
      subst same
      exact .store around .named isReserved_doc store
    refine (Gen.Does.emit rfl).seq (U := fun code _ p n => ∃ k, n = k + 3 ∧
      code.instrs[p]? = some (.storeName "__doc__") ∧ Passes h m I code (p + 1) k ∧
      Stands code (p + 1 + k) [.const .none, .return]) ((Gen.Does.emit rfl).seq (rest true) ?_) ?_
    · rintro code _ p _ _ ⟨rfl, store⟩ ⟨k, rfl, passes, stands⟩
      exact ⟨k, by omega, store, passes, stands⟩
    · rintro code _ p _ _ ⟨rfl, const⟩ ⟨k, rfl, store, passes, stands⟩
      refine ⟨2 + k, by omega, (document const store).seq passes, ?_⟩
      rwa [← Nat.add_assoc]

theorem compile_passes (around : Surrounds h m I) (elementary : areElementary body = true)
    (compiled : Code.compile { file, deferred } body = .ok program) :
    let code := program.units.getD program.main default
    ∃ k, Passes h m I code 0 k ∧ Stands code k [.const .none, .return] := by
  obtain ⟨features, block, scope, s, d, -, collected, resolved, rfl, owner, -, -, wrote, rfl⟩ := compile_ok compiled
  obtain ⟨i, bs, rfl, kind⟩ := collect_text collected
  obtain ⟨info, own, -⟩ := resolve_text kind resolved
  have top : AtTop s := ⟨owner, by rw [info]; exact kind, own⟩
  obtain ⟨n, grows, does⟩ := does_writeText around top elementary _ _ wrote
  have last (u : Code.Unit) : (d.units.push u).getD d.units.size default = u := by simp
  dsimp only
  rw [last]
  obtain ⟨k, -, passes, stands⟩ := does (d.unit (textHeading body) s.scope "<module>" file) _ ⟨d, .refl d, rfl, rfl⟩
  exact ⟨k, passes, Nat.zero_add k ▸ stands⟩

end

end Notebook.Machine
