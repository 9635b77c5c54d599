import Notebook.Proofs.Body
import Notebook.Proofs.Kinds

/-! Publications that a handler guards: where they lead in code, and that they go through whether or not
their name stands for something. -/

set_option autoImplicit false

namespace Notebook.Code

open Notebook.Tree Notebook.Scope

/-- Writing at a position with some labels: what it gives, the instructions that it adds and the labels
after it. -/
def Gen.Writes {α : Type} (s : Setting) (slots : Array String) (x : Gen α) (p : Nat)
    (ls : Array (Option Nat)) (a : α) (is : List Instr) (ls' : Array (Option Nat)) : Prop :=
  ∀ d b d', d.slots = slots → d.instrs.size = p → d.labels = ls → x.run s d = .ok (b, d') →
    b = a ∧ d'.instrs.toList = d.instrs.toList ++ is ∧ d'.slots = slots ∧ d'.labels = ls'

namespace Gen.Writes

variable {α β : Type} {s : Setting} {slots : Array String} {is js : List Instr} {p : Nat}
  {ls ls₁ ls' : Array (Option Nat)} {a : α} {b : β}

theorem bind {x : Gen α} {f : α → Gen β} (hx : Writes s slots x p ls a is ls₁)
    (hf : Writes s slots (f a) (p + is.length) ls₁ b js ls') :
    Writes s slots (x >>= f) p ls b (is ++ js) ls' := by
  intro d c d' hs hp hl ran
  obtain ⟨a', d₁, first, second⟩ := Gen.of_bind_ok ran
  obtain ⟨rfl, instrs, hs₁, hl₁⟩ := hx d a' d₁ hs hp hl first
  have hp₁ : d₁.instrs.size = p + is.length := by
    rw [← Array.length_toList, instrs, List.length_append, Array.length_toList, hp]
  obtain ⟨rfl, instrs', hs', hl'⟩ := hf d₁ c d' hs₁ hp₁ hl₁ second
  exact ⟨rfl, by rw [instrs', instrs, List.append_assoc], hs', hl'⟩

theorem cast {x : Gen α} (h : Writes s slots x p ls a is ls') (same : is = js) :
    Writes s slots x p ls a js ls' := same ▸ h

theorem ofAdds {x : Gen PUnit} (h : Adds s slots x is) : Writes s slots x p ls ⟨⟩ is ls := by
  intro d c d' hs hp hl ran
  obtain ⟨instrs, hs', labels⟩ := h d c d' hs ran
  exact ⟨rfl, instrs, hs', labels.trans hl⟩

theorem emit (i : Instr) : Writes s slots (Code.emit i) p ls ⟨⟩ [i] ls := .ofAdds (.emit i)

theorem newLabel : Writes s slots Code.newLabel p ls ls.size [] (ls.push none) := by
  intro d c d' hs hp hl ran
  cases ran
  exact ⟨hl ▸ rfl, by simp, hs, by rw [hl]⟩

theorem placeLabel (l : Nat) :
    Writes s slots (Code.placeLabel l) p ls ⟨⟩ [] (ls.modify l (·.or (some p))) := by
  intro d c d' hs hp hl ran
  cases ran
  subst hl hp
  exact ⟨rfl, by simp, hs, rfl⟩

theorem pure (a : α) : Writes s slots (pure a : Gen α) p ls a [] ls := by
  intro d c d' hs hp hl ran
  cases ran
  exact ⟨rfl, by simp, hs, hl⟩

theorem enter (r : Region) {rs : List Region} (few : rs.length < 20) :
    Writes s slots (Code.enter r rs) p ls (r :: rs) [] ls := by
  unfold Code.enter
  rw [if_neg (Nat.not_le.mpr few)]
  exact .bind (.pure _) (.pure _)

end Gen.Writes

end Notebook.Code

namespace Notebook.Realm

open Notebook.Machine Notebook.Code Notebook.Scope Notebook.Source Notebook.Tree

/-- The code of a guarded publication, by where it leads: to the handler, to its end, to the handler after
it and past all of them. -/
def guardedCode (r : Resolved) (slots : Array String) (kind : Bool) (n : String)
    (handler cleanup next done : Nat) : List Instr :=
  [.setup handler] ++ (Deed.publish n n).code r slots kind ++
    [.endRegion, .jump done, .setup cleanup, .enterHandler, nameInstr r slots "NameError" .load,
      .matchException, .jumpIfFalse next, .pop, .endRegion, .leaveHandler, .jump done, .reraise,
      .swap 2, .leaveHandler, .reraise]

def guardedName : Stmt → Option String
  | .try _ false [s] [⟨_, some (.name _ x .load), none, [.pass _]⟩] [] [] =>
    match deedOf s with
    | some (.publish key n) => if x = "NameError" ∧ key = n then some n else none
    | _ => none
  | _ => none

theorem guardedName_some {st : Stmt} {n : String} (h : guardedName st = some n) :
    ∃ p b q r t, st = .try p false [b] [⟨q, some (.name r "NameError" .load), none, [.pass t]⟩] [] [] ∧
      deedOf b = some (.publish n n) := by
  unfold guardedName at h
  split at h
  next p b q r x t =>
    cases deed : deedOf b with
    | none => simp [deed] at h
    | some d =>
      cases d with
      | remove key => simp [deed] at h
      | publish key m =>
        simp only [deed, Option.ite_none_right_eq_some, Option.some.injEq] at h
        obtain ⟨⟨rfl, rfl⟩, rfl⟩ := h
        exact ⟨p, b, q, r, t, rfl, deed⟩
  next => cases h

theorem guardedName_publish {n : String} (plain : n ≠ "__debug__") :
    guardedName (Cell.guardedPublishStmt n) = some n := by
  have deed := deedOf_assign n plain
  change (match deedOf (Cell.publishStmt n) with
    | some (.publish key m) => if "NameError" = "NameError" ∧ key = m then some m else none
    | _ => none) = _
  rw [show deedOf (Cell.publishStmt n) = some (.publish n n) from deed]
  simp

section

variable {s : Code.Setting} {slots : Array String} {is : List Instr}

theorem handler_writes (owner : s.owner = none) (q r t : Pos) (done p : Nat) (ls : Array (Option Nat)) :
    Gen.Writes s slots
      (genHandlers [.handlers] done [⟨q, some (.name r "NameError" .load), none, [.pass t]⟩]) p ls ⟨⟩
      [nameInstr s.scope slots "NameError" .load, .matchException, .jumpIfFalse ls.size, .pop, .endRegion,
        .leaveHandler, .jump done]
      ((ls.push none).modify ls.size (·.or (some (p + 7)))) := by
  have load : Gen.Adds s slots (genExpr (.name r "NameError" .load))
      [nameInstr s.scope slots "NameError" .load] := by
    have named : Gen.Adds s slots (genFor .value (.name r "NameError" .load))
        [nameInstr s.scope slots (mangle s.owner "NameError") .load] := .name _ rfl
    rwa [owner] at named
  have passed : Gen.Adds s slots (genStmts [.handler none, .handlers] [.pass t]) [] := by
    rw [genStmts, genStmt, genStmts]
    exact (Gen.Adds.setPlace _).after fun _ => .pure _
  have rest : Gen.Writes s slots (genHandlers [.handlers] done []) (p + 7)
      ((ls.push none).modify ls.size (·.or (some (p + 7)))) ⟨⟩ []
      ((ls.push none).modify ls.size (·.or (some (p + 7)))) := by
    rw [genHandlers]
    exact .pure _
  rw [genHandlers]
  exact .bind (.ofAdds (.setPlace _)) (.bind .newLabel (.bind (.ofAdds load) (.bind (.emit _) (.bind (.emit _)
    (.bind (.emit _) (.bind (.enter _ (by decide)) (.bind (.ofAdds passed) (.bind (.emit _) (.bind (.emit _)
      (.bind (.emit _) (.bind (.placeLabel _) rest)))))))))))

theorem guarded_writes {st : Stmt} {n : String} (named : guardedName st = some n) (owner : s.owner = none)
    (slots : Array String) (p : Nat) (ls : Array (Option Nat)) :
    ∃ kind ls', Gen.Writes s slots (genStmt [] st) p ls ⟨⟩
      (guardedCode s.scope slots kind n ls.size (ls.size + 1) (ls.size + 3) (ls.size + 2)) ls' ∧
      ls'[ls.size]? = some (some (p + 9)) ∧ ls'[ls.size + 1]? = some (some (p + 19)) ∧
      ls'[ls.size + 3]? = some (some (p + 18)) ∧ ls'[ls.size + 2]? = some (some (p + 22)) := by
  obtain ⟨place, b, q, r, t, rfl, deed⟩ := guardedName_some named
  obtain ⟨kind, published⟩ := deed_adds deed owner slots [.tryBody]
  have body : Gen.Adds s slots (genStmts [.tryBody] [b])
      ((Deed.publish n n).code s.scope slots kind) := by
    rw [genStmts, genStmts]
    exact published.before fun _ => .pure _
  have nothing : Gen.Adds s slots (genStmts [] []) [] := by
    rw [genStmts]
    exact .pure _
  -- The labels once all are made, and after the first, the last, the second and the third are placed.
  let l₀ := ((ls.push none).push none).push none
  let l₁ := l₀.modify ls.size (·.or (some (p + 9)))
  let l₂ := (l₁.push none).modify l₁.size (·.or (some (p + 18)))
  let l₃ := l₂.modify (ls.push none).size (·.or (some (p + 19)))
  let l₄ := l₃.modify ((ls.push none).push none).size (·.or (some (p + 22)))
  have size : l₁.size = ls.size + 3 := by simp [l₁, l₀]
  refine ⟨kind, l₄, ?_, ?_⟩
  · have written : Gen.Writes s slots
        (genStmt [] (.try place false [b] [⟨q, some (.name r "NameError" .load), none, [.pass t]⟩] [] [])) p ls ⟨⟩
        (guardedCode s.scope slots kind n ls.size (ls.push none).size l₁.size
          ((ls.push none).push none).size) l₄ := by
      rw [genStmt, List.isEmpty_nil, if_pos rfl]
      unfold genTry genCleanup
      refine .cast (.bind (.ofAdds (.setPlace _)) (.bind .newLabel (.bind .newLabel (.bind .newLabel
        (.bind (.emit _) (.bind (.enter _ (Nat.zero_lt_succ _)) (.bind (.ofAdds body) (.bind (.emit _)
        (.bind (.ofAdds nothing) (.bind (.emit _) (.bind (.placeLabel _) (.bind (.emit _) (.bind (.emit _)
        (.bind (.enter _ (Nat.zero_lt_succ _)) (.bind (handler_writes owner _ _ _ _ _ _) (.bind (.emit _) (.bind
        (.bind (.placeLabel _) (.bind (.emit _) (.bind (.emit _) (.emit _)))) (.placeLabel
        _)))))))))))))))))) ?_
      rfl
    have first : (ls.push none).size = ls.size + 1 := Array.size_push _
    have second : ((ls.push none).push none).size = ls.size + 2 := by rw [Array.size_push, first]
    rwa [first, second, size] at written
  · refine ⟨?_, ?_, ?_, ?_⟩ <;>
      simp only [l₄, l₃, l₂, l₁, l₀, Array.getElem?_modify, Array.getElem?_push, Array.size_push,
        Array.size_modify] <;>
      simp (disch := omega) only [if_true, if_neg, Option.map_some, Option.none_or]

end

end Notebook.Realm

namespace Notebook.Machine

open Notebook.Code Notebook.Scope Notebook.Tree Notebook.Realm

theorem Goes.caught {h : Host} {f g : Frame} {w w' w'' : World} {i : Instr} {e : Value}
    (at_ : f.code.instrs[f.pc]? = some i) (raises : goesOn i = false)
    (failed : (Machine.step h { f with pc := f.pc + 1 } i).run w = .error (.raised e) w')
    (traced : (addTrace f e).run w' = .ok () w'') (caught : f.caught e = some g) : Goes h 1 f w g w'' := by
  intro fuel
  rw [execute]
  simp only [at_]
  rw [M.run_bind_ok (attempt_raised failed)]
  simp only [raises, Bool.not_false, if_true]
  rw [M.run_bind_ok traced, caught]

/-! Errors of a kind. -/

theorem firstHeap_class {r : Ref} (hr : r < natives.length) :
    ∃ c, (firstHeap.getD r default).payload = .class c := by
  unfold firstHeap
  rw [Array.getD_eq_getD_getElem?, List.getElem?_toArray, List.getElem?_map,
    List.getElem?_eq_getElem hr]
  exact ⟨_, rfl⟩

theorem isSubclass_run (c b : Ref) (w : World) :
    (isSubclass c b).run w = .ok ((w.heap.getD c default).order.contains b) w :=
  M.run_bind_ok (orderOf_run c w)

theorem catches_run {w : World} (native : w.Native) {x : Ref} {cls kind message : String}
    (complains : Complains w x cls message) (isKind : NativeKind cls kind)
    (isError : NativeKind kind "BaseException") :
    (catches (.ref x) (.ref (nativeRef kind))).run w = .ok true w := by
  have sub {r b : Ref} (hr : r < natives.length) (member : b ∈ (firstHeap.getD r default).order) :
      (isSubclass r b).run w = .ok true w := by
    have same : (w.heap.getD r default).order = (firstHeap.getD r default).order := by
      unfold Obj.order
      rw [(native r hr).payload]
    rw [isSubclass_run, same, List.contains_iff_mem.mpr member]
  obtain ⟨c, payload⟩ := firstHeap_class isError.1
  have now := (native _ isError.1).payload.trans payload
  have class_ : (class? (nativeRef kind)).run w = .ok (some c) w := by
    unfold class?
    rw [M.run_bind_ok (obj_run _ w), now]
    rfl
  have refs : (classRefs? [.ref (nativeRef kind)]).run w = .ok (some [nativeRef kind]) w := by
    unfold classRefs?
    rw [M.run_bind_ok class_]
    rfl
  have classes : (handlerClasses (.ref (nativeRef kind))).run w = .ok [nativeRef kind] w := by
    have read_ : (Machine.payload (.ref (nativeRef kind))).run w = .ok (.class c) w :=
      congrArg (EStateM.Result.ok · w) now
    unfold handlerClasses
    rw [M.run_bind_ok read_]
    dsimp only
    rw [M.run_bind_ok (M.run_pure _ w), M.run_bind_ok refs]
    have all : ([nativeRef kind].allM (isSubclass · (nativeRef "BaseException"))).run w = .ok true w :=
      M.run_bind_ok (sub isError.1 isError.2)
    exact M.run_bind_ok all
  have named : (classOf (.ref x)).run w = .ok (nativeRef cls) w :=
    congrArg (EStateM.Result.ok · w) complains.cls
  unfold catches
  rw [M.run_bind_ok named, M.run_bind_ok classes]
  have any : ([nativeRef kind].anyM (isSubclass (nativeRef cls))).run w = .ok true w :=
    M.run_bind_ok (sub isKind.1 isKind.2)
  exact any

/-! What stays in a world that grows. -/

theorem World.Grows.handled {w w' : World} (h : w.Grows w') (v : Value) : w.Grows { w' with handled := v } :=
  ⟨h.size, h.objects, h.attrs⟩

namespace Frame.Apart

variable {f : Frame} {w w' : World} {ns : Ref}

theorem grows (h : f.Apart w ns) (g : w.Grows w') : f.Apart w' ns := by
  refine ⟨h.slots, h.cells, h.nodup, fun c member => ?_⟩
  obtain ⟨foreign, inside, other, cell⟩ := h.own c member
  exact ⟨foreign, Nat.lt_of_lt_of_le inside g.size, other, by rw [g.objects c inside]; exact cell⟩

theorem local?_grows (h : f.Apart w ns) (g : w.Grows w') (n : String) : f.local? w' n = f.local? w n := by
  unfold Frame.local?
  cases hp : spot? f.code n with
  | none => rfl
  | some p =>
    cases p with
    | slot i => rfl
    | cell i =>
      have inside := (h.own _ (h.cellRef_mem (spot?_within hp))).2.1
      simp only [Option.bind_some, Frame.valueAt, g.objects _ inside]

end Frame.Apart

namespace Stage

variable {r : Resolved} {params : List String} {slots : Array String} {ns : Ref} {f : Frame} {w w' : World}
  {e : Exports Value} {kind : Bool}

theorem grows (st : Stage r params slots ns f w e) (g : w.Grows w') : Stage r params slots ns f w' e where
  houses := st.houses
  base := st.base
  within := st.within
  own := st.own
  apart := st.apart.grows g
  native c hc := by
    rw [g.objects c (Nat.lt_of_lt_of_le hc st.room)]
    exact st.native c hc
  isNamespace := by
    have same := g.objects ns st.isNamespace.inside
    exact ⟨same ▸ st.isNamespace.cls, same ▸ st.isNamespace.payload, same ▸ st.isNamespace.own⟩
  here := (st.apart.local?_grows g _).trans st.here

theorem known?_grows (st : Stage r params slots ns f w e) (g : w.Grows w') (n : String) :
    f.known? r w' n = f.known? r w n := by
  have outside : f.global? w' n = f.global? w n := by
    unfold Frame.global?
    rw [g.attrs]
  unfold Frame.known?
  rw [st.apart.local?_grows g, outside]

theorem known?_setEntries (st : Stage r params slots ns f w e) (e' : Exports Value) (pc : Nat) (n : String) :
    ({ f with pc } : Frame).known? r (w.setEntries ns e') n = f.known? r w n := by
  have attrs : ((w.setEntries ns e').heap.getD f.globals default).attrs
      = (w.heap.getD f.globals default).attrs := by
    by_cases here : ns = f.globals
    · rw [← here, World.setEntries, World.put_same st.isNamespace.inside]
      unfold Obj.changed
      split <;> rfl
    · rw [World.setEntries, World.put_other w here]
  have outside : ({ f with pc } : Frame).global? (w.setEntries ns e') n = f.global? w n := by
    unfold Frame.global?
    rw [attrs]
  unfold Frame.known?
  rw [local?_setEntries st.apart, outside]

theorem name_raises (st : Stage r params slots ns f w e) {n : String} (unfree : r.binding n ≠ .free) :
    goesOn (nameInstr r slots n .load) = false := by
  obtain ⟨own, -⟩ | ⟨load, -⟩ := st.name_cases unfree
  · obtain ⟨p, -, load⟩ := st.spot own
    rw [load]
    cases p <;> rfl
  · rw [load]
    rfl

theorem guarded_known (st : Stage r params slots ns f w e) (k : Nat) {n : String} {v : Value}
    (unfree : r.binding n ≠ .free) (known : f.known? r w n = some v) {handler cleanup next done : Nat}
    (stands : Stands f.code f.pc (guardedCode r slots kind n handler cleanup next done)) :
    Goes (hostAt (k + 1)) 9 f w { f with pc := done } (w.setEntries ns (e.assign n v)) := by
  have guarded : Goes (hostAt (k + 1)) 1 f w
      { f with pc := f.pc + 1, guards := ⟨handler, f.stack.length⟩ :: f.guards } w :=
    .step stands.head rfl
  have within := st.moved (f.pc + 1) f.stack (⟨handler, f.stack.length⟩ :: f.guards)
  have rest := stands.tail
  have published := within.publish_goes k unfree known (rest.front ((Deed.publish n n).code r slots kind))
  have after : Stands f.code (f.pc + 1 + 6) _ := rest.append
  have left : Goes (hostAt (k + 1)) 1
      { f with pc := f.pc + 1 + 6, guards := ⟨handler, f.stack.length⟩ :: f.guards }
      (w.setEntries ns (e.assign n v)) { f with pc := f.pc + 1 + 6 + 1 } (w.setEntries ns (e.assign n v)) :=
    .step after.head rfl
  have gone : Goes (hostAt (k + 1)) 1 { f with pc := f.pc + 1 + 6 + 1 } (w.setEntries ns (e.assign n v))
      { f with pc := done } (w.setEntries ns (e.assign n v)) :=
    .step after.tail.head rfl
  exact ((guarded.trans published).trans left).trans gone

theorem guarded_unknown (st : Stage r params slots ns f w e) (k : Nat) {n : String}
    (unfree : r.binding n ≠ .free) (unknown : f.known? r w n = none)
    (unfreeError : r.binding "NameError" ≠ .free)
    (error : f.known? r w "NameError" = some (.ref (nativeRef "NameError"))) {cleanup next done : Nat}
    (stands : Stands f.code f.pc (guardedCode r slots kind n (f.pc + 9) cleanup next done)) :
    ∃ w', Goes (hostAt (k + 1)) 14 f w { f with pc := done } w' ∧ w.Grows w' := by
  let g : Frame := { f with pc := f.pc + 1, guards := ⟨f.pc + 9, f.stack.length⟩ :: f.guards }
  have guarded : Goes (hostAt (k + 1)) 1 f w g w := .step stands.head rfl
  have within : Stage r params slots ns g w e := st.moved (f.pc + 1) f.stack _
  have rest := stands.tail
  have ready := within.front (k + 1) (show "assign" ∈ bodyMethods by decide) (rest.front _)
  let callee : Value := .bound (.ref ns) (.native "ExportNamespace" "assign")
  let asked : Frame := ({ g with pc := g.pc + 3 }).pushAll [.str n, callee]
  have at_ : asked.code.instrs[asked.pc]? = some (nameInstr r slots n .load) := rest.tail.tail.tail.head
  -- Reading the name fails, and the guard takes the error.
  obtain ⟨x, w₁, cls, message, failed, named, complains, new, grows⟩ :=
    (within.moved (g.pc + 4) asked.stack g.guards).load_unknown (hostAt (k + 1)) unfree unknown
  obtain ⟨w₂, traced, complains', keeps⟩ := addTrace_run asked complains
  have grows' := keeps w new grows
  let held : Frame := { f with pc := f.pc + 9, stack := .ref x :: f.stack }
  have caught : Goes (hostAt (k + 1)) 1 asked w held w₂ := by
    refine .caught at_ (st.name_raises unfree) failed traced ?_
    have height : asked.stack.length - f.stack.length = [Value.str n, callee].length :=
      Nat.sub_eq_of_eq_add (List.length_append ..)
    have below : asked.stack.drop (asked.stack.length - f.stack.length) = f.stack := by
      rw [height]
      exact List.drop_left
    exact congrArg (fun stack => some { f with pc := f.pc + 9, stack := .ref x :: stack }) below
  -- The handler takes it, as it is of the kind that the handler names.
  have isKind : NativeKind cls "NameError" := by
    rcases List.mem_cons.mp named with rfl | other
    · exact nativeKinds ("NameError", "NameError") (by simp)
    · exact List.mem_singleton.mp other ▸ nativeKinds ("UnboundLocalError", "NameError") (by simp)
  let before := w₂.handled
  let w₃ : World := { w₂ with handled := .ref x }
  have grows₃ : w.Grows w₃ := grows'.handled _
  have complains₃ : Complains w₃ x cls message :=
    ⟨complains'.foreign, complains'.inside, complains'.cls, complains'.told⟩
  have later : Stands f.code (f.pc + 9) _ := (rest.append.tail.tail : Stands f.code (f.pc + 1 + 6 + 1 + 1) _)
  let inner : List Guard := ⟨cleanup, f.stack.length + 1⟩ :: f.guards
  have entered : Goes (hostAt (k + 1)) 2 held w₂
      { f with pc := f.pc + 11, stack := .ref x :: before :: f.stack, guards := inner } w₃ :=
    .trans (.step later.head rfl) (.step later.tail.head rfl)
  have asks := later.tail.tail
  have class_ : Goes (hostAt (k + 1)) 1
      { f with pc := f.pc + 11, stack := .ref x :: before :: f.stack, guards := inner } w₃
      { f with pc := f.pc + 12, stack := .ref (nativeRef "NameError") :: .ref x :: before :: f.stack
               guards := inner } w₃ :=
    .step asks.head ((((st.grows grows₃).moved (f.pc + 12) (.ref x :: before :: f.stack) inner).load_known _
      unfreeError ((st.known?_grows grows₃ _).trans error)))
  have taken : Goes (hostAt (k + 1)) 1
      { f with pc := f.pc + 12, stack := .ref (nativeRef "NameError") :: .ref x :: before :: f.stack
               guards := inner } w₃
      { f with pc := f.pc + 13, stack := .bool true :: .ref x :: before :: f.stack, guards := inner } w₃ := by
    have matched := catches_run (st.grows grows₃).native complains₃ isKind
      (nativeKinds ("NameError", "BaseException") (by simp))
    exact .step asks.tail.head (M.run_bind_ok matched)
  have finished : Goes (hostAt (k + 1)) 5
      { f with pc := f.pc + 13, stack := .bool true :: .ref x :: before :: f.stack, guards := inner } w₃
      { f with pc := done } { w₃ with handled := before } := by
    have falls := asks.tail.tail
    have drops := falls.tail
    refine .trans (n := 1) (.step falls.head rfl) (.trans (n := 1) (.step drops.head rfl) ?_)
    refine .trans (n := 1) (.step drops.tail.head rfl) (.trans (n := 1) (.step drops.tail.tail.head rfl) ?_)
    exact .step drops.tail.tail.tail.head rfl
  exact ⟨_, ((((((guarded.trans ready).trans caught).trans entered).trans class_).trans taken).trans finished),
    grows₃.handled before⟩

end Stage

end Notebook.Machine
