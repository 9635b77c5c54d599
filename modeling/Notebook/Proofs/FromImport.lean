import Notebook.Proofs.Loading

/-! Importing a name of a module: how the call of a loader ends, and that what leaves the body of a module
leaves the call. -/

set_option autoImplicit false

namespace Notebook.Module.Specifier

open Notebook.Text

variable {s n : String}

theorem parent_join (dotless : '.' ∉ n.toList) (inside : isOnlyDots (parent (join s n)) = false) :
    isOnlyDots s = false ∧ parent (join s n) = s ∧ last (join s n) = n := by
  by_cases dots : isOnlyDots s = true
  · -- After dots alone the package would be dots as well.
    exfalso
    obtain ⟨whole, -⟩ := parent_append inside
    rw [join, if_pos dots] at whole inside
    generalize parent (s ++ n) = k at whole inside
    generalize last (s ++ n) = l at whole
    have chars : s.toList ++ n.toList = k.toList ++ '.' :: l.toList := by
      rw [← String.toList_append, whole, String.append_assoc, String.toList_append, String.toList_append]
      rfl
    rcases List.append_eq_append_iff.mp chars with ⟨more, left, right⟩ | ⟨more, left, right⟩
    · exact dotless (by simp [right])
    · rw [isOnlyDots, left, List.all_append, Bool.and_eq_true] at dots
      exact Bool.false_ne_true (inside.symm.trans dots.1)
  · rw [Bool.not_eq_true] at dots
    have joined : join s n = s ++ "." ++ n := by simp [join, dots]
    exact ⟨dots, joined ▸ parent_inside s dotless⟩

end Notebook.Module.Specifier

namespace Notebook.Machine

open Notebook.Module Notebook.Text
open Notebook.Code (Instr)

/-! Errors of native classes. -/

section

variable {w w' : World}

theorem raise_class {α : Type} (cls message : String) (w : World) : ∃ w',
    (raise cls message : M α).run w = .error (.raised (.ref w.heap.size)) w' ∧
      w'.classOf (.ref w.heap.size) = nativeRef cls := by
  let o : Obj := { cls := nativeRef cls, payload := .exception { args := [.str message] } }
  obtain ⟨w', ran⟩ := throwExc_error (α := α) (.ref w.heap.size) (w.push o)
  refine ⟨w', ran, ?_⟩
  have still := (isStill_throwExc (α := α) (.ref w.heap.size)).ofError ran
  have inside : w.heap.size < (w.push o).heap.size := by simp [World.push]
  have object : (w.push o).object w.heap.size = o := by rw [World.object_push, if_pos rfl]
  have kept := (still.objects w.heap.size inside).cls
  rw [object] at kept
  exact kept

theorem isKind_native {cls kind : String} {v : Value} (sane : w.Sane) (native : nativeRef cls < natives.length)
    (of : w.classOf v = nativeRef cls) :
    w.isKind v kind = (firstHeap.getD (nativeRef cls) default).order.contains (nativeRef kind) := by
  unfold World.isKind
  rw [of, sane.order native]

end

/-! How a call with a name ends. -/

section

variable (h : Host) (s n dir : String) (w : World)

inductive NoAttribute (m : Ref) (w w' : World) : Prop where
  | none : (getAttr? h (.ref m) n).run w = .ok none w' → NoAttribute m w w'
  | error {e : Value} : (getAttr? h (.ref m) n).run w = .error (.raised e) w' →
      w'.isKind e "AttributeError" = true → NoAttribute m w w'

/-- There is no submodule: it is the interface of the engine or the cache serves none, and importing it from
the host says that it is not found. -/
inductive NoSubmodule (w w₂ w₃ : World) : Prop where
  | self {e : Value} : some (Specifier.join s n) = w.cache.selfName →
      (hostImport (Specifier.join s n)).run w₂ = .error (.raised e) w₃ →
      w₃.isKind e "ModuleNotFoundError" = true → NoSubmodule w w₂ w₃
  | host {e : Value} : w.cache.serves (Specifier.join s n) dir = false →
      ((importing h).toLoading.hostImport (Specifier.join s n)).run w₂ = .error (.raised e) w₃ →
      w₃.isKind e "ModuleNotFoundError" = true → NoSubmodule w w₂ w₃

/-- How a call of a loader with a name ends. The second load of the submodule runs no body, and the
call itself refuses the name only after the module is loaded, has no such attribute, and the host has no such
module. -/
inductive NameImport : EStateM.Result Stop World Value → Prop where
  | submodule : (w.cache.find (Specifier.join s n) dir).isSome →
      NameImport ((loadModule h (Specifier.join s n) dir).run w)
  | failed {e : Stop} {w₁ : World} : w.cache.find (Specifier.join s n) dir = none →
      ((importing h).toLoading.load s dir).run w = .error e w₁ → NameImport (.error e w₁)
  | attribute {m : Ref} {v : Value} {w₁ w₂ : World} : w.cache.find (Specifier.join s n) dir = none →
      ((importing h).toLoading.load s dir).run w = .ok m w₁ →
      (getAttr? h (.ref m) n).run w₁ = .ok (some v) w₂ → NameImport (.ok v w₂)
  | unreadable {m : Ref} {e : Stop} {w₁ w₂ : World} : w.cache.find (Specifier.join s n) dir = none →
      ((importing h).toLoading.load s dir).run w = .ok m w₁ →
      (getAttr? h (.ref m) n).run w₁ = .error e w₂ →
      (∀ v, e = .raised v → w₂.isKind v "AttributeError" = false) → NameImport (.error e w₂)
  | late {m x : Ref} {w₁ w₂ w₃ : World} : w.cache.find (Specifier.join s n) dir = none →
      ((importing h).toLoading.load s dir).run w = .ok m w₁ → NoAttribute h n m w₁ w₂ →
      ((importing h).toLoading.load (Specifier.join s n) dir).run w₂ = .ok x w₃ → w₂.Idle w₃ →
      NameImport (.ok (.ref x) w₃)
  | stopped {m : Ref} {e : Stop} {w₁ w₂ w₃ : World} : w.cache.find (Specifier.join s n) dir = none →
      ((importing h).toLoading.load s dir).run w = .ok m w₁ → NoAttribute h n m w₁ w₂ →
      ((importing h).toLoading.load (Specifier.join s n) dir).run w₂ = .error e w₃ → w₂.Idle w₃ →
      (∀ v, e = .raised v → w₃.isKind v "ModuleNotFoundError" = false) → NameImport (.error e w₃)
  | refused {m : Ref} {w₁ w₂ w₃ : World} : w.cache.find (Specifier.join s n) dir = none →
      ((importing h).toLoading.load s dir).run w = .ok m w₁ → NoAttribute h n m w₁ w₂ →
      NoSubmodule h s n dir w w₂ w₃ → w₂.Idle w₃ →
      NameImport ((refuseImport "ImportError" s!"cannot import name {quote n} from {quote s}" s).run w₃)

end

set_option maxRecDepth 100000 in
theorem attach_error {h : Host} {package : Ref} {a : String} {m : Ref} {w w' : World} {e : Value} (sane : w.Sane)
    (ran : ((importing h).toLoading.attach package a m).run w = .error (.raised e) w') :
    w'.isKind e "ModuleNotFoundError" = false := by
  have other (cls message : String) (native : nativeRef cls < natives.length)
      (apart : (firstHeap.getD (nativeRef cls) default).order.contains (nativeRef "ModuleNotFoundError") = false)
      (ran : (raise cls message : M PUnit).run w = .error (.raised e) w') :
      w'.isKind e "ModuleNotFoundError" = false := by
    obtain ⟨w₁, raised, of⟩ := raise_class (α := PUnit) cls message w
    cases raised.symm.trans ran
    rw [isKind_native (sane.leads (M.leads_of_error ran)) native of, apart]
  simp only [importing] at ran
  split at ran
  · exact other "TypeError" _ (by decide +kernel) (by decide +kernel) ran
  · exact other "AttributeError" _ (by decide +kernel) (by decide +kernel) ran
  · obtain ⟨w₁, done, -⟩ := sets_run package a (.ref m) w
    cases done.symm.trans ran

theorem attach_idle (h : Host) (package : Ref) (a : String) (m : Ref) (w : World) :
    w.Idle (worldAfter (((importing h).toLoading.attach package a m).run w)) := by
  simp only [importing]
  split
  · exact .ofCache (isStill_raise _ _ w).cache
  · exact .ofCache (isStill_raise _ _ w).cache
  · obtain ⟨w₁, done, sets⟩ := sets_run package a (.ref m) w
    rw [done]
    exact .ofCache sets.cache

/-- The second load of a submodule runs no body. It tells that there is no such module only if the cache
does not serve it. -/
theorem second_load (h : Host) {s n dir : String} {w w₂ : World} (sane : w₂.Sane) (dotless : '.' ∉ n.toList)
    (absent : w.cache.find (Specifier.join s n) dir = none) (leads : w.Leads w₂)
    (loaded : w₂.Loaded dir s) :
    let second := ((importing h).toLoading.load (Specifier.join s n) dir).run w₂
    w₂.Idle (worldAfter second) ∧ ∀ e w₃, second = .error (.raised e) w₃ →
      w₃.isKind e "ModuleNotFoundError" = true → NoSubmodule h s n dir w w₂ w₃ := by
  intro second
  have run : second = _ := load_run h (Specifier.join s n) dir w₂
  by_cases self : some (Specifier.join s n) = w₂.cache.selfName
  · rw [if_pos self] at run
    rw [run]
    exact ⟨host_idle _ w₂, fun e w₃ ran kind => .self (leads.selfName ▸ self) ran kind⟩
  rw [if_neg self] at run
  by_cases served : w₂.cache.serves (Specifier.join s n) dir = true
  · rw [if_pos served] at run
    -- What is found by now has come in since.
    have found (p : String) (place : w₂.cache.find (Specifier.join s n) dir = some p) :
        (w₂.cache.instances.lookup p).isSome :=
      leads.found (fun q first => by cases absent.symm.trans first) place
    have around (inside : isInside (Specifier.join s n) = true) :
        ∃ m w', ((importing h).toLoading.load (Specifier.parent (Specifier.join s n)) dir).run w₂ = .ok m w' ∧
          w₂.Idle w' := by
      simp only [isInside, Bool.and_eq_true, Bool.not_eq_true'] at inside
      rw [(Specifier.parent_join dotless inside.2).2.1]
      exact loaded.again h
    obtain ⟨package, m, w₃, idle, leads₃, -, rest⟩ := loadServed_there served found around
    rw [run, rest]
    cases package with
    | none =>
      refine ⟨idle, fun e w₄ same _ => ?_⟩
      cases same
    | some r =>
      have last := attach_idle h r (Specifier.last (Specifier.join s n)) m w₃
      cases ran : ((importing h).toLoading.attach r (Specifier.last (Specifier.join s n)) m).run w₃ with
      | ok u w₄ =>
        rw [ran] at last
        rw [attachTo_some, M.run_bind_ok ran]
        refine ⟨idle.trans last, fun e w₅ same _ => ?_⟩
        cases same
      | error stop w₄ =>
        rw [ran] at last
        rw [attachTo_some, M.run_bind_error ran]
        refine ⟨idle.trans last, fun e w₅ same kind => ?_⟩
        cases same
        rw [attach_error (sane.leads leads₃) ran] at kind
        cases kind
  · rw [if_neg served] at run
    rw [run]
    refine ⟨hostImport_idle h _ w₂, fun e w₃ ran kind => .host ?_ ran kind⟩
    rw [← Bool.not_eq_true]
    exact fun before => served (leads.serves before)

theorem attribute_run {h : Host} {m : Ref} {n : String} {w : World} :
    ((importing h).attribute? m n).run w =
      match (getAttr? h (.ref m) n).run w with
      | .ok v w' => .ok v w'
      | .error (.raised e) w' =>
        if w'.isKind e "AttributeError" = true then .ok none w' else .error (.raised e) w'
      | .error .exhausted w' => .error .exhausted w' := by
  simp only [importing]
  cases ran : (getAttr? h (.ref m) n).run w with
  | ok v w' =>
    rw [M.run_bind_ok (attempt_ok ran)]
    rfl
  | error e w' =>
    cases e with
    | raised e =>
      rw [M.run_bind_ok (attempt_raised ran)]
      dsimp only
      rw [M.run_bind_ok (isError_run e "AttributeError" w')]
      split <;> rfl
    | exhausted =>
      have failed : (attempt (getAttr? h (.ref m) n)).run w = .error .exhausted w' :=
        M.run_tryCatch_error (M.run_bind_error ran)
      rw [M.run_bind_error failed]

theorem orAbsent_run {h : Host} {x : M Ref} {w : World} :
    ((importing h).orAbsent x).run w =
      match x.run w with
      | .ok m w' => .ok (some m) w'
      | .error (.raised e) w' =>
        if w'.isKind e "ModuleNotFoundError" = true then .ok none w' else .error (.raised e) w'
      | .error .exhausted w' => .error .exhausted w' := by
  simp only [importing, onError]
  cases ran : x.run w with
  | ok m w' =>
    have mapped : (some <$> x).run w = .ok (some m) w' := M.run_bind_ok ran
    rw [M.run_bind_ok (attempt_ok mapped)]
    rfl
  | error e w' =>
    cases e with
    | raised e =>
      have mapped : (some <$> x).run w = .error (.raised e) w' := M.run_bind_error ran
      rw [M.run_bind_ok (attempt_raised mapped)]
      dsimp only
      rw [M.run_bind_ok (isError_run e "ModuleNotFoundError" w')]
      split <;> rfl
    | exhausted =>
      have mapped : (some <$> x).run w = .error .exhausted w' := M.run_bind_error ran
      have failed : (attempt (some <$> x)).run w = .error .exhausted w' :=
        M.run_tryCatch_error (M.run_bind_error mapped)
      rw [M.run_bind_error failed]

theorem callLoader_ends (h : Host) {s n dir : String} {w : World} (sane : w.Sane) (held : w.cache.Held)
    (served : w.cache.serves s dir = true) (dotless : '.' ∉ n.toList) :
    NameImport h s n dir w ((callLoader h dir [.str s, .str n] []).run w) := by
  have got : (importing h).toLoading.get.run w = .ok w.cache w := rfl
  by_cases found : (w.cache.find (Specifier.join s n) dir).isSome = true
  · obtain ⟨p, place⟩ := Option.isSome_iff_exists.mp found
    rw [callLoader_submodule place]
    exact .submodule found
  have absent : w.cache.find (Specifier.join s n) dir = none := by simpa using found
  rw [callLoader_name]
  unfold loadName Importing.importName
  rw [M.run_bind_ok got, absent, Option.isSome_none, if_neg Bool.false_ne_true]
  cases loaded : ((importing h).toLoading.load s dir).run w with
  | error e w₁ =>
    rw [M.run_bind_error loaded]
    exact .failed absent loaded
  | ok m w₁ =>
    rw [M.run_bind_ok loaded]
    have leads₁ := M.leads_of_ok loaded
    have there := load_loaded held (.inr served) loaded
    -- The second load, in the world after a look-up that finds nothing.
    have second (w₂ : World) (leads₂ : w₁.Leads w₂) (lacks : NoAttribute h n m w₁ w₂)
        (next : Option Ref → M Value) (found : ∀ x, next (some x) = pure (.ref x))
        (refuse : next none = (importing h).noName n s) :
        NameImport h s n dir w
          (((importing h).orAbsent ((importing h).toLoading.load (Specifier.join s n) dir) >>= next).run w₂) := by
      have leads := leads₁.trans leads₂
      obtain ⟨idle, refused⟩ := second_load h (sane.leads leads) dotless absent leads (there.leads leads₂)
      have run := orAbsent_run (h := h) (x := (importing h).toLoading.load (Specifier.join s n) dir) (w := w₂)
      cases ran : ((importing h).toLoading.load (Specifier.join s n) dir).run w₂ with
      | ok x w₃ =>
        rw [ran] at run idle
        rw [M.run_bind_ok run, found]
        exact .late absent loaded lacks ran idle
      | error e w₃ =>
        rw [ran] at run idle
        cases e with
        | exhausted =>
          rw [M.run_bind_error run]
          exact .stopped absent loaded lacks ran idle nofun
        | raised e =>
          dsimp only at run
          by_cases kind : w₃.isKind e "ModuleNotFoundError" = true
          · rw [if_pos kind] at run
            rw [M.run_bind_ok run, refuse]
            exact .refused absent loaded lacks (refused e w₃ ran kind) idle
          · rw [if_neg kind] at run
            rw [M.run_bind_error run]
            refine .stopped absent loaded lacks ran idle ?_
            rintro v ⟨⟩
            simpa using kind
    have look := attribute_run (h := h) (m := m) (n := n) (w := w₁)
    cases asked : (getAttr? h (.ref m) n).run w₁ with
    | ok v w₂ =>
      rw [asked] at look
      rw [M.run_bind_ok look]
      cases v with
      | some v => exact .attribute absent loaded asked
      | none =>
        dsimp only
        exact second w₂ (M.leads_of_ok asked) (.none asked) _ (fun _ => rfl) rfl
    | error e w₂ =>
      rw [asked] at look
      cases e with
      | exhausted =>
        rw [M.run_bind_error look]
        exact .unreadable absent loaded asked nofun
      | raised e =>
        dsimp only at look
        by_cases kind : w₂.isKind e "AttributeError" = true
        · rw [if_pos kind] at look
          rw [M.run_bind_ok look]
          dsimp only
          exact second w₂ (M.leads_of_error asked) (.error asked kind) _ (fun _ => rfl) rfl
        · rw [if_neg kind] at look
          rw [M.run_bind_error look]
          refine .unreadable absent loaded asked ?_
          rintro v ⟨⟩
          simpa using kind

/-! Exceptions that leave the bodies of modules. -/

def deeper (h : Host) : Host := { call := callValue h, enter := enterFrame h }

/-- Making the module of a path comes to the start of its body, in a world in which the module counts as
loaded. -/
inductive Enters (p : String) (w : World) : Frame → World → Prop where
  | begins {source : String} {code : Code.Program} {loader : Value} {w₁ w₂ : World} :
      w.cache.instances.lookup p = none → w.cache.sources.lookup p = some source →
      (moduleProgram p source).run w = .ok code w₁ → (newLoader (Path.parent p)).run w₁ = .ok loader w₂ →
      Enters p w (mainFrame w₂.heap.size code)
        { w₂.push (moduleOf (w₁.cache.moduleName p) [("__file__", .str p), ("__require__", loader)]) with
          cache := w₂.cache.begin p source w₂.heap.size }

/-- What is under way: a load, a call of the loader of a directory, or a frame. -/
inductive Task where
  | load (s dir : String)
  | call (dir s : String) (name : Option String)
  | frame (f : Frame)

/-- The arguments of a call of a loader. -/
def loaderArgs (s : String) (name : Option String) : List Value := .str s :: (name.map Value.str).toList

def Task.Raises (h : Host) (w : World) (e : Value) : Task → Prop
  | .load s dir => ∃ w', ((importing h).toLoading.load s dir).run w = .error (.raised e) w'
  | .call dir s name => ∃ w', (callLoader h dir (loaderArgs s name) []).run w = .error (.raised e) w'
  | .frame f => ∃ w', (execute h f.patience f).run w = .error (.raised e) w'

/-- A task comes to another, with no handler of a program in between: a call loads a submodule or a
module, a load makes the package around its module and then runs the body, and a frame without guards
calls a loader. -/
inductive Comes : Host → World → Task → Host → World → Task → Prop where
  | here (h : Host) (w : World) (t : Task) : Comes h w t h w t
  | submodule {h h' : Host} {w w' : World} {dir s n : String} {t : Task} :
      (w.cache.find (Specifier.join s n) dir).isSome → Comes h w (.load (Specifier.join s n) dir) h' w' t →
      Comes h w (.call dir s (some n)) h' w' t
  | module {h h' : Host} {w w' : World} {dir s n : String} {t : Task} :
      w.cache.find (Specifier.join s n) dir = none → Comes h w (.load s dir) h' w' t →
      Comes h w (.call dir s (some n)) h' w' t
  | whole {h h' : Host} {w w' : World} {dir s : String} {t : Task} :
      Comes h w (.load s dir) h' w' t → Comes h w (.call dir s none) h' w' t
  | package {h h' : Host} {w w' : World} {s dir : String} {t : Task} : some s ≠ w.cache.selfName →
      w.cache.serves s dir = true → isInside s = true → w.cache.serves (Specifier.parent s) dir = true →
      Comes h w (.load (Specifier.parent s) dir) h' w' t → Comes h w (.load s dir) h' w' t
  | body {h h' : Host} {w w₁ w₂ w' : World} {s dir p : String} {package : Option Ref} {f : Frame} {t : Task} :
      some s ≠ w.cache.selfName → w.cache.find s dir = some p →
      (loadPackage (deeper h) w.cache s dir).run w = .ok package w₁ → Enters p w₁ f w₂ →
      Comes h w₂ (.frame f) h' w' t → Comes (deeper h) w (.load s dir) h' w' t
  | import {h h' : Host} {w w₁ w' : World} {f g : Frame} {k : Nat} {l : Ref} {dir s : String}
      {name : Option String} {rest : List Value} {t : Task} : Goes (deeper h) k f w g w₁ → k < f.patience →
      g.guards = [] → g.code.instrs[g.pc]? = some (.call (loaderArgs s name).length []) →
      g.stack = (loaderArgs s name).reverse ++ .ref l :: rest → (w₁.object l).payload = .loader dir →
      Comes h w₁ (.call dir s name) h' w' t → Comes (deeper h) w (.frame f) h' w' t

theorem Enters.raises {h : Host} {p : String} {w w' : World} {f : Frame} {e : Value} (enters : Enters p w f w')
    (raised : (Task.frame f).Raises h w' e) :
    ∃ w'', ((importing (deeper h)).toLoading.atPath p).run w = .error (.raised e) w'' := by
  cases enters with
  | @begins source code loader w₁ w₂ absent recorded ready made =>
    obtain ⟨w₃, ran⟩ := raised
    obtain ⟨installs, same⟩ := atPath_install (h := deeper h) absent recorded ready made
    have body : (runIn (deeper h) w₂.heap.size code).run
        { w₂.push (moduleOf (w₁.cache.moduleName p) [("__file__", .str p), ("__require__", loader)]) with
          cache := w₂.cache.begin p source w₂.heap.size } = .error (.raised e) w₃ := M.run_bind_error ran
    exact ⟨_, installs.trans (install_fails (same ▸ absent) (same ▸ recorded) body)⟩

theorem returns_addTrace (f : Frame) (exc : Value) : (addTrace f exc).Returns := by
  intro w
  cases exc <;> exact ⟨(), _, rfl⟩

theorem execute_raises {h : Host} {g : Frame} {i : Instr} {w w₁ : World} {e : Value} (fuel : Nat)
    (free : g.guards = []) (at_ : g.code.instrs[g.pc]? = some i)
    (raised : (step h { g with pc := g.pc + 1 } i).run w = .error (.raised e) w₁) :
    ∃ w', (execute h (fuel + 1) g).run w = .error (.raised e) w' := by
  have caught : g.caught e = none := by rw [Frame.caught, free]
  rw [execute]
  simp only [at_]
  rw [M.run_bind_ok (attempt_raised raised)]
  dsimp only
  split
  · obtain ⟨_, w₂, traced⟩ := returns_addTrace g e w₁
    refine ⟨w₂, ?_⟩
    rw [M.run_bind_ok traced, caught]
    rfl
  · refine ⟨w₁, ?_⟩
    rw [caught]
    rfl

theorem step_callLoader {h : Host} {g : Frame} {w w₁ : World} {l : Ref} {dir s : String} {name : Option String}
    {rest : List Value} {e : Value} (stack : g.stack = (loaderArgs s name).reverse ++ .ref l :: rest)
    (loader : (w.object l).payload = .loader dir)
    (raised : (callLoader h dir (loaderArgs s name) []).run w = .error (.raised e) w₁) :
    (step (deeper h) g (.call (loaderArgs s name).length [])).run w = .error (.raised e) w₁ := by
  have called : ((deeper h).call (.ref l) (loaderArgs s name) []).run w = .error (.raised e) w₁ := by
    change (callObject h l (loaderArgs s name) []).run w = _
    unfold callObject
    rw [M.run_bind_ok (obj_run l w)]
    have payload : (w.heap.getD l default).payload = .loader dir := loader
    simp only [payload]
    exact raised
  have taken : g.popMany (loaderArgs s name).length = (loaderArgs s name, { g with stack := .ref l :: rest }) := by
    simp [Frame.popMany, stack]
  have here (f : Frame) : (callHere (deeper h) f (.ref l) (loaderArgs s name) []).run w = .error (.raised e) w₁ :=
    called
  have defined : (stepDefine (deeper h) g (.call (loaderArgs s name).length [])).run w = .error (.raised e) w₁ := by
    unfold stepDefine
    simp only [taken, Frame.pop, List.length_nil, Nat.sub_zero, List.take_length, List.zip_nil_left]
    exact M.run_bind_error (here _)
  exact M.run_bind_error defined

theorem Comes.raises {h h' : Host} {w w' : World} {t t' : Task} {e : Value} (comes : Comes h w t h' w' t')
    (raised : t'.Raises h' w' e) : t.Raises h w e := by
  induction comes with
  | here => exact raised
  | @submodule h h' w w' dir s n t found _ ih =>
    obtain ⟨w₁, ran⟩ := ih raised
    obtain ⟨p, place⟩ := Option.isSome_iff_exists.mp found
    exact ⟨w₁, (callLoader_submodule place).trans (M.run_bind_error ran)⟩
  | @module h h' w w' dir s n t absent _ ih =>
    obtain ⟨w₁, ran⟩ := ih raised
    have got : (importing h).toLoading.get.run w = .ok w.cache w := rfl
    refine ⟨w₁, (callLoader_name ..).trans ?_⟩
    unfold loadName Importing.importName
    rw [M.run_bind_ok got, absent, Option.isSome_none, if_neg Bool.false_ne_true, M.run_bind_error ran]
  | whole _ ih =>
    obtain ⟨w₁, ran⟩ := ih raised
    exact ⟨w₁, (callLoader_module _ _ _ _).trans (M.run_bind_error ran)⟩
  | @package h h' w w' s dir t other served inside around _ ih =>
    obtain ⟨w₁, ran⟩ := ih raised
    refine ⟨w₁, ?_⟩
    have first : (loadPackage h w.cache s dir).run w = .error (.raised e) w₁ := by
      unfold loadPackage
      rw [inside, around, Bool.and_self, if_pos rfl]
      exact M.run_bind_error ran
    rw [load_run, if_neg other, if_pos served]
    exact M.run_bind_error first
  | @body h h' w w₁ w₂ w' s dir p package f t other found first enters _ ih =>
    obtain ⟨w₃, ran⟩ := enters.raises (ih raised)
    refine ⟨w₃, ?_⟩
    have place : (loadPlace (deeper h) w.cache s dir).run w₁ = .error (.raised e) w₃ := by
      unfold loadPlace
      rw [found]
      exact ran
    rw [load_run, if_neg other, if_pos (by simp [Cache.serves, found])]
    unfold loadServed
    rw [M.run_bind_ok first, M.run_bind_error place]
  | @«import» h h' w w₁ w' f g k l dir s name rest t goes room free at_ stack loader _ ih =>
    obtain ⟨w₂, ran⟩ := ih raised
    have stepped := step_callLoader (g := { g with pc := g.pc + 1 }) stack loader ran
    obtain ⟨w₃, left⟩ := execute_raises (f.patience - k - 1) free at_ stepped
    refine ⟨w₃, ?_⟩
    have fuel : f.patience = (f.patience - k - 1 + 1) + k := by omega
    rw [fuel, goes, left]

/-! Worlds in which native classes are in place and instances are those of modules. -/

structure World.Sound (w : World) : Prop where
  sane : w.Sane
  held : w.cache.Held

namespace World.Sound

variable {w w' : World}

theorem leads (h : w.Sound) (leads : w.Leads w') : w'.Sound := by
  refine ⟨h.sane.leads leads, fun p there => ?_⟩
  rw [leads.cache.holds]
  exact (leads.cache.held p there).elim (h.held p) id

theorem update (h : w.Sound) (modules : List (String × String)) :
    World.Sound { w with cache := w.cache.update modules } :=
  ⟨⟨h.sane.native, h.sane.size⟩, Cache.held_update modules h.held⟩

theorem after (h : w.Sound) (ops : List ModuleOp) : (w.afterModules ops).Sound := by
  induction ops generalizing w with
  | nil => exact h
  | cons op ops ih =>
    refine ih ?_
    cases op with
    | update modules => exact h.update modules
    | load s dir => exact h.leads ((loadModule host s dir).leads w)
    | call dir args keywords => exact h.leads ((callLoader host dir args keywords).leads w)
    | execute x => exact h.leads (x.leads w)

theorem start (cache : Cache Ref) (empty : cache.instances = []) : (World.start cache).Sound :=
  ⟨.start cache, fun p there => by simp [World.start, empty] at there⟩

end World.Sound

/-- A path whose latest body failed is not loaded in the end, unless sources are recorded below it. -/
theorem World.Leads.gone {w w' : World} {new later earlier : List (Event Ref)} {p s : String} {m : Ref}
    (h : w.Leads w') (journal : w'.cache.journal = new ++ w.cache.journal) (runs : w.Runs w' new)
    (split : new = later ++ .began p s m :: earlier) (latest : ∀ s' m', .began p s' m' ∉ later)
    (failed : .failed p m ∈ new) (plain : w.cache.isAround p = false) :
    w'.cache.instances.lookup p = none := by
  obtain ⟨new', journal', began, -, made⟩ := h.cache.events
  cases List.append_cancel_right (journal.symm.trans journal')
  cases there : w'.cache.instances.lookup p with
  | none => rfl
  | some i =>
    exfalso
    rcases made p i there with before | ⟨around, -⟩ | ⟨source, -, after, during, before, ran⟩
    · cases before.symm.trans (began p s m (by simp [split]))
    · cases plain.symm.trans around
    · -- The run that made the module is not the latest, and so it failed.
      have other : i ≠ m := fun same => runs.failed p m failed (same ▸ there)
      have inside : .began p source i ∈ new := by simp [ran]
      rw [split] at inside
      rcases List.mem_append.mp inside with inside | inside
      · exact latest source i inside
      · rcases List.mem_cons.mp inside with same | inside
        · cases same
          exact other rfl
        · have failed₀ := runs.alone later earlier p s m split source i inside
          exact runs.failed p i (by simp [split, failed₀]) there

/-- A call of a loader with a name of a module that the cache serves refuses the name only after
the module is loaded, has no such attribute, and there is no such submodule. An exception that leaves the
body of a module comes out of the call, unless a program handles it or it comes while the attribute is looked
up and says that there is none. In the end the modules whose bodies ran to their ends are loaded, and
those whose bodies failed are not. -/
theorem from_import (h : Host) {s n dir : String} {w : World} (sound : w.Sound)
    (served : w.cache.serves s dir = true) (dotless : '.' ∉ n.toList) :
    let call := (callLoader h dir (loaderArgs s (some n)) []).run w
    let after := worldAfter call
    NameImport h s n dir w call ∧
    (∀ h' w₁ f e w₂, Comes h w (.call dir s (some n)) h' w₁ (.frame f) →
      (execute h' f.patience f).run w₁ = .error (.raised e) w₂ → ∃ w', call = .error (.raised e) w') ∧
    ∃ new, after.cache.journal = new ++ w.cache.journal ∧
      (∀ p t m, .began p t m ∈ new → Cache.Over new p m) ∧
      (∀ p m, .ended p m ∈ new → after.cache.instances.lookup p = some m) ∧
      (∀ p m, .failed p m ∈ new → after.cache.instances.lookup p ≠ some m) ∧
      ∀ later earlier p t m, new = later ++ .began p t m :: earlier → (∀ t' m', .began p t' m' ∉ later) →
        .failed p m ∈ new → w.cache.isAround p = false → after.cache.instances.lookup p = none := by
  intro call after
  refine ⟨callLoader_ends h sound.sane sound.held served dotless,
    fun h' w₁ f e w₂ comes raised => comes.raises ⟨w₂, raised⟩, ?_⟩
  have leads : w.Leads after := (callLoader h dir (loaderArgs s (some n)) []).leads w
  obtain ⟨new, journal, runs⟩ := leads.runs
  exact ⟨new, journal, runs.closed, runs.ended, runs.failed,
    fun later earlier p t m split latest failed plain => leads.gone journal runs split latest failed plain⟩

/-- Whether the body of a path is made and raises something. -/
def bodyRaises (h : Host) (p : String) (w : World) : Bool :=
  match w.cache.instances.lookup p, w.cache.sources.lookup p with
  | none, some source =>
    match (moduleProgram p source).run w with
    | .ok code w₁ =>
      match (newLoader (Path.parent p)).run w₁ with
      | .ok loader w₂ =>
        let f := mainFrame w₂.heap.size code
        match (execute h f.patience f).run
            { w₂.push (moduleOf (w₁.cache.moduleName p) [("__file__", .str p), ("__require__", loader)]) with
              cache := w₂.cache.begin p source w₂.heap.size } with
        | .error (.raised _) _ => true
        | _ => false
      | _ => false
    | _ => false
  | _, _ => false

theorem Enters.of_bodyRaises {h : Host} {p : String} {w : World} (raises : bodyRaises h p w = true) :
    ∃ f w₁ e w₂, Enters p w f w₁ ∧ (execute h f.patience f).run w₁ = .error (.raised e) w₂ := by
  unfold bodyRaises at raises
  split at raises
  next source absent recorded =>
    split at raises
    next code w₁ ready =>
      split at raises
      next loader w₂ made =>
        dsimp only at raises
        split at raises
        next e w' ran => exact ⟨_, _, e, w', .begins absent recorded ready made, ran⟩
        next => cases raises
      next => cases raises
    next => cases raises
  next => cases raises

set_option maxRecDepth 100000 in
/-- A name that the body of a module binds, and a module whose body raises. -/
theorem from_import_attribute :
    let w := noModules.afterModules [.update [("/w/s.py", "y = 1\n"), ("/w/t.py", "1 / 0\n")]]
    w.Sound ∧ '.' ∉ "y".toList ∧ w.cache.serves "s" "/w" = true ∧
      NameImport host "s" "y" "/w" w ((callLoader host "/w" (loaderArgs "s" (some "y")) []).run w) ∧
      w.cache.serves "t" "/w" = true ∧ ∃ f w₁ e w₂ w',
        Comes host w (.call "/w" "t" (some "y")) (hostAt 1959) w₁ (.frame f) ∧
        (execute (hostAt 1959) f.patience f).run w₁ = .error (.raised e) w₂ ∧
        (callLoader host "/w" (loaderArgs "t" (some "y")) []).run w = .error (.raised e) w' := by
  intro w
  have sound : w.Sound := World.Sound.after (.start _ rfl) _
  have dotless : '.' ∉ "y".toList := by decide +kernel
  have served : w.cache.serves "s" "/w" = true := by decide +kernel
  have servedToo : w.cache.serves "t" "/w" = true := by decide +kernel
  obtain ⟨f, w₁, e, w₂, enters, raised⟩ :=
    Enters.of_bodyRaises (h := hostAt 1959) (p := "/w/t.py") (w := w) (by decide +kernel)
  have noSubmodule : w.cache.find (Specifier.join "t" "y") "/w" = none := by decide +kernel
  have other : some "t" ≠ w.cache.selfName := by decide +kernel
  have found : w.cache.find "t" "/w" = some "/w/t.py" := by decide +kernel
  have atTop : (loadPackage (deeper (hostAt 1959)) w.cache "t" "/w").run w = .ok none w := by
    have outside : isInside "t" = false := by decide +kernel
    unfold loadPackage
    rw [outside]
    rfl
  have comes : Comes host w (.call "/w" "t" (some "y")) (hostAt 1959) w₁ (.frame f) :=
    .module noSubmodule (.body other found atTop enters (.here _ _ _))
  obtain ⟨w', propagates⟩ := (from_import host sound servedToo dotless).2.1 _ _ f e w₂ comes raised
  exact ⟨sound, dotless, served, (from_import host sound served dotless).1, servedToo,
    f, w₁, e, w₂, w', comes, raised, propagates⟩

/-- Whether an event is that the body of a path fails. -/
def bodyFails (path : String) : Event Ref → Bool
  | .failed p _ => p == path
  | _ => false

/-- Whether an exception of a native class comes out. -/
def raisedKind {α : Type} (kind : String) : EStateM.Result Stop World α → Bool
  | .error (.raised e) w => w.isKind e kind
  | _ => false

set_option maxRecDepth 100000 in
/-- What a module raises that is loaded while a name is looked up can say that there is no such name. -/
theorem masked_by_lookup :
    let w := noModules.afterModules [.update [("/w/s.py", "def __getattr__(name):\n    __require__('b')\n"),
      ("/w/b.py", "raise AttributeError('inside')\n")]]
    let call := (callLoader host "/w" [.str "s", .str "y"] []).run w
    w.cache.serves "s" "/w" = true ∧ (worldAfter call).cache.journal.any (bodyFails "/w/b.py") = true ∧
      raisedKind "AttributeError" ((loadModule host "b" "/w").run w) = true ∧
      raisedKind "ImportError" call = true ∧ raisedKind "AttributeError" call = false := by
  decide +kernel

end Notebook.Machine
