import Notebook.Proofs.Variables
import Notebook.Proofs.Written
import Notebook.Realm

set_option autoImplicit false

namespace Notebook

open Notebook.Source Notebook.Tree Notebook.Scope

theorem Scope.Collect.run_bind_ok {α β : Type} {x : Collect α} {f : α → Collect β} {s : Scope.Setting}
    {os os' : List Open} {a : α} (h : x.run s os = .ok (a, os')) :
    (x >>= f).run s os = (f a).run s os' := by
  change (Collect.bind x f).run s os = _
  simp only [Collect.bind, h]

theorem Scope.Collect.run_bind_error {α β : Type} {x : Collect α} {f : α → Collect β}
    {s : Scope.Setting} {os : List Open} {e : Fault} (h : x.run s os = .error e) :
    (x >>= f).run s os = .error e := by
  change (Collect.bind x f).run s os = _
  simp only [Collect.bind, h]

theorem Scope.inBlock_error {kind : BlockKind} {opener : Opener} {pos : Pos} {body : Collect Unit}
    {s : Scope.Setting} {o : Open} {os : List Open} {e : Fault}
    (h : body.run s ({ info := { kind, opener, pos }, inIterable := o.inIterable } :: o :: os) = .error e) :
    (inBlock kind opener pos body).run s (o :: os) = .error e := by
  simp only [inBlock, List.head?_cons, Option.map_some, Option.getD_some, h]

theorem Scope.inBlock_ok {kind : BlockKind} {opener : Opener} {pos : Pos} {body : Collect Unit}
    {s : Scope.Setting} {o o' p : Open} {os rest : List Open}
    (h : body.run s ({ info := { kind, opener, pos }, inIterable := o.inIterable } :: o :: os)
      = .ok ((), o' :: p :: rest)) :
    (inBlock kind opener pos body).run s (o :: os) = .ok ((), p.hang o' :: rest) := by
  simp only [inBlock, List.head?_cons, Option.map_some, Option.getD_some, h]

namespace Realm

def inside (body : List Stmt) : List Stmt := if body.isEmpty then [.pass ⟨1, 0⟩] else body

/-- The block of the function of a body when only its parameters are known. -/
def firstOpen (isAsync : Bool) : Open :=
  { info :=
      { kind := .function, opener := .definition, pos := ⟨1, 0⟩
        usages := [("__exports__", { param := true }), ("__require__", { param := true })]
        params := ["__exports__", "__require__"], suspends := isAsync } }

def textOpen : Open :=
  { info := { kind := .module, opener := .text, pos := ⟨1, 0⟩
              usages := [(cellFunction, { «local» := true })] } }

theorem collect_wrap {body : List Stmt} {isAsync : Bool} {block : Block}
    (h : collect false [wrap body isAsync] = .ok block) :
    ∃ i o os, block = .mk i [.mk o.info o.inner] ∧ i.kind = .module ∧
      (collectStmts (inside body)).run {} [firstOpen isAsync, textOpen] = .ok ((), o :: os) := by
  let start : Open := { info := { kind := .module, opener := .text, pos := ⟨1, 0⟩ } }
  have lone : (collectStmts [wrap body isAsync]).run {} [start]
      = (collectStmt (wrap body isAsync)).run {} [start] := by
    rw [collectStmts]
    cases ran : (collectStmt (wrap body isAsync)).run {} [start] with
    | error e => exact Collect.run_bind_error ran
    | ok r =>
      rw [Collect.run_bind_ok ran, collectStmts]
      rfl
  let function : Collect Unit := do
    if isAsync then setSuspends
    collectParams { positional := [], plain := [param "__exports__", param "__require__"], star := none
                    keyword := [], doubleStar := none }
    collectStmts (inside body)
  have wrapped : (collectStmt (wrap body isAsync)).run {} [start]
      = (inBlock .function .definition ⟨1, 0⟩ function).run {} [textOpen] := by
    cases isAsync <;> rfl
  have first : function.run {}
        [{ info := { kind := .function, opener := .definition, pos := ⟨1, 0⟩ } }, textOpen]
      = (collectStmts (inside body)).run {} [firstOpen isAsync, textOpen] := by
    cases isAsync <;> rfl
  unfold collect at h
  change ((collectStmts [wrap body isAsync]).run {} [start] >>= _) = _ at h
  rw [lone] at h
  cases inner : (collectStmts (inside body)).run {} [firstOpen isAsync, textOpen] with
  | error e =>
    rw [wrapped, Scope.inBlock_error (first.trans inner)] at h
    cases h
  | ok r =>
    obtain ⟨⟨⟩, os⟩ := r
    have led := (collectStmts (inside body)).leads _ _ _ inner
    obtain ⟨o, p, rfl⟩ : ∃ o p, os = [o, p] := by
      obtain _ | ⟨o, _ | ⟨p, _ | ⟨q, os⟩⟩⟩ := os
      · cases led.length
      · cases led.length
      · exact ⟨o, p, rfl⟩
      · cases led.length
    have kind : o.info.kind = .function := (led.blocks 0 _ o rfl rfl).kind
    have text : p.info.kind = .module := (led.blocks 1 _ p rfl rfl).kind
    have none : p.inner = [] := led.inner 0 _ p rfl rfl
    rw [wrapped, Scope.inBlock_ok (first.trans inner)] at h
    simp only [Open.hang, kind, none] at h
    cases h
    exact ⟨p.info, o, [p], rfl, text, rfl⟩

/-! Fetching. -/

/-- The name that a statement takes over from the namespace, if that is what it does. The name of the
namespace itself does not count: whatever stands there afterwards need not be a namespace. -/
def fetchedName : Stmt → Option String
  | .assign _ [.name _ n .store]
      (.call _ (.attribute _ (.name _ x .load) m _ .load) [.const _ (.str t _)] []) =>
    if x = "__exports__" ∧ m = "get" ∧ t = n ∧ n ≠ "__exports__" then some n else none
  | _ => none

/-- The names that a body takes over from the namespace before it does anything else. -/
def fetched : List Stmt → List String
  | [] => []
  | s :: ss =>
    match fetchedName s with
    | some n => n :: fetched ss
    | none => []

theorem fetchedName_some {s : Stmt} {n : String} (h : fetchedName s = some n) :
    n ≠ "__exports__" ∧ ∃ p q q' a b c k kind, s = .assign p [.name q n .store]
      (.call q' (.attribute a (.name b "__exports__" .load) "get" c .load)
        [.const k (.str n kind)] []) := by
  unfold fetchedName at h
  split at h
  next p q m q' a b x method c k t kind =>
    by_cases same : x = "__exports__" ∧ method = "get" ∧ t = m ∧ m ≠ "__exports__"
    · rw [if_pos same] at h
      obtain ⟨rfl, rfl, rfl, other⟩ := same
      cases h
      exact ⟨other, p, q, q', a, b, c, k, kind, rfl⟩
    · rw [if_neg same] at h
      cases h
  next => cases h

theorem add_run {m : String} {u : Usage} {pos : Pos} (plain : u.param = false) {o : Open}
    (ho : o.inTarget = false) (os : List Open) :
    (add m u pos).run {} (o :: os) = .ok ((), o.withUsage m u :: os) := by
  change (if (u.param && (o.info.usage m).param) = true then _ else _ : Collect Unit).run {} (o :: os) = _
  rw [plain, Bool.false_and, if_neg Bool.false_ne_true]
  change (if (o.inTarget && _) = true then _ else _ : Collect Unit).run {} (o :: os) = _
  rw [ho, Bool.false_and, if_neg Bool.false_ne_true]
  rfl

theorem withUsage_inTarget (m : String) (u : Usage) (o : Open) :
    (o.withUsage m u).inTarget = o.inTarget := by
  unfold Open.withUsage
  split <;> rfl

theorem collect_fetch {s : Stmt} {n : String} (h : fetchedName s = some n) {o : Open}
    (ho : o.inTarget = false) (os : List Open) :
    (collectStmt s).run {} (o :: os)
      = .ok ((), (o.withUsage n { «local» := true }).withUsage "__exports__" { read := true } :: os) := by
  obtain ⟨-, p, q, q', a, b, c, k, kind, rfl⟩ := fetchedName_some h
  have bound : (collectExpr (.name q n .store)).run {} (o :: os)
      = .ok ((), o.withUsage n { «local» := true } :: os) := by
    rw [collectExpr]
    exact Collect.run_bind_ok (add_run rfl ho os)
  have targets : (collectExprs [.name q n .store]).run {} (o :: os)
      = .ok ((), o.withUsage n { «local» := true } :: os) := by
    rw [collectExprs, Collect.run_bind_ok bound, collectExprs]
    rfl
  have still := (withUsage_inTarget n { «local» := true } o).trans ho
  generalize o.withUsage n { «local» := true } = o₁ at targets still ⊢
  have read_ : (collectExpr (.name b "__exports__" .load)).run {} (o₁ :: os)
      = .ok ((), o₁.withUsage "__exports__" { read := true } :: os) := by
    rw [collectExpr]
    exact Collect.run_bind_ok (add_run rfl still os)
  have called : (collectExpr (.call q' (.attribute a (.name b "__exports__" .load) "get" c .load)
        [.const k (.str n kind)] [])).run {} (o₁ :: os)
      = .ok ((), o₁.withUsage "__exports__" { read := true } :: os) := by
    rw [collectExpr, collectExpr, Collect.run_bind_ok read_, collectExprs, collectExprs, collectExpr,
      collectKeywords]
    rfl
  rw [collectStmt, Collect.run_bind_ok targets]
  exact called

/-- What the block of the function of a body knows of the names it starts with. -/
structure Ready (o : Open) : Prop where
  opener : o.info.opener = .definition
  inTarget : o.inTarget = false
  undeclared : ∀ n, (o.info.usage n).isDeclared = false

theorem Ready.withUsage {o : Open} (h : Ready o) (m : String) {u : Usage} (hu : u.isDeclared = false) :
    Ready (o.withUsage m u) where
  opener := (Open.withUsage_leads m u o).opener.trans h.opener
  inTarget := (withUsage_inTarget m u o).trans h.inTarget
  undeclared n := by
    unfold Open.withUsage
    rw [hu, Bool.and_false, if_neg Bool.false_ne_true]
    change Usage.isDeclared (Option.getD _ _) = false
    rw [lookup_addUsage]
    have old := h.undeclared n
    split
    · rw [Usage.isDeclared_join]
      exact Bool.or_eq_false_iff.mpr ⟨old, hu⟩
    · exact old

theorem withUsage_assigned {o : Open} {m : String} {u : Usage} (hu : u.isAssigned = true)
    (plain : u.isDeclared = false) : ((o.withUsage m u).info.usage m).isAssigned = true := by
  unfold Open.withUsage
  rw [plain, Bool.and_false, if_neg Bool.false_ne_true]
  change Usage.isAssigned (Option.getD _ _) = true
  rw [lookup_addUsage, if_pos rfl, Usage.isAssigned_join]
  exact Bool.or_eq_true_iff.mpr (.inr hu)

theorem Ready.kept {body : List Stmt} {o o' : Open} {os os' : List Open} (h : Ready o)
    (ran : (collectStmts body).run {} (o :: os) = .ok ((), o' :: os')) {n : String}
    (hn : (o.info.usage n).isAssigned = true) :
    (o'.info.usage n).isAssigned = true ∧ (o'.info.usage n).isDeclared = false := by
  have led := ((collectStmts body).leads _ _ _ ran).blocks 0 o o' rfl rfl
  exact ⟨led.assigned n hn, (led.declared h.opener n hn).trans (h.undeclared n)⟩

theorem Ready.fetched {body : List Stmt} {o o' : Open} {os os' : List Open} (h : Ready o)
    (ran : (collectStmts body).run {} (o :: os) = .ok ((), o' :: os')) {n : String}
    (hn : n ∈ Realm.fetched body) :
    (o'.info.usage n).isAssigned = true ∧ (o'.info.usage n).isDeclared = false := by
  induction body generalizing o os with
  | nil => cases hn
  | cons s ss ih =>
    cases here : fetchedName s with
    | none => simp [Realm.fetched, here] at hn
    | some m =>
      rw [collectStmts, Collect.run_bind_ok (collect_fetch here h.inTarget os)] at ran
      have first := h.withUsage m (u := { «local» := true }) rfl
      have ready := first.withUsage "__exports__" (u := { read := true }) rfl
      simp only [Realm.fetched, here, List.mem_cons] at hn
      rcases hn with rfl | hn
      · refine ready.kept ran ?_
        exact (Open.withUsage_leads _ _ _).assigned n (withUsage_assigned rfl rfl)
      · exact ih ready ran hn

/-! Code. -/

open Notebook.Code

def wrapHeading (body : List Stmt) (isAsync : Bool) : Heading :=
  { name := cellFunction, isNamed := true, kind := if isAsync then .asyncFunction else .function
    firstLine := 1, doc := docOf (inside body), positional := 2 }

def writeInside (body : List Stmt) : Gen PUnit := do
  genBody (docOf (inside body)).isSome (inside body)
  emit (.const .none)
  emit .return

theorem genStmt_wrap (body : List Stmt) (isAsync : Bool) {s : Code.Setting} (owner : s.owner = none)
    (d : Draft) :
    (genStmt [] (wrap body isAsync)).run s d = (do
      let scope := s.scope.find .definition ⟨1, 0⟩
      let unit ← inUnit (wrapHeading body isAsync) scope none ["__exports__", "__require__"]
        (writeInside body)
      emit (.makeFunction unit 0 [] [] (scope.closure.map (cellIndex s.scope)))
      nameOp cellFunction .store : Gen PUnit).run s { d with place := some ⟨1, 0⟩, line := 1 } := by
  rw [wrap, genStmt]
  obtain ⟨_, _, _, _, owner_⟩ := s
  cases owner
  cases isAsync <;> rfl

theorem nameInstr_text {r : Resolved} (kind : r.info.kind = .module) {n : String}
    (own : r.binding n ≠ .cell ∧ r.binding n ≠ .free) (slots : Array String) :
    nameInstr r slots n .store = .storeName n ∨ nameInstr r slots n .store = .storeGlobal n := by
  unfold nameInstr
  rw [kind]
  cases h : r.binding n with
  | cell => exact absurd h own.1
  | free => exact absurd h own.2
  | «local» => exact .inl rfl
  | globalDeclared => exact .inr rfl
  | global => exact .inl rfl

theorem writeText_wrap {body : List Stmt} {isAsync : Bool} {s : Code.Setting} {d d' : Draft}
    (h : (writeText [wrap body isAsync]).run s d = .ok ((), d')) :
    ∃ d₁, (genStmt [] (wrap body isAsync)).run s d = .ok ((), d₁) ∧
      d' = (d₁.add (.const .none)).add .return := by
  unfold writeText at h
  rw [show docOf [wrap body isAsync] = none from rfl] at h
  obtain ⟨_, d₁, generated, h⟩ := Gen.of_bind_ok h
  cases h
  rw [genBody] at generated
  obtain ⟨_, d₂, here, rest⟩ := Gen.of_bind_ok generated
  rw [genStmts] at rest
  cases rest
  exact ⟨d₁, here, rfl⟩

/-- The code of a body: the function in it, and the unit that makes the function. -/
structure Wrapped (file : String) (body : List Stmt) (isAsync : Bool) (program : Program) where
  scope : Resolved
  top : scope.TopFunction
  /-- The block of the function, before its names are resolved. -/
  block : Open
  info : scope.info = block.info
  outer : List Open
  collected : (collectStmts (inside body)).run {} [firstOpen isAsync, textOpen] = .ok ((), block :: outer)
  setting : Code.Setting
  settingScope : setting.scope = scope
  settingKind : setting.kind = if isAsync then .asyncFunction else .function
  owner : setting.owner = none
  draft : Draft
  written : (writeInside body).run setting
    (.start (wrapHeading body isAsync) scope ["__exports__", "__require__"] #[]) = .ok ((), draft)
  unit : Nat
  function : program.units[unit]? = some (draft.unit (wrapHeading body isAsync) scope cellFunction file)
  store : Instr
  stores : store = .storeName cellFunction ∨ store = .storeGlobal cellFunction
  main : Code.Unit
  isMain : program.units[program.main]? = some main
  mainSlots : main.slots = #[]
  mainInstrs : main.instrs = #[.makeFunction unit 0 [] [] [], store, .const .none, .return]

theorem compile_unfree {file : String} {body : List Stmt} {isAsync : Bool} {program : Program}
    (h : Code.compile { file } [wrap body isAsync] = .ok program) :
    ∃ x : Wrapped file body isAsync program, ∀ n, x.scope.binding n ≠ .free := by
  obtain ⟨features, block, text, s, d, hf, hb, hr, inScope, owner, kind, hfile, wrote, rfl⟩ := compile_ok h
  have plain : features = {} := by
    rw [show findFeatures {} false 0 [wrap body isAsync] = .ok {} from rfl] at hf
    cases hf
    rfl
  subst plain
  obtain ⟨i, o, os, rfl, module, ran⟩ := collect_wrap hb
  have led := ((collectStmts (inside body)).leads _ _ _ ran).blocks 0 _ o rfl rfl
  obtain ⟨info, own, around, f, free, bare, resolved, inner⟩ := resolve_single module hr
  have nodup := led.nodup (show ["__exports__", "__require__"].Nodup by decide)
  obtain ⟨top, hi, unfree⟩ := resolveBlock_function bare led.kind nodup resolved
  have found : s.scope.find .definition ⟨1, 0⟩ = f := by
    have opener : o.info.opener = .definition := led.opener
    have pos : o.info.pos = ⟨1, 0⟩ := led.pos
    simp [Resolved.find, inScope, inner, hi, opener, pos]
  obtain ⟨d₁, generated, hd⟩ := writeText_wrap wrote
  rw [genStmt_wrap body isAsync owner] at generated
  dsimp only at generated
  rw [found] at generated
  obtain ⟨unit, d₂, hunit, generated⟩ := Gen.of_bind_ok generated
  obtain ⟨d₃, wroteInside, hd₂⟩ := inUnit_ok hunit
  cases hd₂
  obtain ⟨_, d₄, emitted, generated⟩ := Gen.of_bind_ok generated
  cases emitted
  rw [nameOp_run (by decide)] at generated
  cases generated
  subst hd
  subst inScope
  have slots : slotsOf s.scope [] = #[] := by
    unfold slotsOf
    rw [info, module]
    rfl
  have stores := nameInstr_text (n := cellFunction) (by rw [info]; exact module) (own _) #[]
  refine ⟨{ scope := f, top, block := o, info := hi, outer := os, collected := ran, setting := _
            settingScope := rfl, settingKind := rfl, owner := rfl, draft := d₃, written := wroteInside
            unit := d₃.units.size, function := ?_, store := nameInstr s.scope #[] cellFunction .store
            stores, main := _, isMain := Array.getElem?_push_size, mainSlots := slots, mainInstrs := ?_ }, unfree⟩
  · have called : innerName s cellFunction true = cellFunction := by simp [innerName, kind]
    change ((d₃.units.push (d₃.unit (wrapHeading body isAsync) f (innerName s cellFunction true)
      s.file)).push _)[d₃.units.size]? = _
    rw [called, hfile, Array.getElem?_push, Array.size_push, if_neg (Nat.ne_of_lt (Nat.lt_succ_self _))]
    exact Array.getElem?_push_size
  · change #[.makeFunction d₃.units.size 0 [] [] (f.closure.map (cellIndex s.scope)),
      nameInstr s.scope (slotsOf s.scope []) (mangle s.owner cellFunction) .store,
      .const .none, .return].map (Instr.mapTarget _) = _
    rw [top.closure, slots, owner]
    change #[_, nameInstr s.scope #[] cellFunction .store, _, _].map _ = _
    rcases stores with stores | stores <;> rw [stores] <;> simp [Instr.mapTarget]

/-- The code that takes names over from the namespace, one after another. -/
inductive Fetching (r : Resolved) (slots : Array String) : List String → List Instr → Prop where
  | nil : Fetching r slots [] []
  | cons (n : String) (kind : Bool) {ns : List String} {is : List Instr} (rest : Fetching r slots ns is) :
    Fetching r slots (n :: ns)
      (nameInstr r slots "__exports__" .load :: .loadAttr "get" :: .const (.str n kind) :: .call 1 [] ::
        nameInstr r slots n .store :: is)

theorem fetch_adds {st : Stmt} {n : String} (h : fetchedName st = some n) {s : Code.Setting}
    (owner : s.owner = none) (slots : Array String) :
    ∃ kind, Gen.Adds s slots (genStmt [] st)
      [nameInstr s.scope slots "__exports__" .load, .loadAttr "get", .const (.str n kind), .call 1 [],
        nameInstr s.scope slots n .store] := by
  obtain ⟨-, p, q, q', a, b, c, k, kind, rfl⟩ := fetchedName_some h
  refine ⟨kind, ?_⟩
  have object : Gen.Adds s slots (genFor .value (.name b "__exports__" .load))
      [nameInstr s.scope slots "__exports__" .load] := by
    have named : Gen.Adds s slots (genFor .value (.name b "__exports__" .load))
        [nameInstr s.scope slots (mangle s.owner "__exports__") .load] := .name b rfl
    rwa [owner] at named
  have args : Gen.Adds s slots (genExprs [.const k (.str n kind)]) [.const (.str n kind)] :=
    (Gen.Adds.const k _).exprs_cons .exprs_nil
  have target : Gen.Adds s slots (genFor .value (.name q n .store))
      [nameInstr s.scope slots n .store] := by
    have named : Gen.Adds s slots (genFor .value (.name q n .store))
        [nameInstr s.scope slots (mangle s.owner n) .store] := .name q (by simp)
    rwa [owner] at named
  rw [genStmt]
  refine (Gen.Adds.setPlace p).after fun _ => ?_
  refine (Gen.Adds.methodCall q' a c "get" owner rfl object args).bind fun _ => ?_
  rw [genTargetsInTurn]
  exact target

theorem genStmts_fetched {body : List Stmt} {s : Code.Setting} (owner : s.owner = none)
    {d d' : Draft} (ran : (genStmts [] body).run s d = .ok ((), d')) :
    ∃ is, Fetching s.scope d.slots (fetched body) is ∧ d.instrs.toList ++ is <+: d'.instrs.toList := by
  have stop : ∃ is, Fetching s.scope d.slots [] is ∧ d.instrs.toList ++ is <+: d'.instrs.toList :=
    ⟨[], .nil, by simpa using ((genStmts [] body).leads _ _ _ ran).instrs⟩
  induction body generalizing d with
  | nil => exact stop
  | cons st ss ih =>
    cases here : fetchedName st with
    | none =>
      rw [fetched, here]
      exact stop
    | some n =>
      rw [genStmts] at ran
      obtain ⟨_, d₁, first, rest⟩ := Gen.of_bind_ok ran
      obtain ⟨kind, adds⟩ := fetch_adds here owner d.slots
      obtain ⟨instrs, slots, -⟩ := adds d _ d₁ rfl first
      have stop' : ∃ is, Fetching s.scope d₁.slots [] is ∧
          d₁.instrs.toList ++ is <+: d'.instrs.toList :=
        ⟨[], .nil, by simpa using ((genStmts [] ss).leads _ _ _ rest).instrs⟩
      obtain ⟨is, fetching, within⟩ := ih rest stop'
      rw [slots] at fetching
      rw [fetched, here]
      refine ⟨_, .cons n kind fetching, ?_⟩
      rw [instrs, List.append_assoc] at within
      exact within

theorem writeInside_fetched {body : List Stmt} {s : Code.Setting} (owner : s.owner = none)
    {d d' : Draft} (ran : (writeInside body).run s d = .ok ((), d')) :
    ∃ is, Fetching s.scope d.slots (fetched body) is ∧ d.instrs.toList ++ is <+: d'.instrs.toList := by
  cases body with
  | nil => exact ⟨[], .nil, by simpa using ((writeInside []).leads _ _ _ ran).instrs⟩
  | cons st ss =>
    cases here : fetchedName st with
    | none =>
      rw [fetched, here]
      exact ⟨[], .nil, by simpa using ((writeInside (st :: ss)).leads _ _ _ ran).instrs⟩
    | some n =>
      obtain ⟨_, d₁, body, ending⟩ := Gen.of_bind_ok ran
      have undocumented : docOf (inside (st :: ss)) = none := by
        obtain ⟨-, p, q, q', a, b, c, k, kind, rfl⟩ := fetchedName_some here
        rfl
      rw [undocumented] at body
      have whole : (genStmts [] (st :: ss)).run s d = .ok ((), d₁) := by
        rw [genStmts]
        exact body
      obtain ⟨is, fetching, within⟩ := genStmts_fetched owner whole
      cases ending
      refine ⟨is, fetching, within.trans ?_⟩
      simp [Draft.add]

end Realm

end Notebook
