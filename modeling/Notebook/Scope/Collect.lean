import Notebook.Scope.Basic

set_option autoImplicit false

namespace Notebook.Scope

open Notebook.Source Notebook.Tree

structure Open where
  info : Info
  inner : List Block := []
  /-- Within the target of a comprehension. -/
  inTarget : Bool := false
  /-- How many iterables of comprehensions are open around. -/
  inIterable : Nat := 0

/-- What stays the same within a class: its name, and whether annotations are deferred. -/
structure Setting where
  owner : Option String := none
  deferred : Bool := false

/-- What collecting keeps of an open block: what it is, which names it assigns, and that names stand
once; a definition does not come to say of a name it assigns that another block binds it. -/
structure Open.Leads (o o' : Open) : Prop where
  kind : o'.info.kind = o.info.kind
  opener : o'.info.opener = o.info.opener
  pos : o'.info.pos = o.info.pos
  assigned : ∀ n, (o.info.usage n).isAssigned = true → (o'.info.usage n).isAssigned = true
  declared : o.info.opener = .definition → ∀ n, (o.info.usage n).isAssigned = true →
    (o'.info.usage n).isDeclared = (o.info.usage n).isDeclared
  nodup : (o.info.usages.map (·.1)).Nodup → (o'.info.usages.map (·.1)).Nodup

namespace Open.Leads

variable {o o' o'' : Open}

theorem aside (kind : o'.info.kind = o.info.kind) (opener : o'.info.opener = o.info.opener)
    (pos : o'.info.pos = o.info.pos) (usages : o'.info.usages = o.info.usages) : o.Leads o' where
  kind := kind
  opener := opener
  pos := pos
  assigned n h := by rwa [Info.usage, usages]
  declared _ n _ := by rw [Info.usage, usages, Info.usage]
  nodup h := by rwa [usages]

theorem refl (o : Open) : o.Leads o := aside rfl rfl rfl rfl

theorem trans (h : o.Leads o') (h' : o'.Leads o'') : o.Leads o'' where
  kind := h'.kind.trans h.kind
  opener := h'.opener.trans h.opener
  pos := h'.pos.trans h.pos
  assigned n hn := h'.assigned n (h.assigned n hn)
  declared hd n hn :=
    (h'.declared (h.opener.trans hd) n (h.assigned n hn)).trans (h.declared hd n hn)
  nodup hn := h'.nodup (h.nodup hn)

end Open.Leads

/-- What collecting keeps of the stack of open blocks: each of them, and the blocks inside all but the
innermost. -/
structure StackLeads (os os' : List Open) : Prop where
  length : os'.length = os.length
  blocks : ∀ (i : Nat) (o o' : Open), os[i]? = some o → os'[i]? = some o' → o.Leads o'
  inner : ∀ (i : Nat) (o o' : Open), os[i + 1]? = some o → os'[i + 1]? = some o' → o'.inner = o.inner

namespace StackLeads

variable {os os' os'' : List Open}

theorem refl (os : List Open) : StackLeads os os where
  length := rfl
  blocks i o o' h h' := by
    rw [h] at h'
    cases h'
    exact .refl o
  inner i o o' h h' := by
    rw [h] at h'
    cases h'
    rfl

theorem trans (h : StackLeads os os') (h' : StackLeads os' os'') : StackLeads os os'' := by
  have between {i : Nat} {o : Open} (ho : os[i]? = some o) : ∃ o', os'[i]? = some o' := by
    have hi : i < os'.length := by
      rw [h.length]
      exact (List.getElem?_eq_some_iff.mp ho).1
    exact ⟨_, List.getElem?_eq_getElem hi⟩
  refine ⟨h'.length.trans h.length, fun i o o'' ho ho'' => ?_, fun i o o'' ho ho'' => ?_⟩
  · obtain ⟨o', mid⟩ := between ho
    exact (h.blocks i o o' ho mid).trans (h'.blocks i o' o'' mid ho'')
  · obtain ⟨o', mid⟩ := between ho
    exact (h'.inner i o' o'' mid ho'').trans (h.inner i o o' ho mid)

theorem set {o o' : Open} {i : Nat} (ho : os[i]? = some o) (h : o.Leads o')
    (inner : o'.inner = o.inner) : StackLeads os (os.set i o') := by
  have changed {j : Nat} {p p' : Open} (hp : os[j]? = some p) (hp' : (os.set i o')[j]? = some p') :
      p' = p ∨ p = o ∧ p' = o' := by
    rw [List.getElem?_set] at hp'
    split at hp'
    next same =>
      subst same
      rw [ho] at hp
      cases hp
      split at hp' <;> cases hp'
      exact .inr ⟨rfl, rfl⟩
    next =>
      rw [hp] at hp'
      cases hp'
      exact .inl rfl
  refine ⟨List.length_set, fun j p p' hp hp' => ?_, fun j p p' hp hp' => ?_⟩
  · rcases changed hp hp' with rfl | ⟨rfl, rfl⟩
    · exact .refl _
    · exact h
  · rcases changed hp hp' with rfl | ⟨rfl, rfl⟩
    · rfl
    · exact inner

theorem tail {o o' : Open} (h : StackLeads (o :: os) (o' :: os')) : StackLeads os os' where
  length := by simpa using h.length
  blocks i := h.blocks (i + 1)
  inner i := h.inner (i + 1)

theorem hang {o o' p : Open} (h : StackLeads (o :: os) (p :: os')) (first : p.Leads o') :
    StackLeads (o :: os) (o' :: os') where
  length := by simpa using h.length
  blocks i q q' hq hq' := by
    cases i with
    | zero =>
      cases hq
      cases hq'
      exact (h.blocks 0 o p rfl rfl).trans first
    | succ i => exact h.blocks (i + 1) q q' hq hq'
  inner i q q' hq hq' := h.inner i q q' hq hq'

end StackLeads

/-- Collecting works on the stack of open blocks, innermost first: what it makes of every stack, or
the fault that stops it, and that the stack leads to the one after it. -/
structure Collect (α : Type) where
  run : Setting → List Open → Except Fault (α × List Open)
  leads : ∀ (s : Setting) (os : List Open) (r : α × List Open), run s os = .ok r → StackLeads os r.2

namespace Collect

variable {α β : Type}

@[always_inline, inline]
protected def pure (a : α) : Collect α where
  run _ os := .ok (a, os)
  leads _ os r h := by
    cases h
    exact .refl os

@[always_inline, inline]
protected def bind (x : Collect α) (f : α → Collect β) : Collect β where
  run s os := match x.run s os with
    | .ok (a, os) => (f a).run s os
    | .error e => .error e
  leads s os r h := by
    split at h
    next a os' hx => exact (x.leads s os (a, os') hx).trans ((f a).leads s os' r h)
    next => cases h

@[always_inline]
instance : Monad Collect where
  pure := Collect.pure
  bind := Collect.bind

@[always_inline]
instance : MonadReaderOf Setting Collect where
  read := ⟨fun s os => .ok (s, os), fun _ os _ h => by cases h; exact .refl os⟩

@[inline]
def within (f : Setting → Setting) (x : Collect α) : Collect α :=
  ⟨fun s os => x.run (f s) os, fun s os r h => x.leads (f s) os r h⟩

@[inline]
def stack : Collect (List Open) :=
  ⟨fun _ os => .ok (os, os), fun _ os _ h => by cases h; exact .refl os⟩

@[inline]
protected def throw (e : Fault) : Collect α := ⟨fun _ _ => .error e, fun _ _ _ h => by cases h⟩

instance : Inhabited (Collect α) := ⟨.throw { message := "", line := 0, offset := 0 }⟩

end Collect

open Collect (stack)

def faultAt {α : Type} (pos : Pos) (message : String) : Collect α :=
  .throw { message, line := pos.line, offset := pos.col + 1 }

/-- The innermost open block. -/
def current : Collect Open := do
  match ← stack with
  | o :: _ => return o
  | [] => return { info := { kind := .module, opener := .text, pos := ⟨1, 0⟩ } }

def changeAt (depth : Nat) (f : Open → Open) (h : ∀ o : Open, o.Leads (f o))
    (inner : ∀ o : Open, (f o).inner = o.inner) : Collect Unit where
  run _ os :=
    match os[depth]? with
    | some o => .ok ((), os.set depth (f o))
    | none => .ok ((), os)
  leads _ os r hr := by
    split at hr
    next o ho =>
      cases hr
      exact .set ho (h o) (inner o)
    next =>
      cases hr
      exact .refl os

def modifyCurrent (f : Open → Open)
    (h : ∀ o : Open, o.Leads (f o) := by exact fun _ => .aside rfl rfl rfl rfl)
    (inner : ∀ o : Open, (f o).inner = o.inner := by exact fun _ => rfl) : Collect Unit :=
  changeAt 0 f h inner

def usageOf (name : String) : Collect Usage := do
  return (← current).info.usage (mangle (← read).owner name)

/-- A block with a usage of a name added. Who declares a name that a definition assigns is refused
before this, so the usages stay as they are. -/
def Open.withUsage (key : String) (u : Usage) (o : Open) : Open :=
  if o.info.opener == .definition && (o.info.usage key).isAssigned && u.isDeclared then o
  else { o with info := { o.info with
    usages := addUsage key { u with iteration := u.iteration || o.inTarget } o.info.usages
    params := if u.param then o.info.params ++ [key] else o.info.params } }

theorem Open.withUsage_leads (key : String) (u : Usage) (o : Open) : o.Leads (o.withUsage key u) := by
  unfold withUsage
  split
  next => exact .refl o
  next free =>
    refine ⟨rfl, rfl, rfl, fun n h => ?_, fun definition n h => ?_, nodup_addUsage _ _⟩
    · change Usage.isAssigned (Option.getD _ _) = true
      rw [lookup_addUsage]
      split
      · rw [Usage.isAssigned_join]
        exact Bool.or_eq_true_iff.mpr (.inl h)
      · exact h
    · change Usage.isDeclared (Option.getD _ _) = _
      rw [lookup_addUsage]
      split
      next same =>
        subst same
        have plain : u.isDeclared = false := by simpa [definition, h] using free
        rw [Usage.isDeclared_join]
        exact (congrArg _ plain).trans (Bool.or_false _)
      next => rfl

theorem Open.withUsage_inner (key : String) (u : Usage) (o : Open) :
    (o.withUsage key u).inner = o.inner := by
  unfold withUsage
  split <;> rfl

/-- Records a usage in the open block that stands `depth` blocks outside of the current one. -/
def addTo (depth : Nat) (name : String) (u : Usage) (pos : Pos) : Collect Unit := do
  let key := mangle (← read).owner name
  match (← stack)[depth]? with
  | none => return
  | some o =>
    let before := o.info.usage key
    if u.param && before.param then
      faultAt pos s!"duplicate argument '{name}' in function definition"
    let after := before.join u
    if o.inTarget && (after.global || after.nonlocal) then
      faultAt pos s!"comprehension inner loop cannot rebind assignment expression target '{name}'"
    changeAt depth (·.withUsage key u) (Open.withUsage_leads key u) (Open.withUsage_inner key u)

def add (name : String) (u : Usage) (pos : Pos) : Collect Unit := addTo 0 name u pos

def addDirective (name : String) (pos : Pos) : Collect Unit := do
  let key := mangle (← read).owner name
  modifyCurrent fun o => { o with info.directives := o.info.directives ++ [(key, pos)] }

/-- Hangs a finished block into the one around it; the block of a deferred annotation is dropped. -/
def Open.hang (p o : Open) : Open :=
  if o.info.kind == .deferred then p else { p with inner := p.inner ++ [.mk o.info o.inner] }

theorem Open.hang_leads (p o : Open) : p.Leads (p.hang o) := by
  unfold hang
  split
  · exact .refl p
  · exact .aside rfl rfl rfl rfl

def inBlock (kind : BlockKind) (opener : Opener) (pos : Pos) (body : Collect Unit) :
    Collect Unit where
  run s os :=
    let before := (os.head?.map (·.inIterable)).getD 0
    match body.run s ({ info := { kind, opener, pos }, inIterable := before } :: os) with
    | .error e => .error e
    | .ok (_, o :: p :: rest) => .ok ((), p.hang o :: rest)
    | .ok _ => .ok ((), os)
  leads s os r hr := by
    dsimp only at hr
    split at hr
    next => cases hr
    next o p rest h =>
      cases hr
      have led := (body.leads _ _ _ h).tail
      cases os with
      | nil => cases led.length
      | cons q os => exact led.hang (p.hang_leads o)
    next =>
      cases hr
      exact .refl os

def refuseInAnnotation (what : String) (pos : Pos) : Collect Unit := do
  if (← current).info.kind == .deferred then
    faultAt pos s!"{what} cannot be used within an annotation"

def inTarget (body : Collect Unit) : Collect Unit := do
  modifyCurrent fun o => { o with inTarget := true }
  body
  modifyCurrent fun o => { o with inTarget := false }

def inIterable (body : Collect Unit) : Collect Unit := do
  modifyCurrent fun o => { o with inIterable := o.inIterable + 1 }
  body
  modifyCurrent fun o => { o with inIterable := o.inIterable - 1 }

def setSuspends : Collect Unit := modifyCurrent fun o => { o with info.suspends := true }

def inAnnotation (pos : Pos) (body : Collect Unit) : Collect Unit := do
  if (← read).deferred then inBlock .deferred .text pos body else body

/-- Binds the target of an assignment expression inside a comprehension in the block that holds the
comprehension; `depth` blocks have been passed on the way out. -/
def bindOutside (name : String) (pos : Pos) (depth : Nat) : List Open → Collect Unit
  | [] => return
  | o :: os => do
    if o.info.opener.isComprehension then
      if (o.info.usage (mangle (← read).owner name)).iteration then
        faultAt pos
          s!"assignment expression cannot rebind comprehension iteration variable '{name}'"
      bindOutside name pos (depth + 1) os
    else
      match o.info.kind with
      | .function =>
        let outer := o.info.usage (mangle (← read).owner name)
        add name (if outer.global then { global := true } else { nonlocal := true }) pos
        addDirective name pos
        addTo depth name { «local» := true } pos
      | .module =>
        add name { global := true } pos
        addDirective name pos
        addTo depth name { global := true } pos
      | .class =>
        faultAt pos
          "assignment expression within a comprehension cannot be used in a class body"
      | .deferred => bindOutside name pos (depth + 1) os

def declare (word : String) (usage : Usage) (pos : Pos) (name : String) : Collect Unit := do
  let u ← usageOf name
  if u.param then faultAt pos s!"name '{name}' is parameter and {word}"
  if u.read then faultAt pos s!"name '{name}' is used prior to {word} declaration"
  if u.annotated then faultAt pos s!"annotated name '{name}' can't be {word}"
  if u.local then faultAt pos s!"name '{name}' is assigned to before {word} declaration"
  add name usage pos
  addDirective name pos

def declareAll (word : String) (usage : Usage) (pos : Pos) : List String → Collect Unit
  | [] => return
  | n :: ns => do
    declare word usage pos n
    declareAll word usage pos ns

def collectParam (p : Param Expr) : Collect Unit := add p.name { param := true } p.pos

def collectParams (ps : Params Expr) : Collect Unit := do
  ps.positional.forM collectParam
  ps.plain.forM collectParam
  ps.keyword.forM collectParam
  ps.star.forM collectParam
  ps.doubleStar.forM collectParam

def compOpener : CompKind → Opener
  | .list => .list
  | .set => .set
  | .generator => .generator

/-- A block that yields inside of a comprehension is a fault of the expression that yields. -/
def noteYield (pos : Pos) : Collect Unit := do
  modifyCurrent fun o => { o with info.yields := true }
  match (← current).info.opener with
  | .list => faultAt pos "'yield' inside list comprehension"
  | .set => faultAt pos "'yield' inside set comprehension"
  | .dict => faultAt pos "'yield' inside dict comprehension"
  | .generator => faultAt pos "'yield' inside generator expression"
  | _ => return

/-- Wraps up a comprehension: its block is closed, and one that suspends makes the block around it
suspend too. -/
def comprehension (opener : Opener) (pos : Pos) (body : Collect Unit) : Collect Unit := do
  inBlock .function opener pos do
    add ".0" { param := true } pos
    body
    modifyCurrent fun o => { o with info.yields := opener == .generator }
  match (← current).inner.getLast? with
  | some (.mk i _) => if i.suspends && opener != .generator then setSuspends
  | none => return

mutual

def collectExpr : Expr → Collect Unit
  | .boolOp _ _ vs => collectExprs vs
  | .named p t v => do
    refuseInAnnotation "named expression" p
    if (← current).inIterable > 0 then
      faultAt p "assignment expression cannot be used in a comprehension iterable expression"
    if (← current).info.opener.isComprehension then
      match t with
      | .name pos id _ => bindOutside id pos 0 (← stack)
      | _ => pure ()
    collectExpr v
    collectExpr t
  | .binOp _ l _ r => do
    collectExpr l
    collectExpr r
  | .unaryOp _ _ e => collectExpr e
  | .lambda p ps b => do
    collectDefaults ps
    inBlock .function .lambda p do
      collectParams ps
      collectExpr b
  | .ifElse _ t b o => do
    collectExpr t
    collectExpr b
    collectExpr o
  | .dict _ es => do
    collectKeys es
    collectValues es
  | .set _ es => collectExprs es
  | .comp p kind e cs => do
    collectFirstIter cs
    comprehension (compOpener kind) p do
      collectFirstClause cs
      collectExpr e
  | .dictComp p k v cs => do
    collectFirstIter cs
    comprehension .dict p do
      collectFirstClause cs
      collectExpr v
      collectExpr k
  | .await p e => do
    refuseInAnnotation "await expression" p
    collectExpr e
    setSuspends
  | .yield p e => do
    refuseInAnnotation "yield expression" p
    collectOption e
    noteYield p
  | .yieldFrom p e => do
    refuseInAnnotation "yield expression" p
    collectExpr e
    noteYield p
  | .compare _ l _ rs => do
    collectExpr l
    collectExprs rs
  | .call _ f as ks => do
    collectExpr f
    collectExprs as
    collectKeywords ks
  | .formatted _ v _ s => do
    collectExpr v
    collectOption s
  | .joined _ vs => collectExprs vs
  | .const .. => return
  | .attribute _ e _ _ _ => collectExpr e
  | .subscript _ e i _ => do
    collectExpr e
    collectExpr i
  | .starred _ e _ => collectExpr e
  | .name p id ctx => do
    add id (if ctx == .load then { read := true } else { «local» := true }) p
    if ctx == .load && id == "super" && (← current).info.kind == .function then
      add "__class__" { read := true } p
  | .list _ es _ => collectExprs es
  | .tuple _ es _ => collectExprs es
  | .slice _ l u s => do
    collectOption l
    collectOption u
    collectOption s

def collectExprs : List Expr → Collect Unit
  | [] => return
  | e :: es => do
    collectExpr e
    collectExprs es

def collectOption : Option Expr → Collect Unit
  | none => return
  | some e => collectExpr e

def collectKeys : List (Entry Expr) → Collect Unit
  | [] => return
  | ⟨k, _⟩ :: es => do
    collectOption k
    collectKeys es

def collectValues : List (Entry Expr) → Collect Unit
  | [] => return
  | ⟨_, v⟩ :: es => do
    collectExpr v
    collectValues es

def collectKeywords : List (Keyword Expr) → Collect Unit
  | [] => return
  | ⟨_, _, v⟩ :: ks => do
    collectExpr v
    collectKeywords ks

def collectFirstIter : List (Clause Expr) → Collect Unit
  | [] => return
  | ⟨_, i, _, _⟩ :: _ => inIterable (collectExpr i)

def collectFirstClause : List (Clause Expr) → Collect Unit
  | [] => return
  | ⟨t, _, ifs, isAsync⟩ :: cs => do
    if isAsync then setSuspends
    inTarget (collectExpr t)
    collectExprs ifs
    collectClauses cs

def collectClauses : List (Clause Expr) → Collect Unit
  | [] => return
  | ⟨t, i, ifs, isAsync⟩ :: cs => do
    inTarget (collectExpr t)
    inIterable (collectExpr i)
    collectExprs ifs
    if isAsync then setSuspends
    collectClauses cs

def collectDefaultList : List (Param Expr) → Collect Unit
  | [] => return
  | ⟨_, _, _, d⟩ :: ps => do
    collectOption d
    collectDefaultList ps

def collectDefaults : Params Expr → Collect Unit
  | ⟨positional, plain, _, keyword, _⟩ => do
    collectDefaultList positional
    collectDefaultList plain
    collectDefaultList keyword

end

def collectAnnotation : Param Expr → Collect Unit
  | ⟨_, _, a, _⟩ => collectOption a

def collectAnnotations (ps : Params Expr) : Collect Unit := do
  ps.positional.forM collectAnnotation
  ps.plain.forM collectAnnotation
  ps.star.forM collectAnnotation
  ps.doubleStar.forM collectAnnotation
  ps.keyword.forM collectAnnotation

mutual

def collectPattern : Pattern → Collect Unit
  | .value _ e => collectExpr e
  | .singleton .. => return
  | .sequence _ ps => collectPatterns ps
  | .mapping p keys ps rest => do
    collectExprs keys
    collectPatterns ps
    rest.forM fun n => add n { «local» := true } p
  | .class _ c ps _ named => do
    collectExpr c
    collectPatterns ps
    collectPatterns named
  | .star p n => n.forM fun n => add n { «local» := true } p
  | .as p pat n => do
    collectOptionPattern pat
    n.forM fun n => add n { «local» := true } p
  | .or _ ps => collectPatterns ps

def collectPatterns : List Pattern → Collect Unit
  | [] => return
  | p :: ps => do
    collectPattern p
    collectPatterns ps

def collectOptionPattern : Option Pattern → Collect Unit
  | none => return
  | some p => collectPattern p

end

/-- The name that an import binds; a wildcard binds none that is known. -/
def collectAlias (a : Alias) : Collect Unit := do
  let name := a.asName.getD a.name
  if name == "*" then
    if (← current).info.kind != .module then
      faultAt a.pos "import * only allowed at module level"
  else
    add (String.ofList (name.toList.takeWhile (· != '.'))) { imported := true } a.pos

def collectItem (i : WithItem) : Collect Unit := do
  collectExpr i.context
  i.target.forM collectExpr

mutual

def collectStmt : Stmt → Collect Unit
  | .function p h body => do
    add h.name { «local» := true } p
    collectDefaults h.params
    inAnnotation p (collectAnnotations h.params)
    h.returns.forM fun r => inAnnotation p (collectExpr r)
    collectExprs h.decorators
    inBlock .function .definition p do
      if h.isAsync then setSuspends
      collectParams h.params
      collectStmts body
  | .class p h body => do
    add h.name { «local» := true } p
    collectExprs h.bases
    collectKeywords h.keywords
    collectExprs h.decorators
    inBlock .class .class p do
      .within (fun s => { s with owner := some h.name }) (collectStmts body)
  | .return _ v => collectOption v
  | .delete _ ts => collectExprs ts
  | .assign _ ts v => do
    collectExprs ts
    collectExpr v
  | .augAssign _ t _ v => do
    collectExpr t
    collectExpr v
  | .annAssign p t a v simple => do
    match t with
    | .name pos id _ =>
      let u ← usageOf id
      if (u.global || u.nonlocal) && simple && (← current).info.kind != .module then
        let word := if u.global then "global" else "nonlocal"
        faultAt p s!"annotated name '{id}' can't be {word}"
      if simple then add id { annotated := true, «local» := true } pos
      else if v.isSome then add id { «local» := true } pos
    | t => collectExpr t
    inAnnotation p (collectExpr a)
    collectOption v
  | .for _ _ t i body orelse => do
    collectExpr t
    collectExpr i
    collectStmts body
    collectStmts orelse
  | .while _ t body orelse => do
    collectExpr t
    collectStmts body
    collectStmts orelse
  | .if _ t body orelse => do
    collectExpr t
    collectStmts body
    collectStmts orelse
  | .with _ _ items body => do
    items.forM collectItem
    collectStmts body
  | .match _ s cases => do
    collectExpr s
    collectCases cases
  | .raise _ e c => do
    collectOption e
    collectOption c
  | .try _ _ body handlers orelse final => do
    collectStmts body
    collectStmts orelse
    collectHandlers handlers
    collectStmts final
  | .assert _ t m => do
    collectExpr t
    collectOption m
  | .import _ names => names.forM collectAlias
  | .importFrom _ _ names _ _ => names.forM collectAlias
  | .global p names => declareAll "global" { global := true } p names
  | .nonlocal p names => do
    declareAll "nonlocal" { nonlocal := true } p names
  | .expr _ e => collectExpr e
  | .pass _ | .break _ | .continue _ => return

def collectStmts : List Stmt → Collect Unit
  | [] => return
  | s :: ss => do
    collectStmt s
    collectStmts ss

def collectHandlers : List (Handler (List Stmt)) → Collect Unit
  | [] => return
  | ⟨p, t, n, body⟩ :: hs => do
    collectOption t
    n.forM fun n => add n { «local» := true } p
    collectStmts body
    collectHandlers hs

def collectCases : List (MatchCase (List Stmt)) → Collect Unit
  | [] => return
  | ⟨p, g, body⟩ :: cs => do
    collectPattern p
    collectOption g
    collectStmts body
    collectCases cs

end

def collect (deferred : Bool) (body : List Stmt) : Except Fault Block := do
  let start : Open := { info := { kind := .module, opener := .text, pos := ⟨1, 0⟩ } }
  let (_, stack) ← (collectStmts body).run { deferred } [start]
  match stack with
  | o :: _ => return .mk o.info o.inner
  | [] => return .mk start.info []

end Notebook.Scope
