import Notebook.Code.Pattern

set_option autoImplicit false

namespace Notebook.Code

open Notebook.Source Notebook.Tree Notebook.Scope

def genDecorated : List Expr → Gen PUnit
  | [] => return
  | d :: ds => do
    genDecorated ds
    atPlace d.pos (emit (.call 1 []))

def docOf : List Stmt → Option String
  | .expr _ (.const _ (.str s _)) :: _ => some s
  | _ => none

def genArgs (given : Nat) (as : List Expr) (ks : List (Keyword Expr)) : Gen PUnit :=
  genCall given as ks (genElts .tuple false given as) (genExprs as) (genKeywords ks)
    (genSpreadKeywords 0 false ks)

/-- The annotations of a function in the order in which they are evaluated. -/
def annotations (h : FunctionHead) : List (String × Expr) :=
  let ofParam : Param Expr → List (String × Expr)
    | ⟨_, n, some a, _⟩ => [(n, a)]
    | _ => []
  h.params.plain.flatMap ofParam ++ h.params.positional.flatMap ofParam
    ++ h.params.star.toList.flatMap ofParam ++ h.params.keyword.flatMap ofParam
    ++ h.params.doubleStar.toList.flatMap ofParam ++ (h.returns.map (("return", ·))).toList

def genImport (a : Alias) : Gen PUnit := do
  emit (.importModule a.name 0 [])
  let parts := Text.dottedParts a.name
  match a.asName with
  | none => nameOp (parts.headD a.name) .store
  | some n =>
    parts.tail.forM fun part => do
      emit (.importName part)
      emit (.swap 2)
      emit .pop
    nameOp n .store

def genImportFrom (module : String) (level : Nat) (names : List Alias) : Gen PUnit := do
  emit (.importModule module level (names.map (·.name)))
  if (names.map (·.name)) == ["*"] then
    emit .importAll
    return
  names.forM fun a => do
    emit (.importName a.name)
    nameOp (a.asName.getD a.name) .store
  emit .pop

def genUpdateLoad : Expr → Gen PUnit
  | .attribute p e attr q _ => atPlace p do
    genExpr e
    emit (.copy 1)
    setAttrPlace p q
    emit (.loadAttr (mangle (← read).owner attr))
  | .subscript p e i _ => atPlace p do
    genExpr e
    genExpr i
    emit (.copy 2)
    emit (.copy 2)
    emit .loadItem
  | .name p id _ => atPlace p (nameOp id .load)
  | _ => return

def genUpdateStore : Expr → Gen PUnit
  | .attribute p _ attr q _ => do
    setPlace p
    setAttrPlace p q
    forbidName attr .store
    emit (.swap 2)
    emit (.storeAttr (mangle (← read).owner attr))
  | .subscript p _ _ _ => do
    setPlace p
    emit (.swap 3)
    emit (.swap 2)
    emit .storeItem
  | .name p id _ => do
    setPlace p
    nameOp id .store
  | _ => return

def genDiscarded (e : Expr) : Gen PUnit := do
  genExpr e
  emit .pop

def genUnassigned : Expr → Gen PUnit
  | .attribute _ e _ _ _ => genDiscarded e
  | .subscript _ e i _ => do
    genDiscarded e
    genDiscarded i
  | _ => return

def evaluatesAnnotations : Gen Bool := do
  let k := (← read).kind
  return k == .module || k == .class

def storeNone (n : String) : Gen PUnit := do
  emit (.const .none)
  nameOp n .store
  nameOp n .del

/-- The end of a handler region: the exception handled before is handled again, and the one that
came up goes on. -/
def genCleanup (l : Nat) : Gen PUnit := do
  placeLabel l
  emit (.swap 2)
  emit .leaveHandler
  emit .reraise

def genItems (isAsync : Bool) (pos : Pos) (body : List Region → Gen PUnit) :
    List Region → List WithItem → Gen PUnit
  | rs, [] => body rs
  | rs, item :: items => do
    let handler ← newLabel
    let suppress ← newLabel
    let cleanup ← newLabel
    let done ← newLabel
    genExpr item.context
    if isAsync then
      emit .enterAsyncWith
      await
    else emit .enterWith
    emit (.setupBelow handler)
    let inner ← enter (.with isAsync pos) rs
    match item.target with
    | some t => genExpr t
    | none => emit .pop
    genItems isAsync pos body inner items
    emit .endRegion
    setPlace pos
    emit .callExit
    if isAsync then await
    emit .pop
    emit (.jump done)
    placeLabel handler
    emit (.setup cleanup)
    emit .enterHandler
    emit .exitWithException
    if isAsync then await
    emit (.jumpIfTrue suppress)
    emit .reraise
    placeLabel suppress
    emit .pop
    emit .endRegion
    emit .leaveHandler
    emit .pop
    emit (.jump done)
    genCleanup cleanup
    placeLabel done

def bindCaptures (cs : Captures) : Gen PUnit :=
  cs.forM fun (n, slot) => do
    emit (.loadFast slot)
    nameOp n .store

/-- A body with its handlers, from the code of its parts inside of given regions. -/
def genTry (rs : List Region) (isStar : Bool) (body orelse : List Region → Gen PUnit)
    (handlers : List Region → Nat → Gen PUnit) : Gen PUnit := do
  let handler ← newLabel
  let cleanup ← newLabel
  let done ← newLabel
  emit (.setup handler)
  let inner ← enter .tryBody rs
  body inner
  emit .endRegion
  orelse rs
  emit (.jump done)
  placeLabel handler
  emit (.setup cleanup)
  emit .enterHandler
  let inner ← enter (if isStar then .groupHandlers else .handlers) rs
  handlers inner done
  emit .reraise
  genCleanup cleanup
  placeLabel done

/-- The code of the handlers of a group around that of each: the exception stays on the stack, above
it a list of those that are raised afterwards, and above that what no handler has taken yet. -/
def genGroup (done : Nat) (clauses : Gen PUnit) : Gen PUnit := do
  emit (.copy 1)
  emit (.buildList 0)
  emit (.swap 2)
  clauses
  let failed ← newLabel
  emit (.listAppend 1)
  emit .mergeGroup
  emit (.copy 1)
  emit (.const .none)
  emit (.compare .is)
  emit (.jumpIfFalse failed)
  emit .pop
  emit .endRegion
  emit .leaveHandler
  emit (.jump done)
  placeLabel failed

mutual

def genStmt (rs : List Region) : Stmt → Gen PUnit
  | .function p h body => do
    setPlace p
    checkParams h.params
    genExprs h.decorators
    let line := match h.decorators with
      | d :: _ => d.pos.line
      | [] => p.line
    genDefaults h.params
    let notes := annotations h
    notes.forM fun (_, e) => genHint e
    let s ← read
    let scope := s.scope.find .definition p
    let doc := docOf body
    let unit ← inUnit (headingOf h.name true (if h.isAsync then .asyncFunction else .function) line
        doc h.params) scope s.owner (paramNames s.owner h.params) do
      genBody doc.isSome body
      emit (.const .none)
      emit .return
    emit (.makeFunction unit (defaultCount h.params) (keywordDefaultNames s.owner h.params)
      (notes.map fun (n, _) => mangle s.owner n) (← capturesOf scope))
    genDecorated h.decorators
    nameOp h.name .store
  | .class p h body => do
    setPlace p
    genExprs h.decorators
    let line := match h.decorators with
      | d :: _ => d.pos.line
      | [] => p.line
    let s ← read
    let scope := s.scope.find .class p
    let doc := docOf body
    emit .loadBuildClass
    let qualifiedName := innerName s h.name true
    let heading : Heading := { name := h.name, isNamed := true, kind := .class, firstLine := line }
    let unit ← inUnit heading scope (some h.name) [] do
      emit (.loadName "__name__")
      emit (.storeName "__module__")
      emit (.const (.str qualifiedName false))
      emit (.storeName "__qualname__")
      match doc with
      | some d =>
        emit (.const (.str d false))
        emit (.storeName "__doc__")
      | none => pure ()
      genBody doc.isSome body
      if scope.needsClass then emit (.captureClass (cellIndex scope "__class__"))
      else emit (.const .none)
      emit .return
    emit (.makeFunction unit 0 [] [] (← capturesOf scope))
    emit (.const (.str h.name false))
    checkKeywords h.keywords
    setPlace p
    genArgs 2 h.bases h.keywords
    genDecorated h.decorators
    nameOp h.name .store
  | .return p v => do
    setPlace p
    let i := (← read).scope.info
    if i.kind != .function then fault "'return' outside function"
    if v.isSome && i.yields && i.suspends then fault "'return' with value in async generator"
    match v with
    | none =>
      leaveAll false rs
      emit (.const .none)
    | some (.const _ c) =>
      leaveAll false rs
      emit (.const c)
    | some e =>
      genExpr e
      leaveAll true rs
    emit .return
  | .delete p ts => do
    setPlace p
    genExprs ts
  | .assign p ts v => do
    setPlace p
    genExpr v
    genTargetsInTurn ts
  | .augAssign p t op v => do
    setPlace p
    genUpdateLoad t
    genExpr v
    emit (.update op)
    genUpdateStore t
  | .annAssign p t a v simple => do
    setPlace p
    match v with
    | some v =>
      genExpr v
      genExpr t
    | none => pure ()
    match t with
    | .name _ id _ =>
      forbidName id .store
      if simple && (← evaluatesAnnotations) then
        genHint a
        emit (.storeHint (mangle (← read).owner id))
    | .attribute _ _ attr _ _ =>
      forbidName attr .store
      if v.isNone then genUnassigned t
    | t => if v.isNone then genUnassigned t
    if !simple && (← evaluatesAnnotations) && !(← read).deferred then genDiscarded a
  | .for p isAsync t i body orelse => do
    setPlace p
    let start ← newLabel
    let cleanup ← newLabel
    let done ← newLabel
    if isAsync then
      requireAsync "async for"
      genExpr i
      emit .getAsyncIter
      placeLabel start
      let inner ← enter (.forLoop start done) rs
      emit (.setup cleanup)
      emit .getAsyncNext
      emit (.const .none)
      emit .delegate
      emit .endRegion
      genExpr t
      genStmts inner body
      emit (.jump start)
      placeLabel cleanup
      emit .endAsyncFor
    else
      let inner ← enter (.forLoop start done) rs
      genExpr i
      emit .getIter
      placeLabel start
      emit (.forIter cleanup)
      genExpr t
      genStmts inner body
      emit (.jump start)
      placeLabel cleanup
    genStmts rs orelse
    placeLabel done
  | .while p t body orelse => do
    setPlace p
    let start ← newLabel
    let cleanup ← newLabel
    let done ← newLabel
    placeLabel start
    let inner ← enter (.whileLoop start done) rs
    genCond cleanup false t
    genStmts inner body
    emit (.jump start)
    placeLabel cleanup
    genStmts rs orelse
    placeLabel done
  | .if p t body orelse => do
    setPlace p
    let next ← newLabel
    let done ← newLabel
    genCond next false t
    genStmts rs body
    emit (.jump done)
    placeLabel next
    genStmts rs orelse
    placeLabel done
  | .with p isAsync items body => do
    setPlace p
    if isAsync then requireAsync "async with"
    genItems isAsync p (fun inner => genStmts inner body) rs items
  | .match p subject cases => do
    setPlace p
    genExpr subject
    let slot ← newSlot
    emit (.storeFast slot)
    let done ← newLabel
    genCases rs slot done (cases.length > 1) cases
    placeLabel done
  | .raise p e c => do
    setPlace p
    match e with
    | none => emit (.raise 0)
    | some e =>
      genExpr e
      match c with
      | none => emit (.raise 1)
      | some c =>
        genExpr c
        emit (.raise 2)
  | .try p isStar body handlers orelse final => do
    setPlace p
    if final.isEmpty then
      genTry rs isStar (fun r => genStmts r body) (fun r => genStmts r orelse)
        (fun r done =>
          if isStar then genGroup done (genGroupClauses r handlers) else genHandlers r done handlers)
    else
      let handler ← newLabel
      let cleanup ← newLabel
      let done ← newLabel
      emit (.setup handler)
      let inner ← enter (.finallyBody fun keep => do
        let rs ← if keep then enter .pendingValue rs else pure rs
        genStmts rs final) rs
      if handlers.isEmpty then genStmts inner body
      else
        genTry inner isStar (fun r => genStmts r body) (fun r => genStmts r orelse)
          (fun r done =>
            if isStar then genGroup done (genGroupClauses r handlers) else genHandlers r done handlers)
      emit .endRegion
      genStmts rs final
      emit (.jump done)
      placeLabel handler
      emit (.setup cleanup)
      emit .enterHandler
      let inner ← enter .finallyEnd rs
      genStmts inner final
      emit .reraise
      genCleanup cleanup
      placeLabel done
  | .assert p t m => do
    setPlace p
    let done ← newLabel
    genCond done true t
    emit .loadAssertionError
    match m with
    | some m =>
      genExpr m
      emit (.call 1 [])
    | none => pure ()
    emit (.raise 1)
    placeLabel done
  | .import p names => do
    setPlace p
    names.forM genImport
  | .importFrom p module names level _ => do
    setPlace p
    if module == some "__future__" then
      let isLate : Bool := match (← read).featureLine with
        | some l => l < p.line
        | none => true
      if isLate then
        fault "from __future__ imports must occur at the beginning of the file"
    genImportFrom (module.getD "") level names
  | .global .. | .nonlocal .. => return
  | .expr p e => do
    setPlace p
    match e with
    | .const .. => return
    | e => genDiscarded e
  | .pass p => setPlace p
  | .break p => do
    setPlace p
    match ← leaveToLoop rs with
    | none =>
      setPlace p
      fault "'break' outside loop"
    | some loop =>
      leave false loop
      match loop with
      | .whileLoop _ e | .forLoop _ e => emit (.jump e)
      | _ => return
  | .continue p => do
    setPlace p
    match ← leaveToLoop rs with
    | none =>
      setPlace p
      fault "'continue' not properly in loop"
    | some (.whileLoop a _) | some (.forLoop a _) => emit (.jump a)
    | _ => return

def genStmts (rs : List Region) : List Stmt → Gen PUnit
  | [] => return
  | s :: ss => do
    genStmt rs s
    genStmts rs ss

def genBody (documented : Bool) : List Stmt → Gen PUnit
  | [] => return
  | s :: ss => do
    if !documented then genStmt [] s
    genStmts [] ss

def genTargetsInTurn : List Expr → Gen PUnit
  | [] => emit .pop
  | [t] => genExpr t
  | t :: ts => do
    emit (.copy 1)
    genExpr t
    genTargetsInTurn ts

def genHandlers (rs : List Region) (done : Nat) : List (Handler (List Stmt)) → Gen PUnit
  | [] => return
  | ⟨p, t, n, body⟩ :: hs => do
    setPlace p
    if t.isNone && !hs.isEmpty then fault "default 'except:' must be last"
    let next ← newLabel
    match t with
    | some t =>
      genExpr t
      emit .matchException
      emit (.jumpIfFalse next)
    | none => pure ()
    match n with
    | some name =>
      let failed ← newLabel
      nameOp name .store
      emit (.setup failed)
      let inner ← enter (.handler (some name)) rs
      genStmts inner body
      emit .endRegion
      emit .endRegion
      emit .leaveHandler
      storeNone name
      emit (.jump done)
      placeLabel failed
      storeNone name
      emit .reraise
    | none =>
      emit .pop
      let inner ← enter (.handler none) rs
      genStmts inner body
      emit .endRegion
      emit .leaveHandler
      emit (.jump done)
    placeLabel next
    genHandlers rs done hs

def genGroupClauses (rs : List Region) : List (Handler (List Stmt)) → Gen PUnit
  | [] => return
  | ⟨p, t, n, body⟩ :: hs => do
    setPlace p
    let next ← newLabel
    let failed ← newLabel
    let after ← newLabel
    match t with
    | some t => genExpr t
    | none => pure ()
    emit .matchGroup
    emit (.jumpIfFalse next)
    match n with
    | some name => nameOp name .store
    | none => emit .pop
    emit (.setup failed)
    let inner ← enter (.handler n) rs
    genStmts inner body
    emit .endRegion
    match n with
    | some name => storeNone name
    | none => pure ()
    emit (.jump after)
    placeLabel failed
    match n with
    | some name => storeNone name
    | none => pure ()
    emit (.listAppend 2)
    emit (.jump after)
    placeLabel next
    emit .pop
    placeLabel after
    genGroupClauses rs hs

/-- The cases of a match in turn; a pattern that matches everything stands last unless it is
guarded. -/
def genCases (rs : List Region) (slot done : Nat) (several : Bool) :
    List (MatchCase (List Stmt)) → Gen PUnit
  | [] => return
  | ⟨p, guard, body⟩ :: cs => do
    setPlace p.pos
    let fail ← newLabel
    if cs.isEmpty && several && isWildcard p then
      match guard with
      | some g => genCond fail false g
      | none => pure ()
    else
      let captures ← genPattern (guard.isSome || cs.isEmpty) slot fail [] p
      bindCaptures captures
      match guard with
      | some g => genCond fail false g
      | none => pure ()
    genStmts rs body
    emit (.jump done)
    setPlace p.pos
    placeLabel fail
    genCases rs slot done several cs

end

end Notebook.Code
