import Notebook.Code.Gen
import Notebook.Tree.Printer

set_option autoImplicit false

namespace Notebook.Code

open Notebook.Source Notebook.Tree Notebook.Scope

def atTopAwait : Gen Bool := do
  let s ← read
  return s.topAwait && s.kind == .module

def requireAsync (what : String) : Gen PUnit := do
  if !(← atTopAwait) && (← read).kind != .asyncFunction then
    fault s!"'{what}' outside async function"

def checkKeywords : List (Keyword Expr) → Gen PUnit
  | [] => return
  | k :: ks => do
    match k.name with
    | none => return ← checkKeywords ks
    | some n =>
      forbidName n .store
      match ks.find? (·.name == some n) with
      | some other =>
        setPlace other.pos
        fault s!"keyword argument repeated: {n}"
      | none => checkKeywords ks

def checkParams (ps : Params Expr) : Gen PUnit := do
  ps.positional.forM fun p => forbidName p.name .store
  ps.plain.forM fun p => forbidName p.name .store
  ps.star.forM fun p => forbidName p.name .store
  ps.keyword.forM fun p => forbidName p.name .store
  ps.doubleStar.forM fun p => forbidName p.name .store

def isStarred : Expr → Bool
  | .starred .. => true
  | _ => false

def unpackTargets (before : Nat) : List Expr → Gen PUnit
  | [] => emit (.unpack before)
  | .starred .. :: rest => do
    if rest.any isStarred then fault "multiple starred expressions in assignment"
    emit (.unpackRest before rest.length)
  | _ :: rest => unpackTargets (before + 1) rest

inductive Collection where
  | list
  | tuple
  | set
deriving DecidableEq

def Collection.build (n : Nat) : Collection → Instr
  | .list => .buildList n
  | .tuple => .buildTuple n
  | .set => .buildSet n

def paramNames (owner : Option String) (ps : Params Expr) : List String :=
  (ps.positional ++ ps.plain ++ ps.keyword ++ ps.star.toList ++ ps.doubleStar.toList).map
    fun p => mangle owner p.name

def headingOf (name : String) (isNamed : Bool) (kind : UnitKind) (line : Nat) (doc : Option String)
    (ps : Params Expr) : Heading :=
  { name, isNamed, kind, firstLine := line, doc
    positionalOnly := ps.positional.length
    positional := ps.positional.length + ps.plain.length
    keywordOnly := ps.keyword.length
    hasStar := ps.star.isSome, hasDoubleStar := ps.doubleStar.isSome }

def defaultCount (ps : Params Expr) : Nat :=
  ((ps.positional ++ ps.plain).filter (·.default.isSome)).length

def keywordDefaultNames (owner : Option String) (ps : Params Expr) : List String :=
  (ps.keyword.filter (·.default.isSome)).map fun p => mangle owner p.name

def compName : CompKind → String
  | .list => "<listcomp>"
  | .set => "<setcomp>"
  | .generator => "<genexpr>"

def compOpener : CompKind → Opener
  | .list => .list
  | .set => .set
  | .generator => .generator

def compHeading (name : String) (line : Nat) : Heading :=
  { name, isNamed := false, kind := .comprehension, firstLine := line, positional := 1 }

def checkComprehension (outer : UnitKind) (topAwait : Bool) : Gen PUnit := do
  if (← read).scope.info.suspends && outer != .asyncFunction && outer != .comprehension
      && !topAwait then
    fault "asynchronous comprehension outside of an asynchronous function"

/-- Whether arguments are few enough, and plain enough, for a method to be called without being
bound first. -/
def isDirectCall (as : List Expr) (ks : List (Keyword Expr)) : Bool :=
  !as.any isStarred && !ks.any (·.name.isNone)
    && as.length + ks.length + (if ks.isEmpty then 0 else 1) < 30

def setCallPlace (p : Pos) (f : Expr) (as : List Expr) (ks : List (Keyword Expr)) : Gen PUnit := do
  setPlace p
  match f with
  | .attribute _ _ _ q _ => if isDirectCall as ks then setAttrPlace p q
  | _ => return

/-- A call whose callee and `given` arguments are on the stack, from the code of the other
arguments: spread or in a row. `atCall` sets the place of the call. -/
def genCall (given : Nat) (as : List Expr) (ks : List (Keyword Expr))
    (spread row keywords spreadKeywords : Gen PUnit) (atCall : Gen PUnit := pure ()) :
    Gen PUnit := do
  if as.any isStarred || ks.any (·.name.isNone) then
    spread
    if ks.isEmpty then emit (.callSpread false)
    else
      spreadKeywords
      emit (.callSpread true)
  else
    row
    keywords
    atCall
    emit (.call (given + as.length + ks.length) (ks.filterMap (·.name)))

/-- What the value of an expression is wanted for: itself, or a jump to a label if its truth is
`cond`. -/
inductive Wanted where
  | value
  | jump (next : Nat) (cond : Bool)

def gives (w : Wanted) (p : Pos) (body : Gen PUnit) : Gen PUnit := do
  atPlace p body
  match w with
  | .value => return
  | .jump next cond => emit (if cond then .jumpIfTrue next else .jumpIfFalse next)

def placedFor (w : Wanted) (p : Pos) (body : Gen PUnit) : Gen PUnit :=
  match w with
  | .value => atPlace p body
  | .jump .. => body

def isLone : List Expr → Bool
  | [.starred ..] => true
  | _ => false

mutual

def genFor (w : Wanted) : Expr → Gen PUnit
  | .boolOp p op vs =>
    match w with
    | .value => atPlace p do
      let done ← newLabel
      genBool op done vs
      placeLabel done
    | .jump next cond => do
      let cond2 := op == .or
      if cond2 == cond then genConds next cond2 next cond vs
      else
        let next2 ← newLabel
        genConds next2 cond2 next cond vs
        placeLabel next2
  | .named p t v => gives w p do
    genFor .value v
    emit (.copy 1)
    genFor .value t
  | .binOp p l op r => gives w p do
    genFor .value l
    genFor .value r
    emit (.binary op)
  | .unaryOp p op e =>
    match w, op with
    | .jump next cond, .not => genFor (.jump next (!cond)) e
    | w, op => gives w p do
      genFor .value e
      emit (.unary op)
  | .lambda p ps b => gives w p do
    checkParams ps
    genDefaults ps
    let s ← read
    let scope := s.scope.find .lambda p
    let unit ← inUnit (headingOf "<lambda>" false .lambda p.line none ps) scope s.owner
      (paramNames s.owner ps) do
        genFor .value b
        emit .return
    emit (.makeFunction unit (defaultCount ps) (keywordDefaultNames s.owner ps) []
      (← capturesOf scope))
  | .ifElse p t b o => placedFor w p do
    let next ← newLabel
    let done ← newLabel
    genFor (.jump next false) t
    genFor w b
    emit (.jump done)
    placeLabel next
    genFor w o
    placeLabel done
  | .dict p es => gives w p (genEntries 0 false es)
  | .set p es => gives w p (genElts .set false 0 es)
  | .comp p kind e cs => gives w p do
    let s ← read
    let top ← atTopAwait
    let scope := s.scope.find (compOpener kind) p
    let unit ← inUnit (compHeading (compName kind) p.line) scope s.owner [".0"] do
      setPlace p
      match kind with
      | .generator =>
        genClauses true 0 (fun _ => do
          genFor .value e
          emit .yield
          emit .pop) cs
        emit (.const .none)
      | .list =>
        checkComprehension s.kind top
        emit (.buildList 0)
        genClauses true 0 (fun depth => do
          genFor .value e
          emit (.listAppend (depth + 1))) cs
      | .set =>
        checkComprehension s.kind top
        emit (.buildSet 0)
        genClauses true 0 (fun depth => do
          genFor .value e
          emit (.setAdd (depth + 1))) cs
      emit .return
    emit (.makeFunction unit 0 [] [] (← capturesOf scope))
    genFirstIter cs
    emit (.call 1 [])
    if scope.info.suspends && kind != .generator then await
  | .dictComp p k v cs => gives w p do
    let s ← read
    let top ← atTopAwait
    let scope := s.scope.find .dict p
    let unit ← inUnit (compHeading "<dictcomp>" p.line) scope s.owner [".0"] do
      setPlace p
      checkComprehension s.kind top
      emit (.buildDict 0)
      genClauses true 0 (fun depth => do
        genFor .value k
        genFor .value v
        emit (.dictAdd (depth + 1))) cs
      emit .return
    emit (.makeFunction unit 0 [] [] (← capturesOf scope))
    genFirstIter cs
    emit (.call 1 [])
    if scope.info.suspends then await
  | .await p e => gives w p do
    if !(← atTopAwait) then
      let s ← read
      if s.scope.info.kind != .function then fault "'await' outside function"
      if s.kind != .asyncFunction && s.kind != .comprehension then
        fault "'await' outside async function"
    genFor .value e
    await
  | .yield p e => gives w p do
    if (← read).scope.info.kind != .function then fault "'yield' outside function"
    match e with
    | none => emit (.const .none)
    | some e => genFor .value e
    emit .yield
  | .yieldFrom p e => gives w p do
    if (← read).scope.info.kind != .function then fault "'yield' outside function"
    if (← read).kind == .asyncFunction then fault "'yield from' inside async function"
    genFor .value e
    emit .getDelegate
    emit (.const .none)
    emit .delegate
  | .compare p l ops rs =>
    match w, ops.length with
    | .value, 1 => atPlace p do
      genFor .value l
      genChain .pop ops rs
    | .jump next cond, 1 => do
      setPlace p
      genFor .value l
      genChain .pop ops rs
      emit (if cond then .jumpIfTrue next else .jumpIfFalse next)
    | .value, _ => atPlace p do
      genFor .value l
      let cleanup ← newLabel
      let done ← newLabel
      genChain (.jumpIfFalseOrPop cleanup) ops rs
      emit (.jump done)
      placeLabel cleanup
      emit (.swap 2)
      emit .pop
      placeLabel done
    | .jump next cond, _ => do
      setPlace p
      let cleanup ← newLabel
      let done ← newLabel
      genFor .value l
      genChain (.jumpIfFalse cleanup) ops rs
      emit (if cond then .jumpIfTrue next else .jumpIfFalse next)
      emit (.jump done)
      placeLabel cleanup
      emit .pop
      if !cond then emit (.jump next)
      placeLabel done
  | .call p f as ks => gives w p do
    checkKeywords ks
    setPlace p
    genFor .value f
    genCall 0 as ks (if isLone as then genLone as else genElts .tuple false 0 as) (genExprs as)
      (genKeywords ks) (genSpreadKeywords 0 false ks) (setCallPlace p f as ks)
  | .formatted p v c s => gives w p do
    genFor .value v
    match s with
    | none => emit (.format c false)
    | some s =>
      genFor .value s
      emit (.format c true)
  | .joined p vs => gives w p do
    genExprs vs
    if vs.length != 1 then emit (.buildText vs.length)
  | .const p c => gives w p (emit (.const c))
  | .attribute p e attr q ctx => gives w p do
    genFor .value e
    setAttrPlace p q
    let name := mangle (← read).owner attr
    match ctx with
    | .load => emit (.loadAttr name)
    | .store =>
      forbidName attr .store
      emit (.storeAttr name)
    | .del => emit (.deleteAttr name)
  | .subscript p e i ctx => gives w p do
    genFor .value e
    genFor .value i
    match ctx with
    | .load => emit .loadItem
    | .store => emit .storeItem
    | .del => emit .deleteItem
  | .starred p _ ctx => gives w p do
    if ctx == .store then fault "starred assignment target must be in a list or tuple"
    fault "can't use starred expression here"
  | .name p id ctx => gives w p do
    if id == "__debug__" && ctx == .load then emit (.const (.bool true))
    else nameOp id ctx
  | .list p es ctx => gives w p do
    match ctx with
    | .load => genElts .list false 0 es
    | .store => do
      unpackTargets 0 es
      genTargets es
    | .del => genExprs es
  | .tuple p es ctx => gives w p do
    match ctx with
    | .load => genElts .tuple false 0 es
    | .store => do
      unpackTargets 0 es
      genTargets es
    | .del => genExprs es
  | .slice p l u s => gives w p do
    genBound l
    genBound u
    match s with
    | none => emit (.buildSlice false)
    | some s =>
      genFor .value s
      emit (.buildSlice true)

def genExprs : List Expr → Gen PUnit
  | [] => return
  | e :: es => do
    genFor .value e
    genExprs es

def genBound : Option Expr → Gen PUnit
  | none => emit (.const .none)
  | some e => genFor .value e

def genTargets : List Expr → Gen PUnit
  | [] => return
  | .starred _ e _ :: es => do
    genFor .value e
    genTargets es
  | e :: es => do
    genFor .value e
    genTargets es

def genBool (op : BoolOp) (done : Nat) : List Expr → Gen PUnit
  | [] => return
  | [e] => genFor .value e
  | e :: es => do
    genFor .value e
    emit (match op with
      | .and => .jumpIfFalseOrPop done
      | .or => .jumpIfTrueOrPop done)
    genBool op done es

/-- A chain of comparisons after its first operand: `stop` acts on every result but the last. -/
def genChain (stop : Instr) : List CmpOp → List Expr → Gen PUnit
  | [op], [e] => do
    genFor .value e
    emit (.compare op)
  | op :: ops, e :: es => do
    genFor .value e
    emit (.swap 2)
    emit (.copy 2)
    emit (.compare op)
    emit stop
    genChain stop ops es
  | _, _ => return

/-- All but the last of the operands decide by `next2` and `cond2`, the last by `next` and `cond`.
-/
def genConds (next2 : Nat) (cond2 : Bool) (next : Nat) (cond : Bool) : List Expr → Gen PUnit
  | [] => return
  | [e] => genFor (.jump next cond) e
  | e :: es => do
    genFor (.jump next2 cond2) e
    genConds next2 cond2 next cond es

/-- The entries of a dictionary: `count` pairs wait on the stack, `built` tells whether there is a
dictionary below them. -/
def genEntries (count : Nat) (built : Bool) : List (Entry Expr) → Gen PUnit
  | [] => do
    if count > 0 || !built then
      emit (.buildDict count)
      if built then emit (.dictUpdate 1)
  | ⟨none, v⟩ :: es => do
    if count > 0 || !built then
      emit (.buildDict count)
      if built then emit (.dictUpdate 1)
    genFor .value v
    emit (.dictUpdate 1)
    genEntries 0 true es
  | ⟨some k, v⟩ :: es => do
    genFor .value k
    genFor .value v
    genEntries (count + 1) built es

/-- The elements of a collection: `count` wait on the stack unless a collection is `built`. -/
def genElts (kind : Collection) (built : Bool) (count : Nat) : List Expr → Gen PUnit
  | [] => do
    if built then
      if kind == .tuple then emit .listToTuple
    else emit (kind.build count)
  | .starred _ e _ :: es => do
    if !built then emit (if kind == .set then .buildSet count else .buildList count)
    genFor .value e
    emit (if kind == .set then .setUpdate 1 else .listExtend 1)
    genElts kind true 0 es
  | e :: es => do
    genFor .value e
    if built then
      emit (if kind == .set then .setAdd 1 else .listAppend 1)
      genElts kind true 0 es
    else genElts kind false (count + 1) es

def genLone : List Expr → Gen PUnit
  | [.starred _ e _] => genFor .value e
  | _ => return

def genKeywords : List (Keyword Expr) → Gen PUnit
  | [] => return
  | ⟨_, _, v⟩ :: ks => do
    genFor .value v
    genKeywords ks

def genSpreadKeywords (count : Nat) (built : Bool) : List (Keyword Expr) → Gen PUnit
  | [] => do
    if count > 0 || !built then
      emit (.buildDict count)
      if built then emit (.dictMerge 1)
  | ⟨_, none, v⟩ :: ks => do
    if count > 0 || !built then
      emit (.buildDict count)
      if built then emit (.dictMerge 1)
    genFor .value v
    emit (.dictMerge 1)
    genSpreadKeywords 0 true ks
  | ⟨_, some n, v⟩ :: ks => do
    emit (.const (.str n false))
    genFor .value v
    genSpreadKeywords (count + 1) built ks

def genFirstIter : List (Clause Expr) → Gen PUnit
  | [] => return
  | ⟨_, i, _, isAsync⟩ :: _ => do
    genFor .value i
    emit (if isAsync then .getAsyncIter else .getIter)

/-- The clauses of a comprehension around what is done with each element; `depth` iterators are on
the stack. -/
def genClauses (first : Bool) (depth : Nat) (inner : Nat → Gen PUnit) :
    List (Clause Expr) → Gen PUnit
  | [] => inner depth
  | ⟨t, i, ifs, isAsync⟩ :: cs => do
    let start ← newLabel
    let skip ← newLabel
    let done ← newLabel
    if first then emit (.loadFast 0)
    else
      genFor .value i
      emit (if isAsync then .getAsyncIter else .getIter)
    placeLabel start
    if isAsync then
      emit (.setup done)
      emit .getAsyncNext
      emit (.const .none)
      emit .delegate
      emit .endRegion
    else emit (.forIter done)
    genFor .value t
    genConditions skip ifs
    genClauses false (depth + 1) inner cs
    placeLabel skip
    emit (.jump start)
    placeLabel done
    if isAsync then emit .endAsyncFor

def genConditions (skip : Nat) : List Expr → Gen PUnit
  | [] => return
  | e :: es => do
    genFor (.jump skip false) e
    genConditions skip es

def genDefaultList : List (Param Expr) → Gen PUnit
  | [] => return
  | ⟨_, _, _, none⟩ :: ps => genDefaultList ps
  | ⟨_, _, _, some d⟩ :: ps => do
    genFor .value d
    genDefaultList ps

def genDefaults : Params Expr → Gen PUnit
  | ⟨positional, plain, _, keyword, _⟩ => do
    genDefaultList positional
    genDefaultList plain
    genDefaultList keyword

end

def genExpr (e : Expr) : Gen PUnit := genFor .value e

def genCond (next : Nat) (cond : Bool) (e : Expr) : Gen PUnit := genFor (.jump next cond) e

/-- An annotation, as a value or, when annotations are deferred, as its text. -/
def genHint (e : Expr) : Gen PUnit := do
  if (← read).deferred then
    atPlace e.pos (emit (.const (.str (match e.print with
      | .ok s => s
      | .error _ => "") false)))
  else
    match e with
    | .starred _ v _ =>
      genExpr v
      emit (.unpack 1)
    | e => genExpr e

end Notebook.Code
