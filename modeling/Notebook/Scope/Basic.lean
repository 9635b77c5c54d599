import Notebook.Tree.Stmt

set_option autoImplicit false

namespace Notebook.Scope

open Notebook.Source Notebook.Tree

/-- The kinds of blocks. An annotation whose evaluation is deferred is a block without effect. -/
inductive BlockKind where
  | module
  | «class»
  | function
  | deferred
deriving DecidableEq, Repr

inductive Opener where
  | text
  | definition
  | «class»
  | lambda
  | list
  | set
  | dict
  | generator
deriving DecidableEq, Repr

def Opener.isComprehension : Opener → Bool
  | .list | .set | .dict | .generator => true
  | _ => false

structure Usage where
  global : Bool := false
  «local» : Bool := false
  param : Bool := false
  nonlocal : Bool := false
  read : Bool := false
  imported : Bool := false
  annotated : Bool := false
  iteration : Bool := false
deriving DecidableEq, Repr

def Usage.join (a b : Usage) : Usage where
  global := a.global || b.global
  «local» := a.local || b.local
  param := a.param || b.param
  nonlocal := a.nonlocal || b.nonlocal
  read := a.read || b.read
  imported := a.imported || b.imported
  annotated := a.annotated || b.annotated
  iteration := a.iteration || b.iteration

/-- Whether the block itself binds the name. -/
def Usage.binds (u : Usage) : Bool := u.local || u.param || u.imported

def Usage.isAssigned (u : Usage) : Bool := u.local || u.param

def Usage.isDeclared (u : Usage) : Bool := u.global || u.nonlocal

theorem Usage.isAssigned_join (u v : Usage) :
    (u.join v).isAssigned = (u.isAssigned || v.isAssigned) := by
  cases u; cases v
  simp only [isAssigned, join, Bool.or_assoc, Bool.or_left_comm]

theorem Usage.isDeclared_join (u v : Usage) :
    (u.join v).isDeclared = (u.isDeclared || v.isDeclared) := by
  cases u; cases v
  simp only [isDeclared, join, Bool.or_assoc, Bool.or_left_comm]

structure Info where
  kind : BlockKind
  opener : Opener
  pos : Pos
  /-- Names in the order in which they first occur. -/
  usages : List (String × Usage) := []
  params : List String := []
  /-- Names declared global or nonlocal, with the place of the declaration. -/
  directives : List (String × Pos) := []
  yields : Bool := false
  suspends : Bool := false
deriving Repr

inductive Block where
  | mk (info : Info) (inner : List Block)

def Info.usage (i : Info) (name : String) : Usage := (i.usages.lookup name).getD {}

def addUsage (name : String) (u : Usage) : List (String × Usage) → List (String × Usage)
  | [] => [(name, u)]
  | (n, v) :: rest => if n == name then (n, v.join u) :: rest else (n, v) :: addUsage name u rest

theorem lookup_addUsage (name : String) (u : Usage) (usages : List (String × Usage)) (n : String) :
    ((addUsage name u usages).lookup n).getD {} =
      if n = name then ((usages.lookup n).getD {}).join u else (usages.lookup n).getD {} := by
  induction usages with
  | nil =>
    by_cases h : n = name
    · simp [addUsage, h, Usage.join]
    · simp [addUsage, List.lookup_cons, h, beq_false_of_ne h]
  | cons entry rest ih =>
    obtain ⟨m, v⟩ := entry
    by_cases h : n = m
    · subst h
      by_cases hn : n = name
      · simp [addUsage, hn]
      · simp [addUsage, hn]
    · have apart (v : Usage) (es : List (String × Usage)) : ((m, v) :: es).lookup n = es.lookup n := by
        simp [List.lookup_cons, beq_false_of_ne h]
      by_cases hm : m = name
      · rw [if_neg (hm ▸ h)]
        simp [addUsage, hm, hm ▸ apart]
      · simp [addUsage, hm, apart, ih]

theorem mem_addUsage {name n : String} {u : Usage} {usages : List (String × Usage)}
    (h : n ∈ (addUsage name u usages).map (·.1)) : n = name ∨ n ∈ usages.map (·.1) := by
  induction usages with
  | nil => exact .inl (by simpa [addUsage] using h)
  | cons entry rest ih =>
    obtain ⟨m, v⟩ := entry
    unfold addUsage at h
    split at h
    · exact .inr h
    · rcases List.mem_cons.mp h with rfl | h
      · exact .inr List.mem_cons_self
      · exact (ih h).imp_right (List.mem_cons_of_mem _)

theorem nodup_addUsage (name : String) (u : Usage) {usages : List (String × Usage)}
    (h : (usages.map (·.1)).Nodup) : ((addUsage name u usages).map (·.1)).Nodup := by
  induction usages with
  | nil => simp [addUsage]
  | cons entry rest ih =>
    obtain ⟨m, v⟩ := entry
    unfold addUsage
    split
    next => exact h
    next other =>
      obtain ⟨fresh, rest⟩ := List.nodup_cons.mp h
      refine List.nodup_cons.mpr ⟨fun mem => ?_, ih rest⟩
      rcases mem_addUsage mem with same | mem
      · exact other (beq_iff_eq.mpr same)
      · exact fresh mem

/-- A private name is kept apart by the name of the class that mentions it: two leading underscores
without two at the end. -/
def mangle (owner : Option String) (name : String) : String :=
  match owner with
  | none => name
  | some cls =>
    let cs := name.toList
    if cs.take 2 != ['_', '_'] || cs.reverse.take 2 == ['_', '_'] || cs.contains '.' then name
    else
      let stem := cls.toList.dropWhile (· == '_')
      if stem.isEmpty then name else String.ofList ('_' :: stem ++ cs)

inductive Binding where
  | local
  /-- Local, and shared with a block inside. -/
  | cell
  /-- Bound by a block around. -/
  | free
  | globalDeclared
  | global
deriving DecidableEq, Repr

inductive Resolved where
  | mk (info : Info) (bindings : List (String × Binding)) (closure : List String) (needsClass : Bool)
      (inner : List Resolved)

namespace Resolved

def info : Resolved → Info
  | .mk i .. => i

def bindings : Resolved → List (String × Binding)
  | .mk _ b .. => b

/-- The variables that the block takes from the blocks around it, for itself or for those inside. -/
def closure : Resolved → List String
  | .mk _ _ c .. => c

def needsClass : Resolved → Bool
  | .mk _ _ _ n _ => n

def inner : Resolved → List Resolved
  | .mk _ _ _ _ r => r

def binding (r : Resolved) (name : String) : Binding := (r.bindings.lookup name).getD .global

/-- The block that a node opens. -/
def find (r : Resolved) (opener : Opener) (pos : Pos) : Resolved :=
  (r.inner.find? fun b => b.info.opener == opener && b.info.pos == pos).getD
    (.mk { kind := .function, opener, pos } [] [] false [])

def names (r : Resolved) (b : Binding) : List String :=
  (r.bindings.filter (·.2 == b)).map (·.1)

end Resolved

end Notebook.Scope
