import Notebook.Tree.Expr

set_option autoImplicit false

namespace Notebook.Code

open Notebook.Source Notebook.Tree

/-- Instructions. Depths count from the top of the stack, which is 1. A target is a position in the
unit once the unit is finished, and a label before. -/
inductive Instr where
  | const (c : Constant)
  | pop
  /-- Pushes the value at a depth once more. -/
  | copy (depth : Nat)
  /-- Exchanges the top with the value at a depth. -/
  | swap (depth : Nat)
  | loadFast (slot : Nat)
  | storeFast (slot : Nat)
  | deleteFast (slot : Nat)
  | loadCell (cell : Nat)
  | storeCell (cell : Nat)
  | deleteCell (cell : Nat)
  /-- Reads a name of a class body that is bound around the class. -/
  | loadClassCell (cell : Nat) (name : String)
  | loadName (name : String)
  | storeName (name : String)
  | deleteName (name : String)
  | loadGlobal (name : String)
  | storeGlobal (name : String)
  | deleteGlobal (name : String)
  | loadAttr (name : String)
  | storeAttr (name : String)
  | deleteAttr (name : String)
  | loadItem
  | storeItem
  | deleteItem
  | binary (op : BinOp)
  | update (op : BinOp)
  | unary (op : UnaryOp)
  | compare (op : CmpOp)
  | buildTuple (n : Nat)
  | buildList (n : Nat)
  | buildSet (n : Nat)
  | buildDict (n : Nat)
  | buildText (n : Nat)
  | buildSlice (hasStep : Bool)
  | listAppend (depth : Nat)
  | listExtend (depth : Nat)
  | listToTuple
  | setAdd (depth : Nat)
  | setUpdate (depth : Nat)
  | dictAdd (depth : Nat)
  | dictUpdate (depth : Nat)
  /-- Adds keyword arguments, which may not repeat; the callee stands below the arguments. -/
  | dictMerge (depth : Nat)
  | format (conversion : Option Char) (hasSpec : Bool)
  | jump (target : Nat)
  | jumpIfFalse (target : Nat)
  | jumpIfTrue (target : Nat)
  | jumpIfFalseOrPop (target : Nat)
  | jumpIfTrueOrPop (target : Nat)
  | getIter
  | forIter (target : Nat)
  /-- Calls with the arguments on the stack, the last ones by keyword. -/
  | call (count : Nat) (keywords : List String)
  /-- Calls with a sequence of arguments and perhaps a mapping of keyword arguments. -/
  | callSpread (hasKeywords : Bool)
  | makeFunction (unit : Nat) (defaults : Nat) (keywordDefaults : List String)
      (annotated : List String) (captures : List Nat)
  | loadBuildClass
  | storeHint (name : String)
  | captureClass (cell : Nat)
  | loadAssertionError
  | return
  | raise (count : Nat)
  /-- Opens a region whose exceptions are handled at a target, with the stack as it is now. -/
  | setup (target : Nat)
  /-- The same, with the stack as it is below the top. -/
  | setupBelow (target : Nat)
  | endRegion
  /-- Makes the exception on the top the handled one and keeps the one before below it. -/
  | enterHandler
  /-- Makes the exception on the top the handled one again. -/
  | leaveHandler
  | reraise
  | matchException
  /-- Takes the part of the exceptions below the top that handlers of classes on the top take;
  leaves the rest, the part, and whether there is one. -/
  | matchGroup
  /-- Merges the exceptions that handlers of a group left with the group below them. -/
  | mergeGroup
  | enterWith
  | enterAsyncWith
  | callExit
  | exitWithException
  | getAwaitable
  | getDelegate
  | getAsyncIter
  | getAsyncNext
  | endAsyncFor
  | yield
  /-- Sends the top to the generator below it until that one returns. -/
  | delegate
  | unpack (count : Nat)
  | unpackRest (before after : Nat)
  | importModule (name : String) (level : Nat) (names : List String)
  | importName (name : String)
  | importAll
  | isSequence
  | isMapping
  | getLength
  | matchKeys
  | matchRest
  | matchClass (count : Nat) (names : List String)
deriving Repr

def Instr.mapTarget (f : Nat → Nat) : Instr → Instr
  | .jump t => .jump (f t)
  | .jumpIfFalse t => .jumpIfFalse (f t)
  | .jumpIfTrue t => .jumpIfTrue (f t)
  | .jumpIfFalseOrPop t => .jumpIfFalseOrPop (f t)
  | .jumpIfTrueOrPop t => .jumpIfTrueOrPop (f t)
  | .forIter t => .forIter (f t)
  | .setup t => .setup (f t)
  | .setupBelow t => .setupBelow (f t)
  | i => i

inductive Flavor where
  | plain
  | generator
  | coroutine
  | asyncGenerator
deriving DecidableEq, Repr

/-- The code of a function, class body or text. -/
structure Unit where
  name : String
  qualifiedName : String
  file : String
  firstLine : Nat
  doc : Option String := none
  positionalOnly : Nat := 0
  /-- Parameters that can be given by position. -/
  positional : Nat := 0
  keywordOnly : Nat := 0
  hasStar : Bool := false
  hasDoubleStar : Bool := false
  /-- Whether names are kept in slots and not in a namespace. -/
  isFunction : Bool := true
  flavor : Flavor := .plain
  /-- Names of the slots, parameters first. -/
  slots : Array String := #[]
  /-- Names of the variables shared with inner units, then of those taken from outer ones. -/
  cells : Array String := #[]
  free : Array String := #[]
  instrs : Array Instr := #[]
  lines : Array Nat := #[]
deriving Repr

instance : Inhabited Code.Unit := ⟨{ name := "", qualifiedName := "", file := "", firstLine := 0 }⟩

/-- Units that refer to each other by number; `main` is where execution starts. -/
structure Program where
  units : Array Code.Unit
  main : Nat
deriving Repr, Inhabited

end Notebook.Code
