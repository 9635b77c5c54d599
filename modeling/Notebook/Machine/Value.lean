import Notebook.Code.Instr
import Notebook.Exports
import Notebook.Loop.Leads
import Notebook.Loop.Race
import Notebook.Module.Cache
import Notebook.Machine.Native

/-! Values of running programs and the world they live in.

Small values stand for themselves; everything with an identity is an object of the heap. -/

set_option autoImplicit false

namespace Notebook.Machine

open Notebook.Code Notebook.Loop

abbrev Ref := Nat

inductive Value where
  | none
  | notImplemented
  | ellipsis
  | bool (b : Bool)
  | int (n : Int)
  | float (x : Float)
  | complex (re im : Float)
  | str (s : String)
  | bytes (bs : List UInt8)
  /-- A function that every program knows. -/
  | builtin (name : String)
  /-- A method of a native class, not bound to an object. -/
  | native (cls name : String)
  /-- A function or method bound to an object. -/
  | bound (self function : Value)
  | ref (r : Ref)
deriving Inhabited

/-- Named values in the order in which the names came in. -/
abbrev Names := List (String × Value)

/-- A handler for exceptions: where it starts, and how much of the stack it finds. -/
structure Guard where
  target : Nat
  height : Nat
deriving Repr

structure Frame where
  program : Program
  code : Code.Unit
  pc : Nat := 0
  stack : List Value := []
  slots : Array (Option Value)
  /-- Objects that hold shared variables. -/
  cells : Array Ref
  /-- The module whose names are the global ones. -/
  globals : Ref
  /-- The object whose attributes are the names of a text or class body. -/
  names : Option Ref := none
  guards : List Guard := []
  /-- The exception that is handled when the frame is resumed. -/
  handled : Option Value := none

instance : Inhabited Frame :=
  ⟨{ program := default, code := default, slots := #[], cells := #[], globals := 0 }⟩

structure Function where
  program : Program
  code : Code.Unit
  name : String
  qualifiedName : String
  globals : Ref
  defaults : List Value := []
  keywordDefaults : Names := []
  captured : List Ref := []

structure Class where
  name : String
  qualifiedName : String
  module : String
  bases : List Ref
  /-- The class and the classes it derives from, in the order of look-up. -/
  order : List Ref
  /-- The only attributes that objects keep, if the class says so. -/
  slots : Option (List String) := none

structure Trace where
  function : String
  file : String
  line : Nat
deriving DecidableEq, Repr

structure Exception where
  args : List Value
  /-- What a system error names after its number and its reason. -/
  files : List Value := []
  /-- The exceptions that a group holds. -/
  members : List Value := []
  cause : Value := .none
  context : Value := .none
  /-- Whether the context is left out, as a cause that was given asks for. -/
  isContextHidden : Bool := false
  /-- Outermost entry first. -/
  traces : List Trace := []

structure Generator where
  name : String
  qualifiedName : String
  flavor : Flavor
  /-- Where it goes on; nothing when it is over or under way. -/
  frame : Option Frame
  isRunning : Bool := false
  isStarted : Bool := false

inductive DictPart where
  | keys
  | values
  | items
deriving DecidableEq, Repr

inductive Iter where
  | list (r : Ref) (i : Nat)
  | backward (r : Ref) (left : Nat)
  | items (vs : List Value)
  /-- Entries from a place on, of which so many are due while the size is the given one. -/
  | dict (r : Ref) (part : DictPart) (place due : Nat) (size : Option Nat)
  /-- Entries before a place, the last of them first. -/
  | dictBack (r : Ref) (part : DictPart) (place : Nat) (size : Option Nat)
  | members (r : Ref) (i : Nat) (size : Option Nat)
  | range (next : Int) (left : Nat) (step : Int)
  /-- Items by number of an object that has no iterator of its own. -/
  | numbered (v : Value) (i : Int)
  /-- The first items by number of such an object, from the last of them. -/
  | countdown (v : Value) (left : Nat)
  | enumerate (inner : Value) (n : Int)
  | zip (inners : List Value) (strict : Bool)
  | map (f : Value) (inners : List Value)
  | filter (f : Value) (inner : Value)
  | calls (f sentinel : Value)

inductive Input where
  | send (v : Value)
  | throw (exc : Value)

inductive Pause where
  | ahead
  | giving
  | waiting (future : Ref)
  | past

inductive Payload where
  | plain
  /-- A number or text of a derived class. -/
  | wrapped (v : Value)
  | list (items : Array Value)
  | tuple (items : List Value)
  | dict (entries : Array (Value × Value))
  | set (items : Array Value)
  | range (start stop step : Int)
  | slice (start stop step : Value)
  | cell (v : Option Value)
  | class (c : Class)
  | function (f : Function)
  | module (name : String)
  | generator (g : Generator)
  /-- A step of an asynchronous generator that is waited for. -/
  | step (generator : Ref) (input : Input) (isStarted isDone : Bool)
  /-- A step of an asynchronous iterator, with what it gives when the iterator is over. -/
  | stepOr (step default : Value)
  | exception (e : Exception)
  | iter (it : Iter)
  | future (id : FutureId)
  /-- A future that is waited for. -/
  | awaiting (future : Ref) (isStarted : Bool)
  /-- A pause of some length, which gives a result. -/
  | sleep (delay result : Value) (stage : Pause)
  | exports (e : Exports Value)
  | loader (dir : String)
  /-- A stream that text is written to. -/
  | stream (isError : Bool)
  | view (dict : Ref) (part : DictPart)
  | staticMethod (f : Value)
  | classMethod (f : Value)
  | property (get set delete : Value)
  | super (start : Ref) (self : Value)
  /-- An attribute that all objects of a class have by themselves. -/
  | slot (name cls : String)
  /-- A class with arguments, as annotations name it. -/
  | alias (origin : Value) (args : List Value)
  /-- One of several classes. -/
  | union (members : List Value)

structure Obj where
  cls : Ref
  attrs : Names := []
  payload : Payload := .plain
  /-- The digest that the program gave the object when it was last asked for it. -/
  digest : Option Int := none
  /-- The places of removed entries of a dictionary, the first of them first. -/
  gaps : List Nat := []
  /-- The dictionary in which a program sees and changes the attributes. -/
  record : Option Ref := none
  /-- The object whose attributes a dictionary holds. -/
  recordOf : Option Ref := none

instance : Inhabited Obj := ⟨{ cls := 0 }⟩

inductive Job where
  | start (source : String)
  | racing (race : Race) (last : Option String)

inductive Body where
  | coroutine (r : Ref)
  /-- A coroutine whose errors are returned in place of being raised. -/
  | contained (r : Ref)
  | job (j : Job)

structure Gather where
  outer : FutureId
  returnsErrors : Bool

structure Streams where
  out : String := ""
  err : String := ""

structure World where
  heap : Array Obj
  /-- The exception being handled. -/
  handled : Value := .none
  streams : Streams := {}
  /-- Whether lines can still be read. -/
  hasInput : Bool := true
  loops : Loops Body Value Value Gather := {}
  inLoop : Bool := false
  /-- Modules of the host that have been imported. -/
  hosts : List (String × Ref) := []
  cache : Module.Cache Ref
  /-- Lines of source text by file, for tracebacks. -/
  sources : List (String × List String) := []
  /-- For every future that gathers others, how many of them are not over. -/
  gathering : List (FutureId × Nat) := []
  /-- What futures were asked to be cancelled with. -/
  cancelNotes : List (FutureId × Value) := []
  /-- The exceptions that ended cancelled tasks and were not looked at yet. -/
  cancelErrors : List (FutureId × Value) := []
  /-- Whether a number too long to be written is a fault. -/
  digitLimit : Nat := 4300

inductive Stop where
  | raised (exc : Value)
  /-- Out of fuel. -/
  | exhausted

def Payload.isExports : Payload → Bool
  | .exports _ => true
  | _ => false

def Payload.changed : Payload → Payload → Payload
  | .exports _, .exports e => .exports e
  | .exports e, _ => .exports e
  | .class c, .class d => .class { d with order := c.order }
  | .class c, _ => .class c
  | _, p => p

structure Obj.Like (o o' : Obj) : Prop where
  cls : o'.cls = o.cls
  attrs : o'.attrs = o.attrs
  payload : o'.payload = o.payload

/-- What every execution keeps of the object at a place: its class, and as a class its order; a native
class is what it is, and a namespace stays one. -/
structure Obj.Keeps (r : Ref) (o o' : Obj) : Prop where
  cls : o'.cls = o.cls
  native : r < natives.length → o.Like o'
  exports : o.payload.isExports = true → o'.payload.isExports = true
  order : ∀ c, o.payload = .class c → ∃ c', o'.payload = .class c' ∧ c'.order = c.order

namespace Obj

variable {o o' o'' : Obj} {r : Ref}

theorem Like.refl (o : Obj) : o.Like o := ⟨rfl, rfl, rfl⟩

theorem Like.trans (h : o.Like o') (h' : o'.Like o'') : o.Like o'' :=
  ⟨h'.cls.trans h.cls, h'.attrs.trans h.attrs, h'.payload.trans h.payload⟩

theorem Like.keeps (h : o.Like o') (r : Ref) : o.Keeps r o' where
  cls := h.cls
  native _ := h
  exports ho := h.payload ▸ ho
  order c hc := ⟨c, h.payload.trans hc, rfl⟩

theorem Keeps.refl (r : Ref) (o : Obj) : o.Keeps r o := (Like.refl o).keeps r

theorem Keeps.trans (h : o.Keeps r o') (h' : o'.Keeps r o'') : o.Keeps r o'' where
  cls := h'.cls.trans h.cls
  native hr := (h.native hr).trans (h'.native hr)
  exports ho := h'.exports (h.exports ho)
  order c hc := by
    obtain ⟨d, hd, first⟩ := h.order c hc
    obtain ⟨e, he, second⟩ := h'.order d hd
    exact ⟨e, he, second.trans first⟩

end Obj

def World.Linked (w : World) : Prop :=
  ∀ r d, (w.heap.getD r default).record = some d → d < w.heap.size

/-- What an execution does with the bodies of modules, by what happened in it. Each that begins is the
recorded one of its path and that of a new module. It is over in the end, and before it begins all others
of its path have failed. A module whose body ended is loaded then, and one whose body failed is not. -/
structure World.Runs (w w' : World) (new : List (Module.Event Ref)) : Prop where
  fresh : ∀ p s m, .began p s m ∈ new →
    w.cache.sources.lookup p = some s ∧ w.heap.size ≤ m ∧ m < w'.heap.size
  begun : ∀ p m, Module.Cache.Over new p m → ∃ s, .began p s m ∈ new
  closed : ∀ p s m, .began p s m ∈ new → Module.Cache.Over new p m
  alone : ∀ later earlier p s m, new = later ++ .began p s m :: earlier →
    ∀ s₀ m₀, .began p s₀ m₀ ∈ earlier → .failed p m₀ ∈ earlier
  ended : ∀ p m, .ended p m ∈ new → w'.cache.instances.lookup p = some m
  failed : ∀ p m, .failed p m ∈ new → w'.cache.instances.lookup p ≠ some m

/-- What every execution keeps of a world: recorded sources, modules that are loaded, those of the host,
and the objects there are. A module that comes in is a new object. -/
structure World.Leads (w w' : World) : Prop where
  cache : w.cache.Leads w'.cache
  size : w.heap.size ≤ w'.heap.size
  objects : ∀ r, r < w.heap.size → (w.heap.getD r default).Keeps r (w'.heap.getD r default)
  linked : w.Linked → w'.Linked
  fresh : ∀ p m, w'.cache.instances.lookup p = some m →
    w.cache.instances.lookup p = some m ∨ (w.heap.size ≤ m ∧ m < w'.heap.size)
  hosts : w.hosts <+: w'.hosts
  runs : ∃ new, w'.cache.journal = new ++ w.cache.journal ∧ w.Runs w' new

theorem World.Runs.ofNone {w w' : World} {new : List (Module.Event Ref)}
    (began : ∀ p s m, .began p s m ∉ new) (ended : ∀ p m, .ended p m ∉ new)
    (failed : ∀ p m, .failed p m ∉ new) : w.Runs w' new where
  fresh p s m b := absurd b (began p s m)
  begun p m b := b.elim (fun b => absurd b (ended p m)) fun b => absurd b (failed p m)
  closed p s m b := absurd b (began p s m)
  alone _ _ p s m split := absurd (split ▸ by simp) (began p s m)
  ended p m b := absurd b (ended p m)
  failed p m b := absurd b (failed p m)

namespace World.Leads

variable {w w' w'' : World}

theorem runs_trans {new new' : List (Module.Event Ref)} (h : w.Leads w') (h' : w'.Leads w'')
    (journal : w''.cache.journal = new' ++ w'.cache.journal) (first : w.Runs w' new)
    (second : w'.Runs w'' new') : w.Runs w'' (new' ++ new) := by
  have before (p : String) (m : Ref) (closed : Module.Cache.Over new p m) : m < w'.heap.size :=
    let ⟨s, began⟩ := first.begun p m closed
    (first.fresh p s m began).2.2
  refine ⟨fun p s m b => ?_, fun p m b => ?_, fun p s m b => ?_,
    fun later earlier p s m split s₀ m₀ b => ?_, fun p m b => ?_, fun p m b => ?_⟩
  · rcases List.mem_append.mp b with b | b
    · obtain ⟨recorded, above, below⟩ := second.fresh p s m b
      exact ⟨h.cache.sources ▸ recorded, Nat.le_trans h.size above, below⟩
    · obtain ⟨recorded, above, below⟩ := first.fresh p s m b
      exact ⟨recorded, above, Nat.lt_of_lt_of_le below h'.size⟩
  · have either : Module.Cache.Over new' p m ∨ Module.Cache.Over new p m := by
      rcases b with b | b <;> rcases List.mem_append.mp b with b | b
      · exact .inl (.inl b)
      · exact .inr (.inl b)
      · exact .inl (.inr b)
      · exact .inr (.inr b)
    rcases either with b | b
    · obtain ⟨s, b⟩ := second.begun p m b
      exact ⟨s, List.mem_append_left _ b⟩
    · obtain ⟨s, b⟩ := first.begun p m b
      exact ⟨s, List.mem_append_right _ b⟩
  · rcases List.mem_append.mp b with b | b
    · simpa using (second.closed p s m b).weaken new []
    · simpa using (first.closed p s m b).weaken [] new'
  · rcases Module.split_append split with ⟨later, rfl, rest⟩ | ⟨earlier, rest, rfl⟩
    · exact first.alone later earlier p s m rest s₀ m₀ b
    · rcases List.mem_append.mp b with b | b
      · exact List.mem_append_left _ (second.alone later earlier p s m rest s₀ m₀ b)
      · rcases first.closed p s₀ m₀ b with ended | failed
        · -- The module whose body ended is loaded, so that its path does not run again.
          obtain ⟨_, journal', began, -⟩ := h'.cache.events
          cases List.append_cancel_right (journal.symm.trans journal')
          cases (first.ended p m₀ ended).symm.trans (began p s m (by simp [rest]))
        · exact List.mem_append_right _ failed
  · rcases List.mem_append.mp b with b | b
    · exact second.ended p m b
    · exact h'.cache.kept p m (first.ended p m b)
  · rcases List.mem_append.mp b with b | b
    · exact second.failed p m b
    · intro there
      rcases h'.fresh p m there with there | made
      · exact first.failed p m b there
      · exact absurd made.1 (Nat.not_le.mpr (before p m (.inr b)))

theorem trans (h : w.Leads w') (h' : w'.Leads w'') : w.Leads w'' where
  cache := h.cache.trans h'.cache
  size := Nat.le_trans h.size h'.size
  objects r hr := (h.objects r hr).trans (h'.objects r (Nat.lt_of_lt_of_le hr h.size))
  linked := h'.linked ∘ h.linked
  fresh p m hm := by
    rcases h'.fresh p m hm with made | made
    · exact (h.fresh p m made).imp_right fun b => ⟨b.1, Nat.lt_of_lt_of_le b.2 h'.size⟩
    · exact .inr ⟨Nat.le_trans h.size made.1, made.2⟩
  hosts := h.hosts.trans h'.hosts
  runs := by
    obtain ⟨new, journal, first⟩ := h.runs
    obtain ⟨new', journal', second⟩ := h'.runs
    exact ⟨new' ++ new, by rw [journal', journal, List.append_assoc], runs_trans h h' journal' first second⟩

theorem still (cache : w'.cache = w.cache) :
    ∃ new, w'.cache.journal = new ++ w.cache.journal ∧ w.Runs w' new :=
  ⟨[], by rw [cache, List.nil_append], .ofNone nofun nofun nofun⟩

theorem ofHeap (cache : w'.cache = w.cache) (size : w.heap.size ≤ w'.heap.size)
    (objects : ∀ r, r < w.heap.size → (w.heap.getD r default).Keeps r (w'.heap.getD r default))
    (linked : w.Linked → w'.Linked) (hosts : w'.hosts = w.hosts) : w.Leads w' where
  cache := cache ▸ .refl _
  size := size
  objects := objects
  linked := linked
  fresh _ _ hm := .inl (cache ▸ hm)
  hosts := hosts ▸ List.prefix_rfl
  runs := still cache

theorem aside (heap : w'.heap = w.heap) (cache : w'.cache = w.cache)
    (hosts : w.hosts <+: w'.hosts := by exact List.prefix_rfl) : w.Leads w' where
  cache := cache ▸ .refl _
  size := Nat.le_of_eq (congrArg Array.size heap.symm)
  objects r _ := heap ▸ .refl r _
  linked := by
    unfold World.Linked
    rw [heap]
    exact id
  fresh _ _ hm := .inl (cache ▸ hm)
  hosts := hosts
  runs := still cache

theorem refl (w : World) : w.Leads w := aside rfl rfl

end World.Leads

def Body.IsOwn : Body → Prop
  | .coroutine _ => True
  | _ => False

theorem World.sameLoops (w : World) : w.loops.Leads Body.IsOwn w.loops := .refl w.loops

theorem World.sameHosts (w : World) : w.hosts <+: w.hosts := List.prefix_rfl

/-- The world in which an execution ends. -/
def worldAfter {α : Type} : EStateM.Result Stop World α → World
  | .ok _ w => w
  | .error _ w => w

/-- An execution of programs: what it does with every world, and what it keeps of it. -/
structure M (α : Type) where
  run : World → EStateM.Result Stop World α
  leads : ∀ w : World, w.Leads (worldAfter (run w))
  loops : ∀ w : World, w.loops.Leads Body.IsOwn (worldAfter (run w)).loops

namespace M

variable {α β : Type}

@[always_inline, inline]
protected def pure (a : α) : M α := ⟨fun w => .ok a w, .refl, World.sameLoops⟩

@[always_inline, inline]
protected def bind (x : M α) (f : α → M β) : M β where
  run w := match x.run w with
    | .ok a w => (f a).run w
    | .error e w => .error e w
  leads w := by
    have first := x.leads w
    split
    next a w' h =>
      rw [h] at first
      exact first.trans ((f a).leads w')
    next h =>
      rw [h] at first
      exact first
  loops w := by
    have first := x.loops w
    split
    next a w' h =>
      rw [h] at first
      exact first.trans ((f a).loops w')
    next h =>
      rw [h] at first
      exact first

@[always_inline, inline]
protected def throw (e : Stop) : M α := ⟨fun w => .error e w, .refl, World.sameLoops⟩

@[always_inline, inline]
protected def tryCatch (x : M α) (other : Stop → M α) : M α where
  run w := match x.run w with
    | .ok a w => .ok a w
    | .error e w => (other e).run w
  leads w := by
    have first := x.leads w
    split
    next h =>
      rw [h] at first
      exact first
    next e w' h =>
      rw [h] at first
      exact first.trans ((other e).leads w')
  loops w := by
    have first := x.loops w
    split
    next h =>
      rw [h] at first
      exact first
    next e w' h =>
      rw [h] at first
      exact first.trans ((other e).loops w')

@[always_inline]
instance : Monad M where
  pure := M.pure
  bind := M.bind

@[always_inline]
instance : MonadExceptOf Stop M where
  throw := M.throw
  tryCatch := M.tryCatch

@[always_inline]
instance : MonadReaderOf World M where
  read := ⟨fun w => .ok w w, .refl, World.sameLoops⟩

instance : Inhabited (M α) := ⟨.throw .exhausted⟩

/-- Changes something besides the heap, the cache and the event loops. Modules of the host may come in.
-/
@[inline]
def change (f : World → World) (heap : ∀ w, (f w).heap = w.heap := by exact fun _ => rfl)
    (cache : ∀ w, (f w).cache = w.cache := by exact fun _ => rfl)
    (loops : ∀ w, (f w).loops = w.loops := by exact fun _ => rfl)
    (hosts : ∀ w, w.hosts <+: (f w).hosts := by exact World.sameHosts) : M PUnit where
  run w := .ok ⟨⟩ (f w)
  leads w := .aside (heap w) (cache w) (hosts w)
  loops w := .aside (congrArg _ (loops w)) (congrArg _ (loops w))

@[inline]
def changeLoops (f : Loops Body Value Value Gather → α × Loops Body Value Value Gather)
    (leads : ∀ l, Loops.Leads Body.IsOwn l (f l).2) : M α where
  run w := match f w.loops with
    | (a, loops) => .ok a { w with loops }
  leads _ := .aside rfl rfl
  loops w := leads w.loops

end M

inductive Exit where
  | returned (v : Value)
  /-- Suspended; `own` tells whether by a yield of the unit itself. -/
  | yielded (v : Value) (frame : Frame) (own : Bool)

inductive Progress where
  | returned (v : Value)
  | yielded (v : Value) (own : Bool)

/-- Calls into code, one level deeper than the caller. -/
structure Host where
  call : Value → List Value → Names → M Value
  enter : Frame → Option Input → M Exit

end Notebook.Machine
