import Notebook.Cell.Declaration
import Notebook.Code.Compile
import Notebook.Machine.Function

set_option autoImplicit false

namespace Notebook.Machine

open Notebook.Text Notebook.Source

/-! Faults of source as exceptions. -/

def faultClass : FaultKind → String
  | .malformed => "SyntaxError"
  | .indentation => "IndentationError"
  | .tabs => "TabError"

def raiseFault {α : Type} (file : String) (f : Fault) : M α := do
  let place ← newTuple [.str file, .int f.line, .int f.offset, .none]
  let exc ← newException (faultClass f.kind) [.str f.message, place]
  throwExc exc

def orFault {α : Type} (file : String) : Except Fault α → M α
  | .ok a => return a
  | .error f => raiseFault file f

def statements (file source : String) : M (List Tree.Stmt) := do
  match Cell.parseText source with
  | .ok body => return body
  | .error (.trouble t) => raise t.errorClass t.message
  | .error (.fault f) => raiseFault file f

def mainFrame (module : Ref) (program : Code.Program) : Frame :=
  let code := program.units.getD program.main default
  { program, code, slots := Array.replicate code.slots.size none, cells := #[]
    globals := module, names := some module }

def runIn (h : Host) (module : Ref) (program : Code.Program) : M Unit := do
  discard (h.enter (mainFrame module program) none)

/-! Modules of the host. -/

def mathNames : List String :=
  ["acos", "asin", "atan", "atan2", "ceil", "comb", "copysign", "cos", "cosh", "degrees", "exp", "fabs",
    "factorial", "floor", "fmod", "fsum", "gcd", "hypot", "isclose", "isfinite", "isinf", "isnan",
    "isqrt", "lcm", "log", "log10", "log2", "perm", "pow", "prod", "radians", "sin", "sinh", "sqrt",
    "tan", "tanh", "trunc"]

def taskNames : List String :=
  ["create_task", "current_task", "ensure_future", "gather", "iscoroutine", "isfuture", "run", "sleep"]

def interfaceClasses : List (String × String) :=
  [("CodeMetadata", "cell_datatypes"), ("CompilationResult", "cell_datatypes"),
    ("CompilerSet", "cell_executor"), ("ConsoleSink", "cell_output"), ("Diagnostic", "cell_datatypes"),
    ("EngineConfig", "cell_config"), ("ExecutionOutcome", "cell_datatypes"),
    ("OutputSink", "cell_output"), ("Printer", "cell_printer"), ("SideEffectSink", "cell_output"),
    ("SideModule", "cell_datatypes")]

def interfaceNames : List String :=
  ["CellError", "CodeMetadata", "CompilationResult", "CompilerSet", "ConsoleSink", "Diagnostic",
    "EngineConfig", "ExecutionOutcome", "Executor", "ExportNamespace", "Interrupted", "OutputSink",
    "Printer", "SideEffectSink", "SideModule", "create_compilers", "create_executor",
    "get_code_metadata", "load_config"]

def functionsOf (module : String) (names : List String) : Names :=
  names.map fun n => (n, .builtin (module ++ "." ++ n))

def classesOf (names : List String) : Names := names.map fun n => (n, .ref (nativeRef n))

def interfaceAttr (name : String) : M (String × Value) := do
  match interfaceClasses.lookup name, native? name with
  | some file, _ =>
    let r ← alloc { cls := nativeRef "type" }
    let object := nativeRef "object"
    setPayload r (.class
      { name, qualifiedName := name, module := "pycell." ++ file, bases := [object]
        order := [r, object] })
    return (name, .ref r)
  | none, some _ => return (name, .ref (nativeRef name))
  | none, none => return (name, .builtin ("pycell." ++ name))

def nan : Float := 0.0 / 0.0

def hostAttrs? (name : String) : M (Option Names) := do
  match name with
  | "math" =>
    return some (functionsOf name mathNames
      ++ [("pi", .float 3.141592653589793), ("e", .float 2.718281828459045),
        ("tau", .float 6.283185307179586), ("inf", .float (1.0 / 0.0)), ("nan", .float nan)])
  | "sys" =>
    let out ← newOf "StringIO" (.stream false)
    let err ← newOf "StringIO" (.stream true)
    return some [("exit", .builtin "sys.exit"), ("maxsize", .int 9223372036854775807),
      ("stdout", out), ("stderr", err)]
  | "asyncio" =>
    return some (functionsOf name taskNames
      ++ classesOf ["CancelledError", "Future", "InvalidStateError", "Task", "TimeoutError"])
  | "json" => return some (functionsOf name ["dump", "dumps", "load", "loads"])
  | "pycell" =>
    let all ← newList (interfaceNames.map .str)
    return some (("__all__", all) :: (← interfaceNames.mapM interfaceAttr))
  | _ => return none

def isPackage (name : String) : Bool := ["asyncio", "json", "pycell"].contains name

def submodules : String → List String
  | "json" => ["decoder", "encoder", "scanner", "tool"]
  | "asyncio" =>
    ["events", "exceptions", "futures", "locks", "queues", "runners", "streams", "subprocess", "tasks",
      "timeouts"]
  | "pycell" =>
    ["cell_cancel", "cell_compiler", "cell_config", "cell_datatypes", "cell_declarations",
      "cell_executor", "cell_metadata", "cell_modules", "cell_namespace", "cell_output",
      "cell_printer", "cell_realm"]
  | _ => []

def refuseImport {α : Type} (cls message name : String) : M α := do
  let exc ← newException cls [.str message]
  match exc with
  | .ref r => setOwn r "name" (.str name)
  | _ => pure ()
  throwExc exc

def absentModule {α : Type} (name : String) (reason : String) : M α :=
  refuseImport "ModuleNotFoundError" s!"No module named {quote name}{reason}" name

def addHost (name : String) (attrs : Names) : M Ref := do
  let r ← alloc { cls := nativeRef "module", payload := .module name
                  attrs := ("__name__", .str name) :: ("__doc__", .none) :: attrs }
  M.change (fun w => { w with hosts := w.hosts ++ [(name, r)] }) (fun _ => rfl) (fun _ => rfl)
    (fun _ => rfl) fun w => List.prefix_append w.hosts _
  return r

def hostModule (name : String) (attrs : Names) : M Ref := do
  match (← read).hosts.lookup name with
  | some r => return r
  | none => addHost name attrs

def hostTop (name : String) : M Ref := do
  match (← read).hosts.lookup name with
  | some r => return r
  | none =>
    match ← hostAttrs? name with
    | some attrs => addHost name attrs
    | none => absentModule name ""

def hostInner (parent : Ref) (top sub : String) : M Ref := do
  let name := top ++ "." ++ sub
  if !isPackage top then absentModule name s!"; {quote top} is not a package"
  else if !(submodules top).contains sub then absentModule name ""
  else
    let inner ← hostModule name []
    setOwn parent sub (.ref inner)
    return inner

def hostImport (specifier : String) : M Ref := do
  if specifier == "" then valueError "Empty module name"
  else
    match (← read).hosts.lookup specifier, dottedParts specifier with
    | some r, _ => return r
    | none, [] => absentModule specifier ""
    | none, [top] => hostTop top
    | none, [top, sub] => do hostInner (← hostTop top) top sub
    | none, top :: sub :: last :: _ => do
      discard (hostInner (← hostTop top) top sub)
      let outer := top ++ "." ++ sub
      absentModule (outer ++ "." ++ last) s!"; {quote outer} is not a package"

/-! Modules made from source. -/

def newLoader (dir : String) : M Value := newOf "Loader" (.loader dir)

def moduleOf (name : String) (attrs : Names) : Obj :=
  { cls := nativeRef "module", payload := .module name
    attrs := [("__name__", .str name), ("__doc__", .none), ("__package__", .none),
      ("__loader__", .none), ("__spec__", .none)] ++ attrs }

section Inside

variable {w w' w'' : World} {path source : String} {o : Obj} {new last : List (Module.Event Ref)}

/-- A module counts as loaded while its body runs, so that no other run of its path begins inside. -/
theorem World.Leads.once
    (h : World.Leads { w.push o with cache := w.cache.begin path source w.heap.size } w')
    (journal : w'.cache.journal = new ++ (w.cache.begin path source w.heap.size).journal)
    (s : String) (m : Ref) : .began path s m ∉ new := by
  have there : (w.cache.begin path source w.heap.size).instances.lookup path = some w.heap.size := by
    rw [Module.Cache.begin, Module.lookup_setKey, if_pos rfl]
  obtain ⟨new', journal', began, -⟩ := h.cache.events
  cases List.append_cancel_right (journal.symm.trans journal')
  intro b
  cases there.symm.trans (began path s m b)

/-- How the run of a body is over: it ended, or it failed and its module counts as loaded no more. -/
structure World.Ends (w w' w'' : World) (path : String) (last : List (Module.Event Ref)) : Prop where
  size : w''.heap.size = w'.heap.size
  last : (last = [.loaded path w.heap.size, .ended path w.heap.size] ∧
      w''.cache.instances = w'.cache.instances) ∨
    (last = [.failed path w.heap.size] ∧
      w''.cache.instances = Module.dropKey path w'.cache.instances)

namespace World.Ends

theorem quiet (h : w.Ends w' w'' path last) (p s : String) (m : Ref) : .began p s m ∉ last := by
  rcases h.last with ⟨rfl, -⟩ | ⟨rfl, -⟩ <;> simp

theorem over_iff (h : w.Ends w' w'' path last) (p : String) (m : Ref) :
    Module.Cache.Over last p m ↔ p = path ∧ m = w.heap.size := by
  unfold Module.Cache.Over
  rcases h.last with ⟨rfl, -⟩ | ⟨rfl, -⟩ <;> simp

theorem kept (h : w.Ends w' w'' path last) {p : String} {m : Ref} (other : p ≠ path)
    (there : w'.cache.instances.lookup p = some m) : w''.cache.instances.lookup p = some m := by
  rcases h.last with ⟨-, same⟩ | ⟨-, same⟩
  · rw [same, there]
  · rw [same, Module.lookup_dropKey, if_neg other, there]

theorem only (h : w.Ends w' w'' path last) {p : String} {m : Ref}
    (there : w''.cache.instances.lookup p = some m) : w'.cache.instances.lookup p = some m := by
  rcases h.last with ⟨-, same⟩ | ⟨-, same⟩
  · rwa [same] at there
  · rw [same, Module.lookup_dropKey] at there
    split at there
    · cases there
    · exact there

end World.Ends

theorem World.Runs.inside (recorded : w.cache.sources.lookup path = some source)
    (h : World.Leads { w.push o with cache := w.cache.begin path source w.heap.size } w')
    (journal : w'.cache.journal = new ++ (w.cache.begin path source w.heap.size).journal)
    (runs : World.Runs { w.push o with cache := w.cache.begin path source w.heap.size } w' new)
    (ends : w.Ends w' w'' path last) :
    w.Runs w'' (last ++ (new ++ [.began path source w.heap.size])) := by
  have pushed : w.heap.size < (w.push o).heap.size := by simp [World.push]
  have later (p : String) (m : Ref) (b : Module.Cache.Over new p m) : m ≠ w.heap.size := by
    obtain ⟨s, b⟩ := runs.begun p m b
    exact Nat.ne_of_gt (Nat.lt_of_lt_of_le pushed (runs.fresh p s m b).2.1)
  have started (p s : String) (m : Ref)
      (b : .began p s m ∈ last ++ (new ++ [.began path source w.heap.size])) :
      .began p s m ∈ new ∨ (p = path ∧ s = source ∧ m = w.heap.size) := by
    simpa [ends.quiet] using b
  have own := ends.over_iff path w.heap.size
  refine ⟨fun p s m b => ?_, fun p m b => ?_, fun p s m b => ?_,
    fun after earlier p s m split s₀ m₀ b => ?_, fun p m b => ?_, fun p m b => ?_⟩
  · rw [ends.size]
    rcases started p s m b with b | ⟨rfl, rfl, rfl⟩
    · obtain ⟨text, above, below⟩ := runs.fresh p s m b
      exact ⟨text, Nat.le_trans (Nat.le_of_lt pushed) above, below⟩
    · exact ⟨recorded, Nat.le_refl _, Nat.lt_of_lt_of_le pushed h.size⟩
  · have either : Module.Cache.Over last p m ∨ Module.Cache.Over new p m := by
      simp only [Module.Cache.Over, List.mem_append, List.mem_singleton, reduceCtorEq, or_false] at b ⊢
      exact or_or_or_comm.mp b
    rcases either with b | b
    · obtain ⟨rfl, rfl⟩ := (ends.over_iff p m).mp b
      exact ⟨source, by simp⟩
    · obtain ⟨s, b⟩ := runs.begun p m b
      exact ⟨s, by simp [b]⟩
  · rcases started p s m b with b | ⟨rfl, -, rfl⟩
    · simpa using (runs.closed p s m b).weaken [.began path source w.heap.size] last
    · simpa using (own.mpr ⟨rfl, rfl⟩).weaken (new ++ [.began p source w.heap.size]) []
  · -- A run that begins inside is not of the path, and the run itself begins first of all.
    rcases Module.split_append split with ⟨after, rfl, rest⟩ | ⟨_, rest, -⟩
    · rcases Module.split_append rest with ⟨_, -, only⟩ | ⟨inside, part, rfl⟩
      · rw [List.singleton_eq_append_iff] at only
        simp at only
        rw [only.2.2] at b
        cases b
      · rcases List.mem_append.mp b with b | b
        · exact List.mem_append_left _ (runs.alone after inside p s m part s₀ m₀ b)
        · cases List.mem_singleton.mp b
          exact absurd (by rw [part]; simp) (h.once journal s m)
    · exact absurd (by rw [rest]; simp) (ends.quiet p s m)
  · have either : .ended p m ∈ last ∨ .ended p m ∈ new := by simpa using b
    rcases either with outside | inside
    · obtain ⟨rfl, rfl⟩ := (ends.over_iff p m).mp (.inl outside)
      rcases ends.last with ⟨-, same⟩ | ⟨rfl, -⟩
      · rw [same]
        refine h.cache.kept p _ ?_
        rw [Module.Cache.begin, Module.lookup_setKey, if_pos rfl]
      · simp at outside
    · obtain ⟨s, began⟩ := runs.begun p m (.inl inside)
      exact ends.kept (fun same => h.once journal s m (same ▸ began)) (runs.ended p m inside)
  · intro there
    have either : .failed p m ∈ last ∨ .failed p m ∈ new := by simpa using b
    rcases either with outside | inside
    · obtain ⟨rfl, rfl⟩ := (ends.over_iff p m).mp (.inr outside)
      rcases ends.last with ⟨rfl, -⟩ | ⟨-, same⟩
      · simp at outside
      · rw [same, Module.lookup_dropKey, if_pos rfl] at there
        cases there
    · exact runs.failed p m inside (ends.only there)

end Inside

theorem World.Leads.begun {w w' : World} {path source : String} {o : Obj}
    (absent : w.cache.instances.lookup path = none)
    (recorded : w.cache.sources.lookup path = some source)
    (h : World.Leads { w.push o with cache := w.cache.begin path source w.heap.size } w') :
    w.Leads { w' with cache := w'.cache.finish path w.heap.size } ∧
      w.Leads { w' with cache := w'.cache.fail path w.heap.size } := by
  have push := World.Leads.push w o
  have size : w.heap.size < w'.heap.size :=
    Nat.lt_of_lt_of_le (by simp [World.push]) h.size
  have objects (r : Ref) (hr : r < w.heap.size) :
      (w.heap.getD r default).Keeps r (w'.heap.getD r default) :=
    (push.objects r hr).trans (h.objects r (Nat.lt_of_lt_of_le hr push.size))
  have fresh (p : String) (m : Ref) (there : w'.cache.instances.lookup p = some m) :
      w.cache.instances.lookup p = some m ∨ (w.heap.size ≤ m ∧ m < w'.heap.size) := by
    rcases h.fresh p m there with there | made
    · rw [Module.Cache.begin, Module.lookup_setKey] at there
      split at there
      · cases there
        exact .inr ⟨Nat.le_refl _, size⟩
      · exact .inl there
    · exact .inr ⟨Nat.le_trans push.size made.1, made.2⟩
  have cache := Module.Cache.Leads.begun absent recorded h.cache
  obtain ⟨new, journal, runs⟩ := h.runs
  have ended : w.Ends w' { w' with cache := w'.cache.finish path w.heap.size } path
      [.loaded path w.heap.size, .ended path w.heap.size] := ⟨rfl, .inl ⟨rfl, rfl⟩⟩
  have failed : w.Ends w' { w' with cache := w'.cache.fail path w.heap.size } path
      [.failed path w.heap.size] := ⟨rfl, .inr ⟨rfl, rfl⟩⟩
  refine ⟨⟨cache.1, Nat.le_of_lt size, objects, fun linked => h.linked (push.linked linked), fresh,
      h.hosts, _, ?_, .inside recorded h journal runs ended⟩,
    ⟨cache.2, Nat.le_of_lt size, objects, fun linked => h.linked (push.linked linked),
      fun p m there => fresh p m (failed.only there), h.hosts, _, ?_,
      .inside recorded h journal runs failed⟩⟩
  · simp [Module.Cache.finish, journal, Module.Cache.begin]
  · simp [Module.Cache.fail, journal, Module.Cache.begin]

theorem World.Leads.reached {w : World} {path : String} {m : Ref}
    (there : w.cache.instances.lookup path = some m) :
    w.Leads { w with cache := w.cache.reach path m } where
  cache := .reach there
  size := Nat.le_refl _
  objects r _ := .refl r _
  linked linked := linked
  fresh _ _ there := .inl there
  hosts := List.prefix_rfl
  runs := ⟨[.loaded path m], rfl, .ofNone (by simp) (by simp) (by simp)⟩

theorem World.Leads.opened {w : World} {path : String} {o : Obj}
    (absent : w.cache.instances.lookup path = none) :
    w.Leads { w.push o with cache := w.cache.openDir path w.heap.size } := by
  have push := World.Leads.push w o
  refine ⟨.openDir _ absent, push.size, push.objects, push.linked, fun p m there => ?_,
    List.prefix_rfl, [.loaded path w.heap.size, .opened path w.heap.size], rfl,
    .ofNone (by simp) (by simp) (by simp)⟩
  simp only [Module.Cache.openDir] at there
  split at there
  · rw [Module.lookup_setKey] at there
    split at there
    · cases there
      exact .inr ⟨Nat.le_refl _, by simp [World.push]⟩
    · exact .inl there
  · exact .inl there

def moduleProgram (path source : String) : M Code.Program := do
  remember path (linesWithEnds source)
  let body ← statements path source
  orFault path (Code.compile { file := path, deferred := true } body)

/-- The module of a path that is loaded, if there is one. -/
def reach (path : String) : M (Option Ref) where
  run w := match w.cache.instances.lookup path with
    | some m => .ok (some m) { w with cache := w.cache.reach path m }
    | none => .ok none w
  leads w := by
    split
    next there => exact .reached there
    next => exact .refl w
  loops w := by split <;> exact w.sameLoops

/-- The module of a path, made if there is none: a new object that counts as loaded while its body
runs. If the body fails it does not. Nothing counts as loaded from a source that is not recorded. -/
def install (path source : String) (o : Obj) (body : Ref → M Unit) : M Ref where
  run w := match w.cache.instances.lookup path with
    | some m => .ok m { w with cache := w.cache.reach path m }
    | none =>
      let r := w.heap.size
      if w.cache.sources.lookup path = some source then
        match (body r).run { w.push o with cache := w.cache.begin path source r } with
        | .ok _ w => .ok r { w with cache := w.cache.finish path r }
        | .error e w => .error e { w with cache := w.cache.fail path r }
      else (body r *> pure r).run (w.push o)
  leads w := by
    split
    next there => exact .reached there
    next absent =>
      split
      next recorded =>
        have leads := (body w.heap.size).leads
          { w.push o with cache := w.cache.begin path source w.heap.size }
        dsimp only
        split <;> rename_i ran <;> rw [ran] at leads
        · exact leads.begun absent recorded |>.1
        · exact leads.begun absent recorded |>.2
      next => exact (World.Leads.push w o).trans ((body w.heap.size *> pure w.heap.size).leads _)
  loops w := by
    split
    next => exact w.sameLoops
    next =>
      split
      next =>
        have loops := (body w.heap.size).loops
          { w.push o with cache := w.cache.begin path source w.heap.size }
        dsimp only
        split <;> rename_i ran <;> rw [ran] at loops <;> exact loops
      next => exact (body w.heap.size *> pure w.heap.size).loops (w.push o)

def installDir (path : String) (o : Obj) : M Ref where
  run w := match w.cache.instances.lookup path with
    | some m => .ok m { w with cache := w.cache.reach path m }
    | none => .ok w.heap.size { w.push o with cache := w.cache.openDir path w.heap.size }
  leads w := by
    split
    next there => exact .reached there
    next absent => exact .opened absent
  loops w := by split <;> exact w.sameLoops

def importing (h : Host) : Module.Importing M Ref Code.Program Value where
  get := do return (← read).cache
  reach := reach
  host := hostImport
  missing s := absentModule s ""
  ready := moduleProgram
  fromFile name path source code := do
    let loader ← newLoader (Path.parent path)
    install path source (moduleOf name [("__file__", .str path), ("__require__", loader)])
      fun module => runIn h module code
  fromDir name path := do
    installDir path (moduleOf name [("__path__", ← newList [.str path])])
  attach parent name module :=
    match name with
    | "__class__" => typeError "__class__ must be set to a class, not 'module' object"
    | "__dict__" => raise "AttributeError" "readonly attribute"
    | _ => setOwn parent name (.ref module)
  value := .ref
  attribute? module name := do
    match ← attempt (getAttr? h (.ref module) name) with
    | .ok v => return v
    | .error e => if ← isError e "AttributeError" then return none else throw (.raised e)
  orAbsent x := onError "ModuleNotFoundError" (some <$> x) fun _ => return none
  noName name specifier :=
    refuseImport "ImportError" s!"cannot import name {quote name} from {quote specifier}" specifier

/-- Loads a module for a specifier from a directory. -/
def loadModule (h : Host) (specifier dir : String) : M Value := do
  return .ref (← (importing h).toLoading.load specifier dir)

def loadName (h : Host) (specifier name dir : String) : M Value :=
  (importing h).importName specifier name dir

/-- Calls a loader: with a specifier, and perhaps with a name. -/
def callLoader (h : Host) (dir : String) (args : List Value) (keywords : Names) : M Value := do
  let given (i : Nat) (name : String) : Option Value := args[i]? <|> keywords.lookup name
  match given 0 "specifier", given 1 "name" with
  | none, _ => typeError "Loader.__call__() missing 1 required positional argument: 'specifier'"
  | some s, name =>
    match ← core s, name with
    | .str specifier, none | .str specifier, some .none => loadModule h specifier dir
    | .str specifier, some n =>
      match ← core n with
      | .str name => loadName h specifier name dir
      | w => typeError s!"attribute name must be string, not {quote (← typeName w)}"
    | w, _ => typeError s!"argument of type {quote (← typeName w)} is not iterable"

/-! Import statements of code that has no loader. -/

/-- Imports by an import statement; a dotted name without wanted parts gives the outermost module.
-/
def importStatement (name : String) (level : Nat) (names : List String) : M Value := do
  if level > 0 then
    raise "ImportError" "attempted relative import with no known parent package"
  let module ← hostImport name
  if names.isEmpty then return .ref (← hostImport ((dottedParts name).headD name))
  return .ref module

def importFrom (h : Host) (module : Value) (name : String) : M Value := do
  match ← getAttr? h module name with
  | some v => return v
  | none =>
    let own ← match module with
      | .ref r => own? r "__name__"
      | _ => pure none
    match own with
    | some (.str m) =>
      match (← read).hosts.lookup (m ++ "." ++ name) with
      | some r => return .ref r
      | none =>
        refuseImport "ImportError" s!"cannot import name {quote name} from {quote m} (unknown location)" m
    | _ => raise "ImportError" s!"cannot import name {quote name}"

end Notebook.Machine
