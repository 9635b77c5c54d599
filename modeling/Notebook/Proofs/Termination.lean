import Notebook.Proofs.Orderly

/-! Loading ends: in a world whose recorded sources are elementary every load and every call of a loader returns or
raises. Nothing of it goes deeper than there are sources without a module, since a body that runs counts as
loaded and what counts as loaded stays, however the loads inside of it end. -/

set_option autoImplicit false

namespace Notebook.Machine

open Notebook.Module Notebook.Text
open Notebook.Code (Instr)

/-- Calls as deep as some levels above a host. -/
def deepen : Nat → Host → Host
  | 0, h => h
  | n + 1, h => deeper (deepen n h)

/-- An execution that returns or raises and leaves an orderly world, of which something lasts. -/
def M.Finishes {α : Type} (x : M α) (K : World → Prop) (w : World) (Q : α → World → Prop) : Prop :=
  x.Ends w (fun a w' => w'.Fine K ∧ Q a w') fun e w' => w'.Fine K ∧ ∃ exc, e = .raised exc

namespace M.Finishes

variable {α β : Type} {N : Ref → Prop} {K : World → Prop} {w : World} {Q : α → World → Prop} {R : β → World → Prop}

theorem ofOk {x : M α} {a : α} {w' : World} (ran : x.run w = .ok a w') (fine : w'.Fine K) (h : Q a w') :
    x.Finishes K w Q := M.Ends.ofOk ran ⟨fine, h⟩

theorem pure {a : α} (fine : w.Fine K) (h : Q a w) : (pure a : M α).Finishes K w Q := .ofOk rfl fine h

theorem bind {x : M α} {f : α → M β} (first : x.Finishes K w Q)
    (rest : ∀ a w', w.Leads w' → w'.Fine K → Q a w' → (f a).Finishes K w' R) : (x >>= f).Finishes K w R :=
  M.Ends.bind (first.leads.mono (fun a w' made => rest a w' made.2 made.1.1 made.1.2) fun _ _ failed => failed.1)

theorem after {x : M α} {f : α → M β} {a : α} (ran : x.run w = .ok a w) (rest : (f a).Finishes K w R) :
    (x >>= f).Finishes K w R := M.Ends.after ran rest

theorem mono {Q' : α → World → Prop} {x : M α} (h : x.Finishes K w Q) (more : ∀ a w', Q a w' → Q' a w') :
    x.Finishes K w Q' :=
  M.Ends.mono h (fun a w' made => ⟨made.1, more a w' made.2⟩) fun _ _ failed => failed

theorem ran {x : M α} (h : x.Finishes K w Q) : x.Finishes K w fun a w' => Q a w' ∧ x.run w = .ok a w' := by
  unfold Finishes M.Ends at h ⊢
  split <;> rename_i ran <;> rw [ran] at h
  · exact ⟨h.1, h.2, ran⟩
  · exact h

section

variable (lasting : Lasting N K)

include lasting

theorem ofStill {x : M α} (fine : w.Fine K) (h : x.Ends w (fun a w' => w.Still w' ∧ Q a w') (Raises w)) :
    x.Finishes K w fun a w' => w.Still w' ∧ Q a w' :=
  (M.Ends.leads h).mono (fun _ _ ⟨made, leads⟩ => ⟨fine.still lasting leads made.1, made⟩)
    fun _ _ ⟨⟨still, raised⟩, leads⟩ => ⟨fine.still lasting leads still, raised⟩

theorem raises {x : M α} (fine : w.Fine K) (h : x.Ends w (fun _ _ => False) (Raises w)) : x.Finishes K w Q :=
  (M.Ends.leads h).mono (fun _ _ none => none.1.elim)
    fun _ _ ⟨⟨still, raised⟩, leads⟩ => ⟨fine.still lasting leads still, raised⟩

theorem raise {cls message : String} (fine : w.Fine K) : (raise cls message : M α).Finishes K w Q :=
  .raises lasting fine (raise_ends _ _ fun e _ still => ⟨still, e, rfl⟩)

end

theorem ofRun {x y : M α} (same : x.run w = y.run w) (h : y.Finishes K w Q) : x.Finishes K w Q := by
  unfold Finishes M.Ends at h ⊢
  rwa [same]

end M.Finishes

/-! Sources without a module. -/

theorem countP_lt {α : Type} {p q : α → Bool} {xs : List α} (less : ∀ x, q x = true → p x = true) {x : α}
    (member : x ∈ xs) (first : p x = true) (last : q x = false) : xs.countP q < xs.countP p := by
  obtain ⟨before, after, rfl⟩ := List.append_of_mem member
  have left : before.countP q ≤ before.countP p := List.countP_mono_left fun x _ => less x
  have right : after.countP q ≤ after.countP p := List.countP_mono_left fun x _ => less x
  simp only [List.countP_append, List.countP_cons, first, last, Bool.false_eq_true, if_true, if_false]
  omega

section

variable {w w' : World}

theorem World.Leads.unloaded_le (leads : w.Leads w') : w'.unloaded ≤ w.unloaded := by
  unfold World.unloaded
  rw [leads.cache.sources]
  refine List.countP_mono_left fun e _ absent => ?_
  cases there : w.cache.instances.lookup e.1 with
  | none => rfl
  | some m => simp [leads.cache.kept e.1 m there] at absent

theorem unloaded_begin {p source : String} {m : Ref} {o : Obj} (absent : w.cache.instances.lookup p = none)
    (recorded : w.cache.sources.lookup p = some source) :
    World.unloaded { w.push o with cache := w.cache.begin p source m } < w.unloaded := by
  have began (q : String) : (w.cache.begin p source m).instances.lookup q
      = if q = p then some m else w.cache.instances.lookup q := lookup_setKey ..
  obtain ⟨before, after, same, -⟩ := List.lookup_eq_some_iff.mp recorded
  have member : (p, source) ∈ w.cache.sources := by simp [same]
  refine countP_lt (fun e absent => ?_) member (by simp [absent]) ?_
  · dsimp only at absent
    rw [began] at absent
    split at absent
    · cases absent
    · exact absent
  · dsimp only
    rw [began, if_pos rfl]
    rfl

end

/-! What loads ask of a host. -/

section

variable (N : Ref → Prop) (K : World → Prop)

/-- What the bodies of modules ask of a host, as long as some sources at most have no module. -/
structure Host.Serves (h : Host) (u : Nat) : Prop where
  refuses : ∀ {w : World} {r : Ref} (args : List Value), w.Native → w.IsModule r →
    (h.call (.ref r) args []).Ends w (fun _ _ => False) (Raises w)
  makes : ∀ {w : World} {r : Ref} (args : List Value), w.Sane → isErrorRef r = true →
    (h.call (.ref r) args []).Ends w (Excepts w args) (Raises w)
  loads : ∀ {w : World} {r : Ref} {dir : String} (s : String) (name : Option String), w.Fine K → w.unloaded ≤ u →
    (w.object r).payload = .loader dir → (h.call (.ref r) (loaderArgs s name) []).Finishes K w fun _ _ => True

/-- What loads ask of a host, as long as some sources at most have no module: that it refuses to call modules and
runs elementary bodies when there are fewer. -/
structure Host.Bears (h : Host) (u : Nat) : Prop where
  refuses : ∀ {w : World} {r : Ref} (args : List Value), w.Native → w.IsModule r →
    (h.call (.ref r) args []).Ends w (fun _ _ => False) (Raises w)
  runs : ∀ {w : World} {p : String} {m : Ref} {body : List Tree.Stmt} {program : Code.Program}, w.Fine K →
    w.cache.instances.lookup p = some m → N m → w.unloaded < u → areElementary body = true →
    Code.compile { file := p, deferred := true } body = .ok program → (runIn h m program).Finishes K w fun _ _ => True

end

/-! Bodies. -/

theorem execute_passes {h : Host} {m : Ref} {I : World → Prop} {f : Frame} {w : World} {k : Nat}
    (inside : f.Inside f.code m) (start : f.standing 0 [] = f) (free : f.guards = [])
    (passes : Passes h m I f.code 0 k) (last : Stands f.code k [.const .none, .return]) (inv : I w) :
    (execute h f.patience f).Ends w (fun _ w' => I w') fun e w' => I w' ∧ ∃ exc, e = .raised exc := by
  have size : k + 2 ≤ f.code.instrs.size := by
    have within := last.length_le
    simp only [List.length_cons, List.length_nil, List.length_drop, Array.length_toList] at within
    omega
  obtain ⟨j, short, ⟨us, w', goes, inv', rfl⟩ | ⟨e, w', failed, inv'⟩⟩ := passes f w inside inv trivial
  · rw [start, Nat.zero_add] at goes
    have nothing : Goes h 1 (f.standing k []) w' (f.standing (k + 1) [.none]) w' := .step last.head rfl
    have at_ : (f.standing (k + 1) [.none]).code.instrs[(f.standing (k + 1) [.none]).pc]? = some .return :=
      last.tail.head
    have patience : f.patience = (f.patience - (1 + j) - 1 + 1) + (1 + j) := by
      unfold Frame.patience
      omega
    have ran : (execute h f.patience f).run w = .ok (.returned .none) w' := by
      rw [patience, goes.trans nothing, execute]
      simp only [at_]
      rfl
    exact .ofOk ran inv'
  · rw [start] at failed
    have caught : f.caught e = none := by rw [Frame.caught, free]
    have patience : f.patience = (f.patience - j) + j := by
      unfold Frame.patience
      omega
    have ran : (execute h f.patience f).run w = .error (.raised e) w' := by
      rw [patience, failed, caught]
      rfl
    exact .ofError ran ⟨inv', e, rfl⟩

section

variable {h : Host} {u : Nat} {N : Ref → Prop} {K : World → Prop} (lasting : Lasting N K)

include lasting

theorem Host.Serves.surrounds (serves : h.Serves K u) (p : String) {m : Ref} (own : N m) :
    Surrounds h m fun w => w.Fine K ∧ w.unloaded ≤ u ∧ w.cache.instances.lookup p = some m where
  sane inv := inv.1.orderly.sane
  still inv leads still :=
    ⟨inv.1.still lasting leads still, Nat.le_trans leads.unloaded_le inv.2.1, leads.cache.kept p m inv.2.2⟩
  bind inv leads free sets :=
    ⟨⟨inv.1.orderly.sets leads sets (.inl free), lasting.binds inv.1.orderly own sets inv.1.lasts⟩,
      Nat.le_trans leads.unloaded_le inv.2.1, leads.cache.kept p m inv.2.2⟩
  require {w v} inv found := by
    obtain ⟨r, rfl, is | ⟨-, loader⟩⟩ := (inv.1.orderly.instances p m inv.2.2).1.reserved _ v isReserved_require found
    · exact ⟨r, rfl, .inl is⟩
    · exact ⟨r, rfl, .inr loader⟩
  error {w n v} inv error found := by
    have reserved : isReserved n = true := by simp [isReserved, error]
    obtain ⟨r, rfl, is | ⟨rfl, -⟩⟩ := (inv.1.orderly.instances p m inv.2.2).1.reserved n v reserved found
    · exact ⟨r, rfl, is⟩
    · exact absurd error (by decide +kernel)
  module args inv is := serves.refuses args inv.1.orderly.sane.native is
  raises args inv error := serves.makes args inv.1.orderly.sane error
  load s name inv loader := by
    have kept {w'} (leads : World.Leads _ w') := leads.cache.kept p m inv.2.2
    refine (M.Ends.leads (serves.loads s name inv.1 inv.2.1 loader)).mono (fun _ _ after => ?_) fun _ _ after => ?_
    · obtain ⟨⟨fine, -⟩, leads⟩ := after
      exact ⟨fine, Nat.le_trans leads.unloaded_le inv.2.1, kept leads⟩
    · obtain ⟨⟨fine, raised⟩, leads⟩ := after
      exact ⟨⟨fine, Nat.le_trans leads.unloaded_le inv.2.1, kept leads⟩, raised⟩

theorem Host.Serves.runs (serves : h.Serves K u) {w : World} {p : String} {m : Ref} {body : List Tree.Stmt}
    {program : Code.Program} (fine : w.Fine K) (few : w.unloaded ≤ u) (there : w.cache.instances.lookup p = some m)
    (own : N m) (elementary : areElementary body = true)
    (compiled : Code.compile { file := p, deferred := true } body = .ok program) :
    (runIn (deeper h) m program).Finishes K w fun _ _ => True := by
  obtain ⟨k, passes, last⟩ := compile_passes (serves.surrounds lasting p own) elementary compiled
  have inside : (mainFrame m program).Inside (mainFrame m program).code m := ⟨rfl, rfl, rfl, nofun⟩
  have ends := execute_passes inside rfl rfl passes last ⟨fine, few, there⟩
  exact M.Ends.bind (M.Ends.mono ends (fun _ _ inv => ⟨inv.1, trivial⟩) fun _ _ ⟨inv, raised⟩ => ⟨inv.1, raised⟩)

end

/-! Loads. -/

section

variable {w : World}

theorem raiseFault_ends {α : Type} {Q : α → World → Prop} (file : String) (f : Source.Fault) :
    (raiseFault file f : M α).Ends w Q (Raises w) := by
  obtain ⟨place, w₁, first⟩ := M.Returns.newOf "tuple" (.tuple [.str file, .int f.line, .int f.offset, .none]) w
  obtain ⟨exc, w₂, second⟩ := M.Returns.newOf (faultClass f.kind) (.exception { args := [.str f.message, place] }) w₁
  obtain ⟨w₃, ran⟩ := throwExc_error (α := α) exc w₂
  have failed : (raiseFault file f : M α).run w = .error (.raised exc) w₃ :=
    (M.run_bind_ok first).trans ((M.run_bind_ok second).trans ran)
  exact .ofError failed ⟨(isStill_raiseFault file f).ofError failed, exc, rfl⟩

theorem moduleProgram_ends (p source : String) : (moduleProgram p source).Ends w (fun program w' => w.Still w' ∧
    ∃ body, Cell.parseText source = .ok body ∧ Code.compile { file := p, deferred := true } body = .ok program)
    (Raises w) := by
  obtain ⟨w₁, ran⟩ : ∃ w₁, (remember p (linesWithEnds source)).run w = .ok () w₁ := ⟨_, rfl⟩
  have quiet : (remember p (linesWithEnds source)).IsStill := .change fun _ => rfl
  have still := quiet.ofOk ran
  have failed {e : Stop} {w' : World} (raises : Raises w₁ e w') : Raises w e w' := ⟨still.trans raises.1, raises.2⟩
  refine M.Ends.bind (.ofOk ran (M.Ends.bind ?_))
  unfold statements
  split
  next body parsed =>
    refine M.Ends.pure ?_
    cases compiled : Code.compile { file := p, deferred := true } body with
    | ok program => exact M.Ends.pure ⟨still, body, parsed, compiled⟩
    | error f => exact (raiseFault_ends p f).mono (fun _ _ none => none) fun _ _ => failed
  next t _ => exact raise_ends _ _ fun e _ after => failed ⟨after, e, rfl⟩
  next f _ => exact (raiseFault_ends p f).mono (fun _ _ none => none) fun _ _ => failed

theorem moduleOf_reserved (name : String) (attrs : Names) {n : String} (reserved : isReserved n = true) :
    (moduleOf name attrs).attrs.lookup n = attrs.lookup n := by
  have other {k : String} (special : k ∈ specialNames) : n ≠ k := by
    rintro rfl
    simp [isReserved_special special] at reserved
  change List.lookup n (_ :: _ :: _ :: _ :: _ :: attrs) = _
  simp only [lookup_pair_cons]
  rw [if_neg (other (by simp [specialNames])), if_neg (other (by simp [specialNames])),
    if_neg (other (by simp [specialNames])), if_neg (other (by simp [specialNames])),
    if_neg (other (by simp [specialNames]))]

theorem isReserved_file : isReserved "__file__" = false := isReserved_special (by simp [specialNames])

theorem isReserved_path : isReserved "__path__" = false := isReserved_special (by simp [specialNames])

variable {h : Host} {u : Nat} {N : Ref → Prop} {K : World → Prop} (lasting : Lasting N K)

include lasting

theorem hosting_finishes (fine : w.Fine K) (s : String) :
    (hostImport s).Finishes K w fun m w' => w'.Known m :=
  (M.Ends.leads (hostImport_ends s)).mono
    (fun _ _ ⟨⟨hosting, found⟩, leads⟩ => ⟨fine.hosting lasting leads hosting, .inr (isHost_of_lookup found)⟩)
    fun _ _ ⟨⟨hosting, raised⟩, leads⟩ => ⟨fine.hosting lasting leads hosting, raised⟩

theorem hostImport_finishes (h : Host) (fine : w.Fine K) (s : String) :
    ((importing h).toLoading.hostImport s).Finishes K w fun m w' => w'.Known m := by
  unfold Loading.hostImport
  split
  · exact .raises lasting fine (refuseImport_ends _ _ s fun e _ still => ⟨still, e, rfl⟩)
  · exact hosting_finishes lasting fine s

theorem World.Fine.reach (fine : w.Fine K) (p : String) (m : Ref) :
    World.Fine { w with cache := w.cache.reach p m } K :=
  fine.ofLoaded lasting rfl (fun _ _ there => there) fun _ _ there => .inl there

theorem install_finishes (bears : h.Bears N K u) (fine : w.Fine K) (few : w.unloaded ≤ u) {p source name : String}
    {body : List Tree.Stmt} {program : Code.Program} {l : Ref} (absent : w.cache.instances.lookup p = none)
    (recorded : w.cache.sources.lookup p = some source) (elementary : areElementary body = true)
    (compiled : Code.compile { file := p, deferred := true } body = .ok program)
    (loader : (w.object l).payload = .loader (Path.parent p)) :
    (install p source (moduleOf name [("__file__", .str p), ("__require__", .ref l)])
      fun module => runIn h module program).Finishes K w fun m w' => w'.Known m := by
  let o := moduleOf name [("__file__", .str p), ("__require__", .ref l)]
  let w₁ : World := { w.push o with cache := w.cache.begin p source w.heap.size }
  have begun : w₁.cache.instances.lookup p = some w.heap.size := by
    change (setKey p w.heap.size w.cache.instances).lookup p = _
    rw [lookup_setKey, if_pos rfl]
  have first : w₁.Fine K := by
    refine fine.comes lasting (by simp [Cache.holds, recorded]) rfl ⟨name, rfl⟩ (fun n v reserved found => ?_) absent
      rfl rfl
    have other : n ≠ "__file__" := by
      rintro rfl
      rw [isReserved_file] at reserved
      cases reserved
    rw [moduleOf_reserved _ _ reserved, lookup_pair_cons, if_neg other, lookup_pair_cons] at found
    split at found
    next same =>
      cases found
      exact ⟨l, rfl, same, _, loader⟩
    next => cases found
  have own := lasting.fresh fine.orderly fine.lasts
  have ends := bears.runs first begun own (Nat.lt_of_lt_of_le (unloaded_begin absent recorded) few) elementary compiled
  have leads := (runIn h w.heap.size program).leads w₁
  unfold M.Finishes M.Ends at ends
  cases ran : (runIn h w.heap.size program).run w₁ with
  | ok _ w' =>
    rw [ran] at ends leads
    exact .ofOk (install_returns absent recorded ran)
      (ends.1.ofLoaded lasting rfl (fun _ _ there => there) fun _ _ there => .inl there)
      (.inl ⟨p, leads.cache.kept p _ begun⟩)
  | error e w' =>
    rw [ran] at ends leads
    exact M.Ends.ofError (install_fails absent recorded ran) ⟨ends.1.fail lasting (leads.cache.kept p _ begun) own, ends.2⟩

theorem atPath_finishes (bears : h.Bears N K u) (fine : w.Fine K) (few : w.unloaded ≤ u) (p : String) :
    ((importing h).toLoading.atPath p).Finishes K w fun m w' => w'.Known m := by
  cases there : w.cache.instances.lookup p with
  | some m => exact .ofOk (atPath_there there) (fine.reach lasting p m) (.inl ⟨p, there⟩)
  | none =>
    unfold Loading.atPath
    refine .after (reach_absent there) (.after (show (importing h).toLoading.get.run w = .ok w.cache w from rfl) ?_)
    cases recorded : w.cache.sources.lookup p with
    | none => exact hostImport_finishes lasting h fine p
    | some source =>
      dsimp only
      unfold Loading.instantiate
      refine M.Finishes.bind (.ofStill lasting fine (moduleProgram_ends p source)) ?_
      rintro program w₁ leads₁ fine₁ ⟨still₁, body, parsed, compiled⟩
      have elementary : areElementary body = true := by
        simpa [isElementaryText, parsed] using fine.orderly.sources p source recorded
      refine .after (show (importing h).toLoading.get.run w₁ = .ok w₁.cache w₁ from rfl) ?_
      let w₂ := w₁.push { cls := nativeRef "Loader", payload := .loader (Path.parent p) }
      have made : (newLoader (Path.parent p)).run w₁ = .ok (.ref w₁.heap.size) w₂ := rfl
      have still₂ : w₁.Still w₂ := .push w₁ _
      have leads₂ := M.leads_of_ok made
      have same : w₂.cache = w.cache := still₁.cache
      refine M.Ends.bind (.ofOk made (install_finishes lasting bears (fine₁.still lasting leads₂ still₂) ?_
        (same ▸ there) (same ▸ recorded) elementary compiled ?_))
      · exact Nat.le_trans (leads₁.trans leads₂).unloaded_le few
      · rw [World.object_push, if_pos rfl]

theorem atDir_finishes (h : Host) (fine : w.Fine K) {p : String} (around : w.cache.isAround p = true) :
    ((importing h).toLoading.atDir p).Finishes K w fun m w' => w'.Known m := by
  cases there : w.cache.instances.lookup p with
  | some m => exact .ofOk (atDir_there there) (fine.reach lasting p m) (.inl ⟨p, there⟩)
  | none =>
    have ran := atDir_absent (h := h) there
    refine .ofOk ran ?_ (.inl ⟨p, atDir_ok around ran⟩)
    refine (fine.still lasting (.push w _) (.push w _)).comes lasting (by simp [Cache.holds, World.push, around]) rfl
      ⟨_, rfl⟩ (fun n v reserved found => ?_) there rfl (by simp [Cache.openDir, World.push, around])
    have other : n ≠ "__path__" := by
      rintro rfl
      rw [isReserved_path] at reserved
      cases reserved
    rw [dirModule, moduleOf_reserved _ _ reserved, lookup_pair_cons, if_neg other] at found
    cases found

theorem attachTo_finishes (h : Host) (fine : w.Fine K) {package : Option Ref} {a : String} {m : Ref}
    (around : ∀ r, package = some r → w.Known r) (known : w.Known m)
    (attach : ∀ r w', package = some r → w.Sets w' r a (.ref m) → K w') :
    ((importing h).toLoading.attachTo package a m).Finishes K w fun _ _ => True := by
  cases package with
  | none => exact .pure fine trivial
  | some r =>
    rw [attachTo_some]
    by_cases set : settable a = true
    · obtain ⟨w', ran, sets⟩ := sets_run r a (.ref m) w
      rw [attach_set h r set]
      have orderly := fine.orderly.sets (M.leads_of_ok ran) sets
        (.inr ⟨(fine.orderly.silent (around r rfl)).module, m, rfl, (fine.orderly.silent known).module⟩)
      exact .ofOk ran ⟨orderly, attach r w' rfl sets⟩ trivial
    · simp only [importing]
      split
      · exact .raise lasting fine
      · exact .raise lasting fine
      next not_class not_dict => exact absurd (by simpa [settable] using ⟨not_class, not_dict⟩) set

theorem loadPlace_finishes (bears : h.Bears N K u) {w₁ : World} (leads : w.Leads w₁) (fine : w₁.Fine K)
    (few : w.unloaded ≤ u) (s dir : String) :
    (loadPlace h w.cache s dir).Finishes K w₁ fun m w' => w'.Known m := by
  unfold loadPlace
  split
  · exact atPath_finishes lasting bears fine (Nat.le_trans leads.unloaded_le few) _
  next d _ found =>
    refine atDir_finishes lasting h fine ?_
    rw [leads.cache.isAround, Cache.isAround_namespaceDir found]
  · exact hostImport_finishes lasting h fine s

/-- A load returns a module or raises. The packages around the module come first, and each has one name less. -/
theorem load_finishes (bears : h.Bears N K u) (fine : w.Fine K) (few : w.unloaded ≤ u) (s dir : String) :
    ((importing h).toLoading.load s dir).Finishes K w fun m w' => w'.Known m := by
  induction length : (Specifier.parts s).length using Nat.strongRecOn generalizing s with
  | ind n ih =>
    by_cases self : some s = w.cache.selfName
    · exact .ofRun (by rw [load_run, if_pos self]) (hosting_finishes lasting fine s)
    by_cases served : w.cache.serves s dir = true
    · refine .ofRun (y := loadServed h w.cache s dir) (by rw [load_run, if_neg self, if_pos served]) ?_
      have package : (loadPackage h w.cache s dir).Finishes K w fun package w' => ∀ r, package = some r →
          w'.Known r ∧ isInside s = true ∧ w.Answers w' dir (Specifier.parent s) r := by
        unfold loadPackage
        split
        next both =>
          rw [Bool.and_eq_true] at both
          have shorter := length_parts_parent both.1
          refine (ih _ (by omega) _ rfl).ran.bind fun r w' _ fine' ⟨known, ran⟩ => .pure fine' ?_
          rintro _ ⟨⟩
          exact ⟨known, both.1, load_answers (.inr both.2) ran⟩
        next => exact .pure fine nofun
      refine package.bind fun package w₁ leads₁ fine₁ around => ?_
      refine (loadPlace_finishes lasting bears leads₁ fine₁ few s dir).ran.bind fun m w₂ leads₂ fine₂ ⟨known, ran⟩ => ?_
      have attach (r : Ref) (w' : World) (same : package = some r)
          (sets : w₂.Sets w' r (Specifier.last s) (.ref m)) : K w' := by
        obtain ⟨-, inside, answers⟩ := around r same
        exact lasting.attach fine.orderly (leads₁.trans leads₂) fine₂.orderly inside served self (answers.leads leads₂)
          (loadPlace_ok leads₁ self served ran) sets fine₂.lasts
      refine (attachTo_finishes lasting h fine₂ (fun r same => (around r same).1.leads leads₂) known attach).bind
        fun _ w₃ leads₃ fine₃ _ => .pure fine₃ (known.leads leads₃)
    · exact .ofRun (by rw [load_run, if_neg self, if_neg served]) (hostImport_finishes lasting h fine s)

theorem attribute_finishes (bears : h.Bears N K u) (fine : w.Fine K) {m : Ref} (known : w.Known m) (n : String) :
    ((importing h).attribute? m n).Finishes K w fun _ _ => True := by
  have looked := settles_getAttr (h := h) fine.orderly.sane (fine.orderly.silent known)
    (fun args native is => (bears.refuses args native is).mono (fun _ _ none => none.elim) fun _ _ failed => failed) n
  have run := attribute_run (h := h) (m := m) (n := n) (w := w)
  rcases looked.cases with ⟨v, w', ran, still⟩ | ⟨e, w', ran, still⟩
  · rw [ran] at run
    exact .ofOk run (fine.still lasting (M.leads_of_ok run) still) trivial
  · rw [ran] at run
    dsimp only at run
    split at run
    · exact .ofOk run (fine.still lasting (M.leads_of_ok run) still) trivial
    · exact M.Ends.ofError run ⟨fine.still lasting (M.leads_of_error run) still, e, rfl⟩

omit lasting in
theorem orAbsent_finishes (h : Host) {x : M Ref} (finishes : x.Finishes K w fun _ _ => True) :
    ((importing h).orAbsent x).Finishes K w fun _ _ => True := by
  have run := orAbsent_run (h := h) (x := x) (w := w)
  unfold M.Finishes M.Ends at finishes
  cases ran : x.run w with
  | ok m w' =>
    rw [ran] at run finishes
    exact .ofOk run finishes.1 trivial
  | error e w' =>
    rw [ran] at run finishes
    obtain ⟨fine, e, rfl⟩ := finishes
    dsimp only at run
    split at run
    · exact .ofOk run fine trivial
    · exact M.Ends.ofError run ⟨fine, e, rfl⟩

theorem callLoader_finishes (bears : h.Bears N K u) (fine : w.Fine K) (few : w.unloaded ≤ u) (dir s : String)
    (name : Option String) : (callLoader h dir (loaderArgs s name) []).Finishes K w fun _ _ => True := by
  have load {w' : World} (fine' : w'.Fine K) (leads : w.Leads w') (s : String) :=
    load_finishes lasting bears fine' (Nat.le_trans leads.unloaded_le few) s dir
  cases name with
  | none =>
    refine .ofRun (callLoader_module h dir s w) ?_
    exact (load fine (.refl w) s).bind fun _ _ _ fine' _ => .pure fine' trivial
  | some n =>
    refine .ofRun (callLoader_name h dir s n w) ?_
    unfold loadName Importing.importName
    refine .after (show (importing h).toLoading.get.run w = .ok w.cache w from rfl) ?_
    split
    · exact (load fine (.refl w) _).bind fun _ _ _ fine' _ => .pure fine' trivial
    · refine (load fine (.refl w) s).bind fun m w₁ leads₁ fine₁ known => ?_
      refine (attribute_finishes lasting bears fine₁ known n).bind fun v w₂ leads₂ fine₂ _ => ?_
      cases v with
      | some v => exact .pure fine₂ trivial
      | none =>
        have second := (load fine₂ (leads₁.trans leads₂) (Specifier.join s n)).mono fun _ _ _ => trivial
        refine (orAbsent_finishes h second).bind fun m w₃ _ fine₃ _ => ?_
        cases m with
        | some m => exact .pure fine₃ trivial
        | none => exact .raises lasting fine₃ (refuseImport_ends _ _ s fun e _ still => ⟨still, e, rfl⟩)

/-! Hosts that are deep enough. -/

theorem Host.Bears.serves (bears : h.Bears N K u) : (deeper h).Serves K u where
  refuses args native is := callModule_ends native is args []
  makes args sane error := callError_ends error args sane
  loads {w r dir} s name fine few loader := by
    refine .ofRun (y := callLoader h dir (loaderArgs s name) []) ?_
      (callLoader_finishes lasting bears fine few dir s name)
    change (callObject h r (loaderArgs s name) []).run w = _
    unfold callObject
    rw [M.run_bind_ok (obj_run r w)]
    have payload : (w.heap.getD r default).payload = .loader dir := loader
    simp only [payload]

omit lasting in
theorem Host.Bears.mono {u' : Nat} (bears : h.Bears N K u) (fewer : u' ≤ u) : h.Bears N K u' :=
  ⟨bears.refuses, fun fine there own few => bears.runs fine there own (Nat.lt_of_lt_of_le few fewer)⟩

/-- One more source takes two more levels: the call of the loader, and the frame that it enters. -/
theorem Host.Serves.bears (serves : h.Serves K u) : (deeper h).Bears N K (u + 1) where
  refuses args native is := callModule_ends native is args []
  runs fine there own few elementary compiled :=
    serves.runs lasting fine (Nat.le_of_lt_succ few) there own elementary compiled

theorem bears_deepen (h : Host) {n : Nat} (deep : 2 * u + 1 ≤ n) : (deepen n h).Bears N K u := by
  induction u generalizing n with
  | zero =>
    obtain ⟨k, rfl⟩ : ∃ k, n = k + 1 := ⟨n - 1, by omega⟩
    exact ⟨fun args native is => callModule_ends native is args [], fun _ _ _ none => absurd none (Nat.not_lt_zero _)⟩
  | succ u ih =>
    obtain ⟨k, rfl⟩ : ∃ k, n = k + 2 := ⟨n - 2, by omega⟩
    exact ((ih (n := k) (by omega)).serves lasting).bears lasting

theorem bears_hostAt (n u : Nat) : (hostAt n).Bears N K u := by
  have refuses {α : Type} {w : World} {Q : α → World → Prop} : (recursionError : M α).Ends w Q (Raises w) :=
    raise_ends _ _ fun e _ still => ⟨still, e, rfl⟩
  have bottom : (hostAt 0).Serves K u :=
    ⟨fun _ _ _ => refuses, fun _ _ _ => refuses, fun _ _ fine _ _ => .raises lasting fine refuses⟩
  have both : (hostAt n).Bears N K u ∧ (hostAt (n + 1)).Bears N K u := by
    induction n with
    | zero =>
      refine ⟨⟨fun _ _ _ => refuses, fun fine _ _ _ _ _ => .raises lasting fine (M.Ends.bind refuses)⟩, ?_⟩
      exact (bottom.bears lasting).mono (Nat.le_succ u)
    | succ n ih => exact ⟨ih.2, ((ih.1.serves lasting).bears lasting).mono (Nat.le_succ u)⟩
  exact both.1

end

/-! Histories. -/

/-- An execution that returns or raises. -/
def M.Concludes {α : Type} (x : M α) (w : World) : Prop :=
  (∃ a w', x.run w = .ok a w') ∨ ∃ e w', x.run w = .error (.raised e) w'

/-- Among some events, no body begins while another run of its path is under way. -/
def Apart (js : List (Event Ref)) : Prop :=
  ∀ later earlier p s m, js = later ++ .began p s m :: earlier →
    ∀ s₀ m₀, .began p s₀ m₀ ∈ earlier → Cache.Over earlier p m₀

def Closed (js : List (Event Ref)) : Prop := ∀ p s m, .began p s m ∈ js → Cache.Over js p m

theorem World.Leads.apart {w w' : World} (leads : w.Leads w') (apart : Apart w.cache.journal)
    (closed : Closed w.cache.journal) : Apart w'.cache.journal ∧ Closed w'.cache.journal := by
  obtain ⟨new, journal, runs⟩ := leads.runs
  have before {p : String} {m : Ref} {js : List (Event Ref)} (ended : Cache.Over w.cache.journal p m) :
      Cache.Over (js ++ w.cache.journal) p m := by simpa using ended.weaken [] js
  rw [journal]
  refine ⟨fun later earlier p s m split s₀ m₀ began => ?_, fun p s m began => ?_⟩
  · rcases split_append split with ⟨rest, -, old⟩ | ⟨during, inside, rfl⟩
    · exact apart rest earlier p s m old s₀ m₀ began
    · rcases List.mem_append.mp began with began | began
      · exact .inr (List.mem_append_left _ (runs.alone later during p s m inside s₀ m₀ began))
      · exact before (closed p s₀ m₀ began)
  · rcases List.mem_append.mp began with began | began
    · simpa using (runs.closed p s m began).weaken w.cache.journal []
    · exact before (closed p s m began)

/-- Operations that record elementary sources, load modules or call loaders. -/
inductive ModuleOp.IsElementary : ModuleOp → Prop where
  | update {modules : List (String × String)} (texts : ∀ e ∈ modules, isElementaryText e.2 = true) :
      IsElementary (.update modules)
  | load (s dir : String) : IsElementary (.load s dir)
  | call (dir s : String) (name : Option String) : IsElementary (.call dir (loaderArgs s name) [])

/-- Loads and calls of loaders, on whatever host. -/
inductive IsLoad : (Host → M Value) → Prop where
  | load (s dir : String) : IsLoad fun h => loadModule h s dir
  | call (dir s : String) (name : Option String) : IsLoad fun h => callLoader h dir (loaderArgs s name) []

theorem IsLoad.finishes {x : Host → M Value} (is : IsLoad x) {w : World} (orderly : w.Orderly) :
    (x host).Finishes (fun _ => True) w (fun _ _ => True) ∧
      ∀ below n, 2 * w.unloaded + 1 ≤ n → (x (deepen n below)).Finishes (fun _ => True) w fun _ _ => True := by
  have finishes {h : Host} (bears : h.Bears (fun _ => True) (fun _ => True) w.unloaded) :
      (x h).Finishes (fun _ => True) w fun _ _ => True := by
    have fine : w.Fine fun _ => True := ⟨orderly, trivial⟩
    cases is with
    | load s dir =>
      exact (load_finishes lasting_true bears fine (Nat.le_refl _) s dir).bind fun _ _ _ fine' _ => .pure fine' trivial
    | call dir s name => exact callLoader_finishes lasting_true bears fine (Nat.le_refl _) dir s name
  exact ⟨finishes (bears_hostAt lasting_true _ _), fun below n deep => finishes (bears_deepen lasting_true below deep)⟩

theorem M.Finishes.concludes {α : Type} {x : M α} {K : World → Prop} {w : World} {Q : α → World → Prop}
    (h : x.Finishes K w Q) :
    x.Concludes w := by
  unfold Finishes M.Ends at h
  split at h
  next a w' ran => exact .inl ⟨a, w', ran⟩
  next ran =>
    obtain ⟨-, e, rfl⟩ := h
    exact .inr ⟨e, _, ran⟩

theorem M.Finishes.orderly {α : Type} {x : M α} {K : World → Prop} {w : World} {Q : α → World → Prop}
    (h : x.Finishes K w Q) : (worldAfter (x.run w)).Orderly := by
  unfold Finishes M.Ends at h
  split at h <;> rename_i ran <;> rw [ran] <;> exact h.1.orderly

theorem ModuleOp.IsElementary.perform {op : ModuleOp} (elementary : op.IsElementary) {w : World} (orderly : w.Orderly)
    (apart : Apart w.cache.journal ∧ Closed w.cache.journal) :
    (op.perform w).Orderly ∧ Apart (op.perform w).cache.journal ∧ Closed (op.perform w).cache.journal := by
  have load {x : Host → M Value} (is : IsLoad x) : (worldAfter ((x host).run w)).Orderly ∧
      Apart (worldAfter ((x host).run w)).cache.journal ∧ Closed (worldAfter ((x host).run w)).cache.journal :=
    ⟨(is.finishes orderly).1.orderly,
      World.Leads.apart ((x host).leads w) apart.1 apart.2⟩
  cases elementary with
  | @update modules texts =>
    refine ⟨orderly.update texts, ?_⟩
    change Apart (w.cache.update modules).journal ∧ Closed (w.cache.update modules).journal
    rw [Cache.update_journal]
    exact apart
  | load s dir => exact load (.load s dir)
  | call dir s name => exact load (.call dir s name)

theorem World.Orderly.after {ops : List ModuleOp} (elementary : ∀ op ∈ ops, op.IsElementary) {w : World}
    (orderly : w.Orderly) (apart : Apart w.cache.journal ∧ Closed w.cache.journal) :
    (w.afterModules ops).Orderly ∧ Apart (w.afterModules ops).cache.journal ∧
      Closed (w.afterModules ops).cache.journal := by
  induction ops generalizing w with
  | nil => exact ⟨orderly, apart⟩
  | cons op ops ih =>
    have first := (elementary op List.mem_cons_self).perform orderly apart
    exact ih (fun op' member => elementary op' (List.mem_cons_of_mem _ member)) first.1 first.2

theorem World.Orderly.afterModules (places : Path.Places) (rootDir extension : String) (selfName : Option String)
    {ops : List ModuleOp} (elementary : ∀ op ∈ ops, op.IsElementary) :
    let w := (World.start { places, rootDir, extension, selfName }).afterModules ops
    w.Orderly ∧ Apart w.cache.journal ∧ Closed w.cache.journal := by
  have none_ : Apart [] ∧ Closed [] := by
    refine ⟨fun later _ _ _ _ split => ?_, fun _ _ _ began => ?_⟩
    · simp at split
    · cases began
  exact World.Orderly.after elementary (.start rfl rfl) none_

/-- However elementary sources import each other and fail, a load or a call of a loader returns or raises, on the
host that programs run on and on every host that is two levels deep for each source without a module, whatever
lies below. No body begins while another run of its path is under way, and the paths that are loaded stay. -/
theorem loading_ends (places : Path.Places) (rootDir extension : String) (selfName : Option String)
    {ops : List ModuleOp} (elementary : ∀ op ∈ ops, op.IsElementary) :
    let w := (World.start { places, rootDir, extension, selfName }).afterModules ops
    ∀ x, IsLoad x →
      (x host).Concludes w ∧
      (∀ below n, 2 * w.unloaded + 1 ≤ n → (x (deepen n below)).Concludes w) ∧
      ∀ h, let w' := worldAfter ((x h).run w)
        Apart w'.cache.journal ∧
        ∀ p, (w.cache.instances.lookup p).isSome → (w'.cache.instances.lookup p).isSome := by
  intro w x is
  obtain ⟨orderly, apart⟩ := World.Orderly.afterModules places rootDir extension selfName elementary
  obtain ⟨here, deeper⟩ := is.finishes orderly
  refine ⟨here.concludes, fun below n deep => (deeper below n deep).concludes, fun h => ?_⟩
  have leads : w.Leads (worldAfter ((x h).run w)) := (x h).leads w
  exact ⟨(leads.apart apart.1 apart.2).1, fun p => leads.kept⟩

/-- Two modules that import each other, of which one fails in the end. -/
theorem loading_ends_circular :
    let ops : List ModuleOp := [.update [("/w/a.py", "x = __require__('b')\n"), ("/w/b.py",
      "try:\n    __require__('.a', 'x')\nexcept:\n    pass\nraise\n")]]
    let w := (World.start { places := ⟨"/w", "/home/user"⟩, rootDir := "/w" }).afterModules ops
    (∀ op ∈ ops, op.IsElementary) ∧ w.unloaded = 2 ∧ (loadModule host "a" "/w").Concludes w ∧
      ∀ below, (loadModule (deepen 5 below) "a" "/w").Concludes w := by
  intro ops w
  have elementary : ∀ op ∈ ops, op.IsElementary := by
    intro op member
    rw [List.mem_singleton.mp member]
    refine .update fun e member => ?_
    have all : ([("/w/a.py", "x = __require__('b')\n"), ("/w/b.py",
      "try:\n    __require__('.a', 'x')\nexcept:\n    pass\nraise\n")].all
        fun e => isElementaryText e.2) = true := by decide +kernel
    exact List.all_eq_true.mp all e member
  have unloaded : w.unloaded = 2 := by decide +kernel
  have ends := loading_ends ⟨"/w", "/home/user"⟩ "/w" ".py" (some "pycell") elementary _ (.load "a" "/w")
  exact ⟨elementary, unloaded, ends.1, fun below => ends.2.1 below 5 (Nat.le_of_eq (by rw [unloaded]))⟩

end Notebook.Machine
