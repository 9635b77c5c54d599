import Notebook.Proofs.Elementary

/-! Orderly worlds: all recorded sources are elementary, and the modules there are stand to their reserved names
as programs expect it. Whatever loading does leaves a world orderly. -/

set_option autoImplicit false

namespace Notebook.Module

theorem Cache.Held.mono {μ : Type} {c c' : Cache μ} (h : c.Held) (sources : c'.sources = c.sources)
    (instances : ∀ p, (c'.instances.lookup p).isSome → (c.instances.lookup p).isSome ∨ c.holds p = true) : c'.Held := by
  intro p there
  have same : c'.holds p = c.holds p := by simp only [holds, isAround, sources]
  rw [same]
  exact (instances p there).elim (h p) id

end Notebook.Module

namespace Notebook.Machine

open Notebook.Module

def isElementaryText (source : String) : Bool :=
  match Cell.parseText source with
  | .ok body => areElementary body
  | .error _ => true

/-- A module whose reserved names stand for modules, or one of them for its loader. -/
structure World.Homely (w : World) (m : Ref) : Prop where
  module : w.IsModule m
  reserved : ∀ n v, isReserved n = true → (w.object m).attrs.lookup n = some v →
    ∃ r, v = .ref r ∧ (w.IsModule r ∨ n = "__require__" ∧ ∃ dir, (w.object r).payload = .loader dir)

def World.Known (w : World) (m : Ref) : Prop := (∃ p, w.cache.instances.lookup p = some m) ∨ w.IsHost m

structure World.Orderly (w : World) : Prop where
  sane : w.Sane
  held : w.cache.Held
  records : w.Recorded
  sources : ∀ p s, w.cache.sources.lookup p = some s → isElementaryText s = true
  instances : ∀ p m, w.cache.instances.lookup p = some m → w.Homely m ∧ ¬ w.IsHost m
  apart : ∀ p q m, w.cache.instances.lookup p = some m → w.cache.instances.lookup q = some m → p = q
  hosts : ∀ r, w.IsHost r → w.Silent r

/-- How many recorded sources have no module that counts as loaded. -/
def World.unloaded (w : World) : Nat :=
  w.cache.sources.countP fun e => (w.cache.instances.lookup e.1).isNone

section

variable {w w' : World} {m : Ref}

theorem World.inside_of_loader {r : Ref} {dir : String} (loader : (w.object r).payload = .loader dir) :
    r < w.heap.size := by
  refine Nat.lt_of_not_le fun out => ?_
  rw [World.object_out out] at loader
  cases loader

theorem isReserved_require : isReserved "__require__" = true := rfl

theorem isReserved_getattr : isReserved "__getattr__" = true := rfl

theorem World.IsModule.foreign_size (is : w.IsModule m) (sane : w.Sane) : natives.length ≤ m := by
  refine Nat.le_of_not_lt fun inside => ?_
  obtain ⟨c, payload⟩ := firstHeap_class inside
  obtain ⟨name, payload'⟩ := is.payload
  cases ((sane.native m inside).payload.trans payload).symm.trans payload'

namespace World.Homely

theorem silent (h : w.Homely m) : w.Silent m where
  module := h.module
  getattr v found := by
    obtain ⟨r, rfl, is | ⟨other, -⟩⟩ := h.reserved _ v isReserved_getattr found
    · exact ⟨r, rfl, is⟩
    · exact absurd other (by decide)

theorem mono (h : w.Homely m) (stays : ∀ r, r < w.heap.size → (w.object r).Stays (w'.object r))
    (names : ∀ n v, isReserved n = true → (w'.object m).attrs.lookup n = some v →
      (w.object m).attrs.lookup n = some v ∨ ∃ r, v = .ref r ∧ w.IsModule r) : w'.Homely m where
  module := h.module.stays (stays m h.module.inside)
  reserved n v reserved found := by
    rcases names n v reserved found with found | ⟨r, rfl, is⟩
    · obtain ⟨r, rfl, is | ⟨same, dir, loader⟩⟩ := h.reserved n v reserved found
      · exact ⟨r, rfl, .inl (is.stays (stays r is.inside))⟩
      · exact ⟨r, rfl, .inr ⟨same, dir, (stays r (inside_of_loader loader)).loader dir loader⟩⟩
    · exact ⟨r, rfl, .inl (is.stays (stays r is.inside))⟩

end World.Homely

theorem World.Silent.mono (h : w.Silent m) (stays : ∀ r, r < w.heap.size → (w.object r).Stays (w'.object r))
    (names : ∀ v, (w'.object m).attrs.lookup "__getattr__" = some v →
      (w.object m).attrs.lookup "__getattr__" = some v ∨ ∃ r, v = .ref r ∧ w.IsModule r) : w'.Silent m where
  module := h.module.stays (stays m h.module.inside)
  getattr v found := by
    rcases names v found with found | ⟨r, rfl, is⟩
    · obtain ⟨r, rfl, is⟩ := h.getattr v found
      exact ⟨r, rfl, is.stays (stays r is.inside)⟩
    · exact ⟨r, rfl, is.stays (stays r is.inside)⟩

theorem World.Known.leads (known : w.Known m) (leads : w.Leads w') : w'.Known m := by
  rcases known with ⟨p, there⟩ | ⟨name, there⟩
  · exact .inl ⟨p, leads.cache.kept p m there⟩
  · exact .inr ⟨name, leads.hosts.subset there⟩

namespace World.Orderly

theorem silent (h : w.Orderly) (known : w.Known m) : w.Silent m := by
  rcases known with ⟨p, there⟩ | host
  · exact (h.instances p m there).1.silent
  · exact h.hosts m host

/-- What a change has to see to that loads nothing: the modules of the host that come in, and the reserved names of
those that are there. -/
theorem mono (h : w.Orderly) (leads : w.Leads w') (records : w'.Recorded) (cache : w'.cache = w.cache)
    (stays : ∀ r, r < w.heap.size → (w.object r).Stays (w'.object r))
    (hosts : ∀ r, w'.IsHost r → w.IsHost r ∨ (w.heap.size ≤ r ∧ w'.Silent r))
    (names : ∀ p i, w.cache.instances.lookup p = some i → ∀ n v, isReserved n = true →
      (w'.object i).attrs.lookup n = some v →
      (w.object i).attrs.lookup n = some v ∨ ∃ r, v = .ref r ∧ w.IsModule r)
    (getattr : ∀ i, w.IsHost i → ∀ v, (w'.object i).attrs.lookup "__getattr__" = some v →
      (w.object i).attrs.lookup "__getattr__" = some v ∨ ∃ r, v = .ref r ∧ w.IsModule r) : w'.Orderly where
  sane := h.sane.leads leads
  held := cache ▸ h.held
  records := records
  sources p s recorded := h.sources p s (cache ▸ recorded)
  instances p i there := by
    rw [cache] at there
    obtain ⟨homely, own⟩ := h.instances p i there
    refine ⟨homely.mono stays (names p i there), fun host => ?_⟩
    exact (hosts i host).elim own fun new => Nat.not_le.mpr homely.module.inside new.1
  apart := cache ▸ h.apart
  hosts r host := by
    rcases hosts r host with host | new
    · exact (h.hosts r host).mono stays (getattr r host)
    · exact new.2

theorem still (h : w.Orderly) (leads : w.Leads w') (still : w.Still w') : w'.Orderly := by
  have hosts : w'.IsHost = w.IsHost := by
    unfold World.IsHost
    rw [still.hosts]
  have attrs (r : Ref) (is : w.IsModule r) : (w'.object r).attrs = (w.object r).attrs :=
    (still.objects r is.inside).attrs
  refine h.mono leads (still.records h.records) still.cache (fun r hr => (still.objects r hr).toStays)
    (fun r host => .inl (hosts ▸ host))
    (fun p i there n v _ found => .inl ?_) fun i host v found => .inl ?_
  · rwa [attrs i (h.instances p i there).1.module] at found
  · rwa [attrs i (h.hosts i host).module] at found

theorem sets {r : Ref} {a : String} {v : Value} (h : w.Orderly) (leads : w.Leads w') (sets : w.Sets w' r a v)
    (fine : isReserved a = false ∨ (w.IsModule r ∧ ∃ x, v = .ref x ∧ w.IsModule x)) : w'.Orderly := by
  have names (i : Ref) (n : String) (u : Value) (reserved : isReserved n = true)
      (found : (w'.object i).attrs.lookup n = some u) :
      (w.object i).attrs.lookup n = some u ∨ ∃ x, u = .ref x ∧ w.IsModule x := by
    by_cases same : n = a
    · subst same
      rcases fine with free | ⟨is, x, rfl, module⟩
      · exact absurd reserved (by simp [free])
      · by_cases here : i = r
        · subst here
          rw [sets.own (is.foreign_size h.sane) is.inside, Names.put, lookup_setKey, if_pos rfl] at found
          exact .inr ⟨x, (Option.some.inj found).symm, module⟩
        · exact .inl (sets.others i here ▸ found)
    · exact .inl (sets.names i n same ▸ found)
  have hosts : w'.IsHost = w.IsHost := by
    unfold World.IsHost
    rw [sets.hosts]
  exact h.mono leads (sets.records h.records) sets.cache (fun r _ => sets.stays h.records r)
    (fun r host => .inl (hosts ▸ host))
    (fun p i _ n u => names i n u) fun i _ u => names i _ u isReserved_getattr

theorem hosting (h : w.Orderly) (leads : w.Leads w') (hosting : w.Hosting w') : w'.Orderly := by
  refine h.mono leads (hosting.records h.records) hosting.cache (fun r hr => hosting.stays h.records r hr)
    (fun r ⟨name, member⟩ => ?_)
    (fun p i there n v _ found => .inl ?_) fun i host v found => .inl ?_
  · rcases hosting.news _ member with before | ⟨new, is⟩
    · exact .inl ⟨name, before⟩
    · obtain ⟨module, none⟩ := is h.records
      exact .inr ⟨new, module, fun v found => by rw [none] at found; cases found⟩
  · obtain ⟨homely, own⟩ := h.instances p i there
    rwa [hosting.attrs i homely.module.inside own] at found
  · rwa [hosting.getattr (h.hosts i host).module.inside] at found

theorem ofCache {c : Cache Ref} (h : w.Orderly) (held : c.Held)
    (sources : ∀ p s, c.sources.lookup p = some s → isElementaryText s = true)
    (instances : ∀ p m, c.instances.lookup p = some m → w.cache.instances.lookup p = some m) :
    World.Orderly { w with cache := c } where
  sane := ⟨h.sane.native, h.sane.size⟩
  held := held
  records := h.records
  sources := sources
  instances p m there :=
    let ⟨homely, own⟩ := h.instances p m (instances p m there)
    ⟨homely.mono (fun _ _ => .refl _) fun _ _ _ found => .inl found, own⟩
  apart p q m there there' := h.apart p q m (instances p m there) (instances q m there')
  hosts r host := (h.hosts r host).mono (fun _ _ => .refl _) fun _ found => .inl found

/-- What a load does to what is loaded, where nothing comes in: modules stay or count as loaded no more. -/
theorem ofLoaded {c : Cache Ref} (h : w.Orderly) (sources : c.sources = w.cache.sources)
    (instances : ∀ p m, c.instances.lookup p = some m → w.cache.instances.lookup p = some m) :
    World.Orderly { w with cache := c } := by
  refine h.ofCache (h.held.mono sources fun p there => .inl ?_) (fun p s recorded => h.sources p s (sources ▸ recorded))
    instances
  obtain ⟨m, there⟩ := Option.isSome_iff_exists.mp there
  exact Option.isSome_of_eq_some (instances p m there)

theorem update {modules : List (String × String)} (h : w.Orderly)
    (elementary : ∀ e ∈ modules, isElementaryText e.2 = true) :
    World.Orderly { w with cache := w.cache.update modules } := by
  induction modules generalizing w with
  | nil => exact h
  | cons e modules ih =>
    have recorded : World.Orderly { w with cache := w.cache.record e.1 e.2 } := by
      refine h.ofCache (Cache.held_update [e] h.held) (fun p s there => ?_) fun p i there => ?_
      · rw [Cache.record, lookup_setKey] at there
        split at there
        · cases there
          exact elementary e List.mem_cons_self
        · exact h.sources p s there
      · rw [Cache.record, lookup_dropKey] at there
        split at there
        · cases there
        · exact there
    exact ih recorded fun e' member => elementary e' (List.mem_cons_of_mem _ member)

theorem comes {o : Obj} {c : Cache Ref} {path : String} (h : w.Orderly) (holds : w.cache.holds path = true)
    (cls : o.cls = nativeRef "module")
    (payload : ∃ name, o.payload = .module name)
    (reserved : ∀ n v, isReserved n = true → o.attrs.lookup n = some v →
      ∃ r, v = .ref r ∧ n = "__require__" ∧ ∃ dir, (w.object r).payload = .loader dir)
    (sources : c.sources = w.cache.sources)
    (instances : ∀ p i, c.instances.lookup p = some i →
      w.cache.instances.lookup p = some i ∨ (p = path ∧ i = w.heap.size)) :
    World.Orderly { w.push o with cache := c } := by
  have push := World.Still.push w o
  have object : (w.push o).object w.heap.size = { o with record := none } := by rw [World.object_push, if_pos rfl]
  have old : World.Orderly (w.push o) := h.still (.push w o) push
  have new : (w.push o).Homely w.heap.size := by
    refine ⟨⟨by rw [object]; exact cls, by rw [object]; exact payload⟩, fun n v is found => ?_⟩
    rw [object] at found
    obtain ⟨r, rfl, same, dir, loader⟩ := reserved n v is found
    exact ⟨r, rfl, .inr ⟨same, dir, ((push.objects r (inside_of_loader loader)).toStays).loader dir loader⟩⟩
  have above (p : String) : w.cache.instances.lookup p ≠ some w.heap.size := fun there =>
    Nat.lt_irrefl _ (h.instances p _ there).1.module.inside
  refine ⟨⟨old.sane.native, old.sane.size⟩, h.held.mono sources fun p there => ?_, old.records,
    fun p s there => h.sources p s (sources ▸ there), fun p i there => ?_, fun p q i there there' => ?_,
    fun r host => ?_⟩
  · obtain ⟨i, there⟩ := Option.isSome_iff_exists.mp there
    exact (instances p i there).imp Option.isSome_of_eq_some fun ⟨same, _⟩ => same ▸ holds
  · rcases instances p i there with before | ⟨-, rfl⟩
    · obtain ⟨homely, own⟩ := old.instances p i before
      exact ⟨homely.mono (fun _ _ => .refl _) fun _ _ _ found => .inl found, own⟩
    · refine ⟨new.mono (fun _ _ => .refl _) fun _ _ _ found => .inl found, fun host => ?_⟩
      exact Nat.lt_irrefl _ (h.hosts _ host).module.inside
  · rcases instances p i there with before | ⟨same, new⟩ <;> rcases instances q i there' with before' | ⟨same', new'⟩
    · exact h.apart p q i before before'
    · exact absurd (new' ▸ before) (above p)
    · exact absurd (new ▸ before') (above q)
    · exact same.trans same'.symm
  · exact (old.hosts r host).mono (fun _ _ => .refl _) fun _ found => .inl found

theorem start {cache : Cache Ref} (sources : cache.sources = []) (instances : cache.instances = []) :
    (World.start cache).Orderly where
  sane := .start cache
  held p there := by
    rw [show (World.start cache).cache.instances = [] from instances] at there
    cases there
  records r d linked := by
    have none_ : ((World.start cache).object r).record = none := by
      change (firstHeap.getD r default).record = none
      unfold firstHeap
      rw [Array.getD_eq_getD_getElem?, List.getElem?_toArray, List.getElem?_map]
      cases natives[r]? <;> rfl
    rw [none_] at linked
    cases linked
  sources p s recorded := by
    rw [show (World.start cache).cache.sources = [] from sources] at recorded
    cases recorded
  instances p m there := by
    rw [show (World.start cache).cache.instances = [] from instances] at there
    cases there
  apart p q m there := by
    rw [show (World.start cache).cache.instances = [] from instances] at there
    cases there
  hosts r host := by
    obtain ⟨name, member⟩ := host
    cases member

end World.Orderly

/-! What lasts while modules are loaded. -/

/-- A change in which modules come in, and some few at most of those that are there go. -/
structure World.Moves (w w' : World) (N : Ref → Prop) : Prop where
  same : { w'.cache with instances := w.cache.instances, journal := w.cache.journal } = w.cache
  hosts : w'.hosts = w.hosts
  attrs : ∀ r, r < w.heap.size → (w'.object r).attrs = (w.object r).attrs
  kept : ∀ p m, w.cache.instances.lookup p = some m → w'.cache.instances.lookup p = some m ∨ N m

/-- What lasts while modules are loaded. It does not look at the modules `N`, which those that come in are of: bodies
that run bind names in them only, and they may fail. -/
structure Lasting (N : Ref → Prop) (K : World → Prop) : Prop where
  fresh : ∀ {w}, w.Orderly → K w → N w.heap.size
  moves : ∀ {w w'}, w.Orderly → w'.Orderly → w.Moves w' N → K w → K w'
  binds : ∀ {w w' m n v}, w.Orderly → N m → w.Sets w' m n v → K w → K w'
  hosting : ∀ {w w'}, w.Orderly → w.Hosting w' → K w → K w'
  attach : ∀ {w₀ w w' : World} {dir s : String} {r m : Ref}, w₀.Orderly → w₀.Leads w → w.Orderly → isInside s = true →
    w₀.cache.serves s dir = true → some s ≠ w₀.cache.selfName → w₀.Answers w dir (Specifier.parent s) r →
    w₀.Answers w dir s m → w.Sets w' r (Specifier.last s) (.ref m) → K w → K w'

theorem lasting_true : Lasting (fun _ => True) fun _ => True where
  fresh _ _ := trivial
  moves _ _ _ _ := trivial
  binds _ _ _ _ := trivial
  hosting _ _ _ := trivial
  attach _ _ _ _ _ _ _ _ _ _ := trivial

structure World.Fine (w : World) (K : World → Prop) : Prop where
  orderly : w.Orderly
  lasts : K w

section

variable {N : Ref → Prop} {K : World → Prop} (lasting : Lasting N K)

include lasting

namespace World.Fine

theorem still (h : w.Fine K) (leads : w.Leads w') (still : w.Still w') : w'.Fine K := by
  have orderly := h.orderly.still leads still
  refine ⟨orderly, lasting.moves h.orderly orderly ⟨?_, still.hosts, fun r hr => (still.objects r hr).attrs, ?_⟩
    h.lasts⟩
  · rw [still.cache]
  · exact fun p m there => .inl (still.cache ▸ there)

theorem hosting (h : w.Fine K) (leads : w.Leads w') (hosting : w.Hosting w') : w'.Fine K :=
  ⟨h.orderly.hosting leads hosting, lasting.hosting h.orderly hosting h.lasts⟩

theorem ofLoaded {c : Cache Ref} (h : w.Fine K)
    (same : { c with instances := w.cache.instances, journal := w.cache.journal } = w.cache)
    (instances : ∀ p m, c.instances.lookup p = some m → w.cache.instances.lookup p = some m)
    (kept : ∀ p m, w.cache.instances.lookup p = some m → c.instances.lookup p = some m ∨ N m) :
    World.Fine { w with cache := c } K := by
  have orderly := h.orderly.ofLoaded (congrArg (·.sources) same) instances
  exact ⟨orderly, lasting.moves h.orderly orderly ⟨same, rfl, fun _ _ => rfl, kept⟩ h.lasts⟩

theorem fail (h : w.Fine K) {path : String} (there : w.cache.instances.lookup path = some m) (own : N m) :
    World.Fine { w with cache := w.cache.fail path m } K := by
  have dropped (p : String) : (w.cache.fail path m).instances.lookup p
      = if p = path then none else w.cache.instances.lookup p := lookup_dropKey ..
  refine h.ofLoaded lasting rfl (fun p i here => ?_) fun p i here => ?_
  · rw [dropped] at here
    split at here
    · cases here
    · exact here
  · rw [dropped]
    split
    next same =>
      rw [same, there] at here
      exact .inr (Option.some.inj here ▸ own)
    next => exact .inl here

theorem comes {o : Obj} {c : Cache Ref} {path : String} (h : w.Fine K) (holds : w.cache.holds path = true)
    (cls : o.cls = nativeRef "module") (payload : ∃ name, o.payload = .module name)
    (reserved : ∀ n v, isReserved n = true → o.attrs.lookup n = some v →
      ∃ r, v = .ref r ∧ n = "__require__" ∧ ∃ dir, (w.object r).payload = .loader dir)
    (absent : w.cache.instances.lookup path = none)
    (same : { c with instances := w.cache.instances, journal := w.cache.journal } = w.cache)
    (instances : c.instances = setKey path w.heap.size w.cache.instances) :
    World.Fine { w.push o with cache := c } K := by
  have looked (p : String) : c.instances.lookup p
      = if p = path then some w.heap.size else w.cache.instances.lookup p := by
    rw [instances]
    exact lookup_setKey ..
  have orderly : World.Orderly { w.push o with cache := c } := by
    refine h.orderly.comes holds cls payload reserved (congrArg (·.sources) same) fun p i there => ?_
    rw [looked] at there
    split at there
    next here => exact .inr ⟨here, (Option.some.inj there).symm⟩
    next => exact .inl there
  refine ⟨orderly, lasting.moves h.orderly orderly ⟨same, rfl, fun r hr => ?_, fun p m there => .inl ?_⟩ h.lasts⟩
  · exact ((World.Still.push w o).objects r hr).attrs
  · have other : p ≠ path := by
      rintro rfl
      cases absent.symm.trans there
    exact (looked p).trans ((if_neg other).trans there)

end World.Fine

end

end

end Notebook.Machine
