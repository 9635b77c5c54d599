import Notebook.Proofs.Places
import Notebook.Proofs.SpecifierAlgebra
import Notebook.Proofs.Termination

/-! Packages hold their submodules: once a module is loaded, the attributes by the names of its specifier lead to it
from the first package, by what the prefixes of the specifier stand for. A submodule is made an attribute of its
package before the bodies further in run, and these set it only to what it is: another module comes there only
from another directory, if that shares the package. -/

set_option autoImplicit false

namespace Notebook.Module.Specifier

open Notebook.Text Notebook.Path

variable {qs : List String} {a : String}

theorem dotted_snoc (full : qs ≠ []) : dotted 0 (qs ++ [a]) = dotted 0 qs ++ "." ++ a := by
  simp [dotted, dots, joinWith_concat full]

theorem parent_dotted (full : qs ≠ []) (name : Name a) :
    parent (dotted 0 (qs ++ [a])) = dotted 0 qs ∧ last (dotted 0 (qs ++ [a])) = a := by
  rw [dotted_snoc full]
  exact parent_inside _ name.dotless

theorem not_isOnlyDots_dotted (names : ∀ q ∈ qs, Name q) (full : qs ≠ []) : isOnlyDots (dotted 0 qs) = false := by
  rw [isOnlyDots_dotted names]
  simpa using full

theorem toPath_snoc (names : ∀ q ∈ qs ++ [a], Name q) (full : qs ≠ []) (dir : String) :
    toPath (dotted 0 (qs ++ [a])) dir = toPath (dotted 0 qs) dir ++ "/" ++ a := by
  have name := names a (by simp)
  have slashless := isPath_dotted (k := 0) names
  rw [dotted_snoc full] at slashless ⊢
  rw [toPath_inside slashless (not_isOnlyDots_dotted (fun q member => names q (by simp [member])) full) name.dotless,
    if_neg name.full]

end Notebook.Module.Specifier

namespace Notebook.Module.Cache

open Specifier

theorem Filed.found_eq {μ : Type} {c c' : Cache μ} {s dir : String} (filed : c.Filed (toPath s dir))
    (slashless : isPath s = false) (named : isOnlyDots s = false) (held : c.Held) (held' : c'.Held)
    (same : { c' with instances := c.instances, journal := c.journal } = c) :
    (c'.find s dir <|> c'.namespaceDir s dir) = (c.find s dir <|> c.namespaceDir s dir) := by
  rw [← place_toPath slashless named, ← place_toPath slashless named]
  exact filed.place_eq held held' (congrArg (·.sources) same) (congrArg (·.extension) same)

end Notebook.Module.Cache

namespace Notebook.Machine

open Notebook.Module Notebook.Text Notebook.Path Specifier

/-! Attributes of modules. -/

section

variable {h : Host} {w : World} {m x : Ref} {a : String} {as : List String} {v : Value}

theorem findAttr_own (native : w.Native) (is : w.IsModule m) (own : (w.object m).attrs.lookup a = some v)
    (other : a ≠ "__class__") : (findAttr? h (.ref m) a).run w = .ok (some v) w := by
  obtain ⟨name, payload⟩ := is.payload
  have plain : (w.object m).cls < natives.length := is.plain
  have order := order_native native plain
  have found := findInOrder_native native a fun _ => firstHeap_order plain
  have asked : (Machine.classOf (.ref m)).run w = .ok (w.object m).cls w := rfl
  have looked : (own? m a).run w = .ok (some v) w := by rw [own?_run]; exact congrArg (EStateM.Result.ok · w) own
  unfold findAttr?
  rw [M.run_bind_ok asked, M.run_bind_ok (payload_run m w), payload]
  dsimp only
  rw [if_neg (by simpa using other), M.run_bind_ok order]
  rcases found with none_ | ⟨k, some_⟩
  · rw [M.run_bind_ok none_, M.run_bind_ok (M.run_pure false w)]
    dsimp only
    rw [M.run_bind_ok looked]
    rfl
  · obtain ⟨kind, kind_, methodical⟩ := kindOf_native k a w
    rw [M.run_bind_ok some_]
    dsimp only
    rw [M.run_bind_ok kind_]
    cases methodical
    all_goals
      rw [M.run_bind_ok (M.run_pure false w)]
      dsimp only
      rw [M.run_bind_ok looked]
      rfl

theorem getAttr_own (sane : w.Sane) (is : w.IsModule m) (own : (w.object m).attrs.lookup a = some v)
    (other : a ≠ "__class__") : (getAttr? h (.ref m) a).run w = .ok (some v) w := by
  obtain ⟨name, payload⟩ := is.payload
  have plain := is.plain
  have found := findAttr_own (h := h) sane.native is own other
  have fallback : (fallback? (.ref m)).run w = .ok (((w.object m).attrs.lookup "__getattr__").map (false, ·)) w := by
    unfold fallback?
    rw [M.run_bind_ok (plain.special? sane.native _)]
    dsimp only
    rw [M.run_bind_ok (payload_run m w), payload]
    rfl
  unfold getAttr?
  extract_lets look
  have looked : look.run w = .ok (some v) w := (M.run_bind_ok (plain.special? sane.native _)).trans found
  rw [M.run_bind_ok fallback]
  cases (w.object m).attrs.lookup "__getattr__" with
  | none => exact looked
  | some g =>
    have guarded : (onError "AttributeError" look fun _ => return none).run w = .ok (some v) w :=
      M.run_bind_ok (attempt_ok looked)
    exact M.run_bind_ok guarded

/-- Attributes of modules that lead from one to another. -/
def World.Follows (h : Host) (w : World) : Ref → List String → Ref → Prop
  | m, [], x => m = x
  | m, a :: as, x => ∃ y, (getAttr? h (.ref m) a).run w = .ok (some (.ref y)) w ∧ w.Follows h y as x

theorem World.Follows.snoc {y : Ref} (follows : w.Follows h m as y)
    (last : (getAttr? h (.ref y) a).run w = .ok (some (.ref x)) w) : w.Follows h m (as ++ [a]) x := by
  induction as generalizing m with
  | nil =>
    cases follows
    exact ⟨x, last, rfl⟩
  | cons b as ih =>
    obtain ⟨z, first, rest⟩ := follows
    exact ⟨z, first, ih rest⟩

end

/-! What specifiers stand for. -/

section

variable {w w' w'' : World} {s dir : String} {m m' : Ref}

theorem World.Answers.unique (h : w.Answers w' dir s m) (h' : w.Answers w' dir s m') : m = m' := by
  rcases h with ⟨self, there⟩ | ⟨other, p, found, there⟩ <;>
    rcases h' with ⟨self', there'⟩ | ⟨other', p', found', there'⟩
  · exact Option.some.inj (there.symm.trans there')
  · exact absurd self other'
  · exact absurd self' other
  · cases found.symm.trans found'
    exact Option.some.inj (there.symm.trans there')

theorem World.Answers.known (h : w.Answers w' dir s m) : w'.Known m := by
  rcases h with ⟨-, there⟩ | ⟨-, p, -, there⟩
  · exact .inr (isHost_of_lookup there)
  · exact .inl ⟨p, there⟩

theorem World.Answers.kept (h : w.Answers w' dir s m)
    (hosts : ∀ r, w'.hosts.lookup s = some r → w''.hosts.lookup s = some r)
    (instances : ∀ p, w'.cache.instances.lookup p = some m → w''.cache.instances.lookup p = some m) :
    w.Answers w'' dir s m :=
  h.imp (fun ⟨self, there⟩ => ⟨self, hosts m there⟩)
    fun ⟨other, p, found, there⟩ => ⟨other, p, found, instances p there⟩

theorem World.Answers.settled (h : w.Answers w' dir s m) (slashless : isPath s = false) (named : isOnlyDots s = false)
    (filed : some s = w.cache.selfName ∨ w.cache.Filed (toPath s dir)) (held : w.cache.Held) (held' : w'.cache.Held)
    (same : { w'.cache with instances := w.cache.instances, journal := w.cache.journal } = w.cache) :
    w'.Answers w' dir s m := by
  have selfName : w'.cache.selfName = w.cache.selfName := congrArg (·.selfName) same
  rcases h with ⟨self, there⟩ | ⟨other, p, found, there⟩
  · exact .inl ⟨selfName ▸ self, there⟩
  · refine .inr ⟨selfName ▸ other, p, ?_, there⟩
    rw [(filed.resolve_left other).found_eq slashless named held held' same, found]

end

/-! Attributes that no other specifier sets. -/

section

variable {c c' : Cache Ref} {dir a : String} {qs : List String}

/-- A package whose submodules of a name are those of one directory: no other directory around sources has its
module there, or, where it is the interface of the engine, is found for that name; and the host has no such
submodule. -/
structure Alone (c : Cache Ref) (dir s a : String) : Prop where
  package : some s ≠ c.selfName → c.Sole (toPath s dir)
  interface : some s = c.selfName →
    (∀ d, c.isAround (toPath s d) = true → toPath s d = toPath s dir) ∧ ∀ top, a ∉ submodules top

/-- A submodule that stays where it is, as its package does, which is alone. -/
structure Placed (c : Cache Ref) (dir : String) (qs : List String) (a : String) : Prop where
  names : ∀ q ∈ qs ++ [a], Name q
  full : qs ≠ []
  alone : Alone c dir (dotted 0 qs) a
  owner : some (dotted 0 qs) = c.selfName ∨ c.Filed (toPath (dotted 0 qs) dir)
  other : some (dotted 0 (qs ++ [a])) ≠ c.selfName
  part : c.Filed (toPath (dotted 0 (qs ++ [a])) dir)

theorem Placed.ofSame (h : Placed c dir qs a)
    (same : { c' with instances := c.instances, journal := c.journal } = c) : Placed c' dir qs a := by
  rw [← same] at h
  exact ⟨h.names, h.full, ⟨h.alone.package, h.alone.interface⟩, h.owner, h.other, h.part⟩

structure World.Ties (w : World) (dir : String) (qs : List String) (a : String) (P Q : Ref) : Prop where
  owner : w.Answers w dir (dotted 0 qs) P
  part : w.Answers w dir (dotted 0 (qs ++ [a])) Q
  attr : (w.object P).attrs.lookup a = some (.ref Q)

theorem Placed.outer (placed : Placed c dir qs a) : (∀ q ∈ qs, Name q) ∧ isOnlyDots (dotted 0 qs) = false := by
  have outer : ∀ q ∈ qs, Name q := fun q member => placed.names q (by simp [member])
  exact ⟨outer, not_isOnlyDots_dotted outer placed.full⟩

theorem Placed.inner (placed : Placed c dir qs a) : isOnlyDots (dotted 0 (qs ++ [a])) = false :=
  not_isOnlyDots_dotted placed.names (by simp)

theorem World.Ties.moved {w w' : World} {P Q : Ref} (ties : w.Ties dir qs a P Q) (placed : Placed w.cache dir qs a)
    (held : w.cache.Held) (held' : w'.cache.Held)
    (same : { w'.cache with instances := w.cache.instances, journal := w.cache.journal } = w.cache)
    (hosts : ∀ n r, w.hosts.lookup n = some r → w'.hosts.lookup n = some r)
    (kept : ∀ p m, m = P ∨ m = Q → w.cache.instances.lookup p = some m → w'.cache.instances.lookup p = some m)
    (attr : (w'.object P).attrs.lookup a = some (.ref Q)) : w'.Ties dir qs a P Q where
  owner := (ties.owner.kept (hosts _) fun p => kept p P (.inl rfl)).settled (isPath_dotted placed.outer.1)
    placed.outer.2 placed.owner held held' same
  part := (ties.part.kept (hosts _) fun p => kept p Q (.inr rfl)).settled (isPath_dotted placed.names)
    placed.inner (.inr placed.part) held held' same
  attr := attr

theorem World.Ties.stays {w w' : World} {P Q : Ref} (ties : w.Ties dir qs a P Q) (cache : w'.cache = w.cache)
    (hosts : ∀ n r, w.hosts.lookup n = some r → w'.hosts.lookup n = some r)
    (attr : (w'.object P).attrs.lookup a = some (.ref Q)) : w'.Ties dir qs a P Q := by
  have answers {s : String} {m : Ref} (h : w.Answers w dir s m) : w'.Answers w' dir s m := by
    have kept := h.kept (hosts s) fun p there => cache ▸ there
    rwa [World.Answers, ← cache] at kept
  exact ⟨answers ties.owner, answers ties.part, attr⟩

/-- What sets an attribute of a package to something else is another attribute, or one of another module. -/
theorem World.Ties.sets {w w' : World} {P Q r : Ref} {n : String} {v : Value} (ties : w.Ties dir qs a P Q)
    (orderly : w.Orderly) (sets : w.Sets w' r n v) (same : r = P → n = a → v = .ref Q) : w'.Ties dir qs a P Q := by
  refine ties.stays sets.cache (fun _ _ found => sets.hosts ▸ found) ?_
  by_cases here : r = P
  · by_cases own : n = a
    · have module := (orderly.silent ties.owner.known).module
      rw [here, own, same here own] at sets
      rw [sets.own (module.foreign_size orderly.sane) module.inside, Names.put, lookup_setKey, if_pos rfl]
    · rw [sets.names P a (Ne.symm own), ties.attr]
  · rw [sets.others P (Ne.symm here), ties.attr]

theorem Placed.unique {w₀ w : World} {P Q m : Ref} {s dir' : String} (placed : Placed w.cache dir qs a)
    (ties : w.Ties dir qs a P Q) (orderly₀ : w₀.Orderly) (leads : w₀.Leads w) (orderly : w.Orderly)
    (inside : isInside s = true) (served : w₀.cache.serves s dir' = true) (other : some s ≠ w₀.cache.selfName)
    (owner : w₀.Answers w dir' (Specifier.parent s) P) (same : Specifier.last s = a) (part : w₀.Answers w dir' s m) :
    m = Q := by
  have name := placed.names a (by simp)
  obtain ⟨slashless, named⟩ : isPath s = false ∧ isOnlyDots (Specifier.parent s) = false := by
    simpa [isInside] using inside
  obtain ⟨whole, dotless⟩ := parent_append named
  have slashless' : isPath (Specifier.parent s) = false := isPath_left (whole ▸ slashless)
  have around : w.cache.isAround (toPath (Specifier.parent s) dir') = true := by
    rw [leads.cache.isAround]
    exact Cache.isAround_parent orderly₀.held slashless named (same ▸ name.full) served
  have noHost {p : String} (there : w.cache.instances.lookup p = some P) : ¬ w.IsHost P :=
    (orderly.instances p P there).2
  -- Both packages have the same directory.
  have directory : toPath (Specifier.parent s) dir' = toPath (dotted 0 qs) dir := by
    rcases owner with ⟨self, host⟩ | ⟨different, p, found, there⟩ <;>
      rcases ties.owner with ⟨self', host'⟩ | ⟨different', p', found', there'⟩
    · have equal : Specifier.parent s = dotted 0 qs := by
        rw [← leads.selfName] at self
        exact Option.some.inj (self.trans self'.symm)
      rw [equal] at around ⊢
      exact (placed.alone.interface self').1 dir' around
    · exact absurd (isHost_of_lookup host) (noHost there')
    · exact absurd (isHost_of_lookup host') (noHost there)
    · have files (base : String) : w.cache.files base = w₀.cache.files base := by
        have extension : w.cache.extension = w₀.cache.extension := congrArg (·.extension) leads.cache.same
        rw [Cache.files, Cache.files, extension]
      have equal : p = p' := orderly.apart p p' P there there'
      refine placed.alone.package different' _ (named_toPath slashless' named dir') around p' ?_ ?_
      · rw [← Cache.place_toPath (isPath_dotted placed.outer.1) placed.outer.2] at found'
        exact Cache.place_mem found'
      · rw [← Cache.place_toPath slashless' named] at found
        rw [files, ← equal]
        exact Cache.place_mem found
  have path : toPath s dir' = toPath (dotted 0 (qs ++ [a])) dir := by
    rw [toPath_snoc placed.names placed.full, ← directory, toPath_parent slashless named, same, if_neg name.full]
  -- What is there is the same.
  have first : w₀.Answers w dir (dotted 0 (qs ++ [a])) m := by
    obtain ⟨-, p, found, there⟩ := part.resolve_left fun self => other self.1
    have named' : isOnlyDots s = false := by
      rw [whole]
      exact isOnlyDots_inside named
    refine .inr ⟨leads.selfName ▸ placed.other, p, ?_, there⟩
    rw [← Cache.place_toPath slashless named', path] at found
    rw [← found, Cache.place_toPath (isPath_dotted placed.names) placed.inner]
  have filed : w₀.cache.Filed (toPath (dotted 0 (qs ++ [a])) dir) := by
    rw [← leads.cache.same]
    exact placed.part
  exact (first.settled (isPath_dotted placed.names) placed.inner (.inr filed)
    orderly₀.held orderly.held leads.cache.same).unique ties.part

theorem lasting_ties (dir : String) (qs : List String) (a : String) (P Q : Ref) :
    Lasting (fun m => m ≠ P ∧ m ≠ Q) fun w => Placed w.cache dir qs a ∧ w.Ties dir qs a P Q where
  fresh orderly := fun ⟨_, ties⟩ =>
    ⟨Nat.ne_of_gt (orderly.silent ties.owner.known).module.inside,
      Nat.ne_of_gt (orderly.silent ties.part.known).module.inside⟩
  moves orderly orderly' moves := fun ⟨placed, ties⟩ => by
    refine ⟨placed.ofSame moves.same, ties.moved placed orderly.held orderly'.held moves.same
      (fun n r found => moves.hosts ▸ found) (fun p m one there => ?_) ?_⟩
    · refine (moves.kept p m there).resolve_right fun other => ?_
      exact one.elim other.1 other.2
    · rw [moves.attrs P (orderly.silent ties.owner.known).module.inside, ties.attr]
  binds orderly own sets := fun ⟨placed, ties⟩ =>
    ⟨sets.cache ▸ placed, ties.sets orderly sets fun same => absurd same own.1⟩
  hosting orderly hosting := fun ⟨placed, ties⟩ => by
    refine ⟨hosting.cache ▸ placed, ties.stays hosting.cache (fun n r found => ?_) ?_⟩
    · obtain ⟨more, same⟩ := hosting.hosts
      rw [← same, List.lookup_append, found]
      rfl
    · have inside := (orderly.silent ties.owner.known).module.inside
      rw [← ties.attr]
      rcases ties.owner with ⟨self, -⟩ | ⟨-, p, -, there⟩
      · exact hosting.names P inside a (placed.alone.interface self).2
      · rw [hosting.attrs P inside (orderly.instances p P there).2]
  attach orderly₀ leads orderly inside served other owner part sets := fun ⟨placed, ties⟩ =>
    ⟨sets.cache ▸ placed, ties.sets orderly sets fun here own =>
      congrArg Value.ref (placed.unique ties orderly₀ leads orderly inside served other (here ▸ owner) own part)⟩

end

/-! Loads along a specifier. -/

/-- What a load of names with dots between them relies on: the packages but the last are alone, none of them moves,
and no name but the first is in that of the engine's interface. -/
structure Separate (c : Cache Ref) (dir : String) (ps : List String) : Prop where
  names : ∀ p ∈ ps, Name p
  alone : ∀ qs a rest, ps = qs ++ a :: rest → qs ≠ [] → rest ≠ [] → Alone c dir (dotted 0 qs) a
  filed : ∀ qs rest, ps = qs ++ rest → qs ≠ [] →
    some (dotted 0 qs) = c.selfName ∨ c.Filed (toPath (dotted 0 qs) dir)
  other : ∀ qs a rest, ps = qs ++ a :: rest → qs ≠ [] → some (dotted 0 (qs ++ [a])) ≠ c.selfName

section

variable {w w' : World} {dir a : String} {ps qs rest : List String} {m : Ref} {n : Nat}

theorem Separate.outer {c : Cache Ref} (h : Separate c dir (qs ++ rest)) : Separate c dir qs where
  names q member := h.names q (by simp [member])
  alone before b after split full inner := h.alone before b (after ++ rest) (by simp [split]) full (by simp [inner])
  filed before after split := h.filed before (after ++ rest) (by simp [split])
  other before b after split := h.other before b (after ++ rest) (by simp [split])

theorem Separate.outerName {c : Cache Ref} (h : Separate c dir ps) (split : ps = qs ++ a :: rest) :
    (∀ q ∈ qs ++ [a], Name q) ∧ Name a := by
  have all : ∀ q ∈ qs ++ [a], Name q := fun q member => h.names q (by
    rw [split]
    rcases List.mem_append.mp member with inside | last
    · exact List.mem_append_left _ inside
    · exact List.mem_append_right _ (List.mem_singleton.mp last ▸ List.mem_cons_self))
  exact ⟨all, all a (by simp)⟩

theorem Separate.placed {c : Cache Ref} (h : Separate c dir (qs ++ a :: rest)) (full : qs ≠ []) (inner : rest ≠ []) :
    Placed c dir qs a where
  names := (h.outerName rfl).1
  full := full
  alone := h.alone qs a rest rfl full inner
  owner := h.filed qs (a :: rest) rfl full
  other := h.other qs a rest rfl full
  part := (h.filed (qs ++ [a]) rest (by simp) (by simp)).resolve_left (h.other qs a rest rfl full)

theorem isInside_dotted (names : ∀ q ∈ qs ++ [a], Name q) (full : qs ≠ []) :
    isInside (dotted 0 (qs ++ [a])) = true := by
  have outer : ∀ q ∈ qs, Name q := fun q member => names q (by simp [member])
  rw [isInside, isPath_dotted names, (parent_dotted full (names a (by simp))).1, not_isOnlyDots_dotted outer full]
  rfl

/-- A module that is what names stand for, and that the package around it holds, as each package holds the next. -/
structure World.Chained (w : World) (dir : String) (ps : List String) (m : Ref) : Prop where
  module : w.Answers w dir (dotted 0 ps) m
  ties : ∀ qs a rest, ps = qs ++ a :: rest → qs ≠ [] → ∃ P Q, w.Ties dir qs a P Q

theorem M.Finishes.ofRan {α : Type} {x : M α} {K : World → Prop} {Q : α → World → Prop} {r : α}
    (h : x.Finishes K w Q) (ran : x.run w = .ok r w') : w'.Fine K ∧ Q r w' := by
  unfold Finishes Ends at h
  rwa [ran] at h

theorem attachTo_sets {h : Host} {r : Ref} (ran : ((importing h).toLoading.attachTo (some r) a m).run w = .ok ⟨⟩ w') :
    w.Sets w' r a (.ref m) := by
  rw [attachTo_some] at ran
  obtain ⟨w₁, set, sets⟩ := sets_run r a (.ref m) w
  rw [attach_set h r (attach_ok ran), set] at ran
  cases ran
  exact sets

theorem load_chained (orderly : w.Orderly) (full : ps ≠ []) (separate : Separate w.cache dir ps)
    (known : some (dotted 0 ps) = w.cache.selfName ∨ w.cache.serves (dotted 0 ps) dir = true)
    (ran : ((importing (hostAt n)).toLoading.load (dotted 0 ps) dir).run w = .ok m w') :
    w'.Orderly ∧ w'.Chained dir ps m := by
  induction length : ps.length generalizing ps m w' with
  | zero => exact absurd (List.length_eq_zero_iff.mp length) full
  | succ k ih =>
    obtain ⟨qs, a, rfl⟩ := (List.eq_nil_or_concat ps).resolve_left full
    rw [List.concat_eq_append] at *
    have fine : w.Fine fun _ => True := ⟨orderly, trivial⟩
    have names := separate.names
    have leads := M.leads_of_ok ran
    have bears := bears_hostAt lasting_true n w.unloaded
    have orderly' := ((load_finishes lasting_true bears fine (Nat.le_refl _) _ dir).ofRan ran).1.orderly
    have module := (load_answers known ran).settled (isPath_dotted names) (not_isOnlyDots_dotted names full)
      (separate.filed (qs ++ [a]) [] (by simp) full) orderly.held orderly'.held leads.cache.same
    refine ⟨orderly', module, ?_⟩
    by_cases single : qs = []
    · subst single
      intro before b rest split inner
      obtain ⟨q, before, rfl⟩ := List.exists_cons_of_ne_nil inner
      simp at split
    have inside := isInside_dotted names single
    have name := names a (by simp)
    have other := separate.other qs a [] rfl single
    have served := known.resolve_left other
    have served' := served_package orderly.held inside served
    rw [load_run, if_neg other, if_pos served] at ran
    obtain ⟨package, w₁, w₂, first, made, attached⟩ := loadServed_ok ran
    obtain ⟨r, rfl, loaded⟩ := loadPackage_ok inside served' first
    have owner := load_answers (.inr served') loaded
    have sets := attachTo_sets attached
    have leads₁ := M.leads_of_ok loaded
    have leads₂ := M.leads_of_ok made
    obtain ⟨parent_, last_⟩ := parent_dotted single name
    obtain ⟨orderly₁, chained⟩ := ih single separate.outer (.inr (parent_ ▸ served')) (parent_ ▸ loaded)
      (by simpa using length)
    have orderly₂ := ((loadPlace_finishes lasting_true bears leads₁ ⟨orderly₁, trivial⟩ (Nat.le_refl _) _ dir).ofRan
      made).1.orderly
    intro before b rest split inner
    rcases List.eq_nil_or_concat rest with rfl | ⟨rest, c, rfl⟩
    · -- The module itself, in the package around it.
      obtain ⟨rfl, same⟩ := List.append_inj' split rfl
      cases same
      have is := (orderly₂.silent (owner.known.leads leads₂)).module
      have outer : ∀ q ∈ qs, Name q := fun q member => names q (by simp [member])
      refine ⟨r, m, (parent_ ▸ owner.leads (leads₂.trans (M.leads_of_ok attached))).settled (isPath_dotted outer)
        (not_isOnlyDots_dotted outer single) (separate.filed qs [a] rfl single) orderly.held orderly'.held
        leads.cache.same, module, ?_⟩
      rw [last_] at sets
      rw [sets.own (is.foreign_size orderly₂.sane) is.inside, Names.put, lookup_setKey, if_pos rfl]
    · -- A package further out, which the bodies that have run since leave alone.
      have parted : qs = before ++ b :: rest ∧ [a] = [c] := List.append_inj' (by simpa using split) rfl
      obtain ⟨rfl, same⟩ := parted
      cases same
      obtain ⟨P, Q, ties⟩ := chained.ties before b rest rfl inner
      have lasting := lasting_ties dir before b P Q
      have placed : Placed w.cache dir before b := by
        rw [List.append_assoc, List.cons_append] at separate
        exact separate.placed inner (by simp)
      have fine₂ := ((loadPlace_finishes lasting (bears_hostAt lasting n w.unloaded) leads₁
        ⟨orderly₁, placed.ofSame leads₁.cache.same, ties⟩ (Nat.le_refl _) _ dir).ofRan made).1
      exact ⟨P, Q, (lasting.attach orderly (leads₁.trans leads₂) orderly₂ inside served other (owner.leads leads₂)
        (loadPlace_ok leads₁ other served made) sets fine₂.lasts).2⟩

/-! Loading again along a specifier. -/

theorem World.Loaded.known {s : String} (loaded : w.Loaded dir s) :
    some s = w.cache.selfName ∨ w.cache.serves s dir = true := by
  cases loaded with
  | self same => exact .inl same
  | served _ served => exact .inr served

theorem World.Loaded.around {s : String} (loaded : w.Loaded dir s) (other : some s ≠ w.cache.selfName)
    (inside : isInside s = true) : settable (Specifier.last s) = true ∧ w.Loaded dir (Specifier.parent s) := by
  cases loaded with
  | self same => exact absurd same other
  | served _ _ _ set around => exact ⟨set inside, around inside⟩

theorem World.Loaded.gives {s : String} (loaded : w.Loaded dir s) (answers : w.Answers w dir s m) (h : Host) :
    ∃ w', ((importing h).toLoading.load s dir).run w = .ok m w' := by
  obtain ⟨m', w', ran, -⟩ := loaded.again h
  have same := (load_answers loaded.known ran).unique (answers.leads (M.leads_of_ok ran))
  exact ⟨w', same ▸ ran⟩

theorem not_isInside_dotted (name : Name a) : isInside (dotted 0 [a]) = false := by
  have parts_ : parts (joinWith "." [a]) = [a] := (joinWith_names (by simpa using name) (by simp)).1
  have parent_ : Specifier.parent (dotted 0 [a]) = "" := by
    simp only [dotted, dots, List.replicate_zero, String.ofList_nil, String.empty_append, Specifier.parent, parts_]
    rfl
  rw [isInside, parent_]
  simp [isOnlyDots]

theorem World.Loaded.first (name : Name a) (loaded : w.Loaded dir (dotted 0 [a]))
    (answers : w.Answers w dir (dotted 0 [a]) m) (h : Host) :
    ∃ w', ((importing h).toLoading.load (dotted 0 [a]) dir).run w = .ok m w' ∧ w'.heap = w.heap := by
  rcases answers with ⟨self, there⟩ | ⟨other, p, found, there⟩
  · cases loaded with
    | self _ full => exact ⟨w, by rw [load_run, if_pos self, hostImport_there full there], rfl⟩
    | served other => exact absurd self other
  · have served := loaded.known.resolve_left other
    have place : (loadPlace h w.cache (dotted 0 [a]) dir).run w = .ok m { w with cache := w.cache.reach p m } := by
      unfold loadPlace
      cases place : w.cache.find (dotted 0 [a]) dir with
      | some q =>
        rw [place] at found
        cases found
        exact atPath_there there
      | none =>
        rw [place] at found
        rw [show w.cache.namespaceDir (dotted 0 [a]) dir = some p from found]
        exact atDir_there there
    refine ⟨{ w with cache := w.cache.reach p m }, ?_, rfl⟩
    rw [load_run, if_neg other, if_pos served, loadServed, loadPackage, not_isInside_dotted name]
    exact M.run_bind_ok place

theorem along {P : List String → Prop} (whole : P ps)
    (step : ∀ qs a rest, ps = qs ++ a :: rest → qs ≠ [] → P (qs ++ [a]) → P qs) :
    ∀ qs rest, ps = qs ++ rest → qs ≠ [] → P qs := by
  intro qs rest split full
  induction rest generalizing qs with
  | nil => simpa [split] using whole
  | cons a rest ih => exact step qs a rest split full (ih (qs ++ [a]) (by simp [split]) (by simp))

theorem World.Chained.follows (chained : w.Chained dir ps m) (orderly : w.Orderly) {w₁ : World} (sane : w₁.Sane)
    (heap : w₁.heap = w.heap) (set : ∀ qs a rest, ps = qs ++ a :: rest → qs ≠ [] → settable a = true) (h : Host)
    {x first : Ref} {name : String} (start : w.Answers w dir (dotted 0 [name]) first) (head : ps.head? = some name)
    (split : ps = qs ++ rest) (full : qs ≠ []) (answers : w.Answers w dir (dotted 0 qs) x) :
    w₁.Follows h first qs.tail x := by
  have object (r : Ref) : w₁.object r = w.object r := by rw [World.object, heap, World.object]
  induction length : qs.length generalizing qs rest x with
  | zero => exact absurd (List.length_eq_zero_iff.mp length) full
  | succ k ih =>
    obtain ⟨before, a, rfl⟩ := (List.eq_nil_or_concat qs).resolve_left full
    rw [List.concat_eq_append] at *
    by_cases single : before = []
    · subst single
      have same : a = name := by simpa [split] using head
      exact start.unique (same ▸ answers)
    · obtain ⟨P, Q, ties⟩ := chained.ties before a rest (by simpa using split) single
      have here := ih (by simpa using split) single ties.owner (by simpa using length)
      have is := (orderly.silent ties.owner.known).module
      have free := set before a rest (by simpa using split) single
      have looked := getAttr_own (h := h) (w := w₁) (m := P) (a := a) (v := .ref Q) sane
        ⟨object P ▸ is.cls, object P ▸ is.payload⟩ (object P ▸ ties.attr) (by simp [settable] at free; exact free.1)
      rw [List.tail_append_of_ne_nil single, ← ties.part.unique answers]
      exact here.snoc looked

end

/-- After a load that returns, the packages around its module are served, loading the first of them and following the
attributes from it gives what loading the prefixes gives, the module itself in the end, and so does its loader by
the name in its package. For this the packages have to be separate. -/
theorem submodules_held (places : Path.Places) (rootDir extension : String) (selfName : Option String)
    {ops : List ModuleOp} (elementary : ∀ op ∈ ops, op.IsElementary) (dir : String) {ps : List String}
    (full : ps ≠ []) :
    let w := (World.start { places, rootDir, extension, selfName }).afterModules ops
    let load (s : String) := (importing host).toLoading.load s dir
    Separate w.cache dir ps → (w.cache.find (dotted 0 ps) dir).isSome →
    ∀ m w', (load (dotted 0 ps)).run w = .ok m w' →
      (∀ qs rest, ps = qs ++ rest → qs ≠ [] → w'.cache.serves (dotted 0 qs) dir = true) ∧
      (∃ first w₁, (load (dotted 0 (ps.take 1))).run w' = .ok first w₁ ∧
        ∀ qs rest, ps = qs ++ rest → qs ≠ [] → ∃ x w₂, (load (dotted 0 qs)).run w' = .ok x w₂ ∧
          w₁.Follows host first qs.tail x ∧ (rest = [] → x = m)) ∧
      ∀ qs a, ps = qs ++ [a] →
        ∃ w₂, (callLoader host dir [.str (dotted 0 qs), .str a] []).run w' = .ok (.ref m) w₂ := by
  intro w load separate found m w' ran
  obtain ⟨orderly, -⟩ := World.Orderly.afterModules places rootDir extension selfName elementary
  have names := separate.names
  have served : w.cache.serves (dotted 0 ps) dir = true := by rw [Cache.serves, found, Bool.true_or]
  have leads := M.leads_of_ok ran
  obtain ⟨orderly', chained⟩ := load_chained orderly full separate (.inr served) ran
  have inner {qs rest : List String} {a : String} (split : ps = qs ++ a :: rest) (full : qs ≠ []) :
      isInside (dotted 0 (qs ++ [a])) = true ∧ Specifier.parent (dotted 0 (qs ++ [a])) = dotted 0 qs ∧
        Specifier.last (dotted 0 (qs ++ [a])) = a := by
    obtain ⟨all, name⟩ := separate.outerName split
    exact ⟨isInside_dotted all full, parent_dotted full name⟩
  have other {qs rest : List String} {a : String} (split : ps = qs ++ a :: rest) (full : qs ≠ []) :
      some (dotted 0 (qs ++ [a])) ≠ w'.cache.selfName := leads.selfName ▸ separate.other qs a rest split full
  have loaded : ∀ qs rest, ps = qs ++ rest → qs ≠ [] → w'.Loaded dir (dotted 0 qs) := by
    refine along (load_loaded orderly.held (.inr served) ran) fun qs a rest split full there => ?_
    obtain ⟨inside, parent_, -⟩ := inner split full
    exact parent_ ▸ (there.around (other split full) inside).2
  have set (qs : List String) (a : String) (rest : List String) (split : ps = qs ++ a :: rest) (full : qs ≠ []) :
      settable a = true := by
    obtain ⟨inside, -, last_⟩ := inner split full
    have there := loaded (qs ++ [a]) rest (by simp [split]) (by simp)
    exact last_ ▸ (there.around (other split full) inside).1
  have stands (qs rest : List String) (split : ps = qs ++ rest) (full : qs ≠ []) :
      ∃ x, w'.Answers w' dir (dotted 0 qs) x ∧ (rest = [] → x = m) := by
    cases rest with
    | nil => exact ⟨m, by simpa [split] using chained.module, fun _ => rfl⟩
    | cons a rest =>
      obtain ⟨P, Q, ties⟩ := chained.ties qs a rest split full
      exact ⟨P, ties.owner, fun last => absurd last (List.cons_ne_nil _ _)⟩
  refine ⟨?_, ?_, fun qs a split => ?_⟩
  · refine along (leads.serves served) fun qs a rest split full there => ?_
    obtain ⟨inside, parent_, -⟩ := inner split full
    exact parent_ ▸ served_package orderly'.held inside there
  · obtain ⟨name, more, rfl⟩ := List.exists_cons_of_ne_nil full
    obtain ⟨first, start, -⟩ := stands [name] more rfl (by simp)
    obtain ⟨w₁, again, heap⟩ := (loaded [name] more rfl (by simp)).first (names name (by simp)) start host
    refine ⟨first, w₁, again, fun qs rest split full => ?_⟩
    obtain ⟨x, answers, last_⟩ := stands qs rest split full
    obtain ⟨w₂, gives⟩ := (loaded qs rest split full).gives answers host
    have sane := orderly'.sane.leads (M.leads_of_ok again)
    exact ⟨x, w₂, gives, chained.follows orderly' sane heap set host start rfl split full answers, last_⟩
  · have join_ : Specifier.join (dotted 0 qs) a = dotted 0 ps := by
      rw [join_dotted fun q member => names q (by simp [split, member]), split]
    obtain ⟨p, place⟩ := Option.isSome_iff_exists.mp (leads.finds found)
    obtain ⟨w₂, gives⟩ := (loaded ps [] (by simp) full).gives chained.module host
    refine ⟨w₂, ?_⟩
    rw [callLoader_submodule (join_ ▸ place), join_]
    exact M.run_bind_ok gives

def returnOf? {α : Type} : EStateM.Result Stop World α → Option α
  | .ok a _ => some a
  | .error .. => none

theorem returnOf?_eq_some {α : Type} {r : EStateM.Result Stop World α} {a : α} :
    returnOf? r = some a ↔ ∃ w, r = .ok a w := by
  cases r <;> simp [returnOf?]

theorem of_returnOf? {α : Type} {r : EStateM.Result Stop World α} (h : (returnOf? r).isSome = true) :
    ∃ a, r = .ok a (worldAfter r) := by
  cases r with
  | ok a w => exact ⟨a, rfl⟩
  | error e w => cases h

theorem submodules_held_inner :
    let ops : List ModuleOp := [.update [("/w/a/__init__.py", ""), ("/w/a/b.py", ""), ("/w/a/b/c.py", "pass\n")]]
    let w := (World.start { places := ⟨"/w", "/home/user"⟩, rootDir := "/w" }).afterModules ops
    let load (s : String) := (importing host).toLoading.load s "/w"
    (∀ op ∈ ops, op.IsElementary) ∧ Separate w.cache "/w" ["a", "b", "c"] ∧
      (w.cache.find (dotted 0 ["a", "b", "c"]) "/w").isSome ∧
      ∃ m w' first w₁ w₂, (load "a.b.c").run w = .ok m w' ∧ (load "a").run w' = .ok first w₁ ∧
        w₁.Follows host first ["b", "c"] m ∧
        (callLoader host "/w" [.str "a.b", .str "c"] []).run w' = .ok (.ref m) w₂ := by
  intro ops w load
  have elementary : ∀ op ∈ ops, op.IsElementary := by
    intro op member
    rw [List.mem_singleton.mp member]
    have all : ([("/w/a/__init__.py", ""), ("/w/a/b.py", ""), ("/w/a/b/c.py", "pass\n")].all
      fun e => isElementaryText e.2) = true := by decide +kernel
    exact .update fun e inside => List.all_eq_true.mp all e inside
  have names : ∀ p ∈ ["a", "b", "c"], Name p := by
    have a : Name "a" := ⟨⟨by decide, by decide⟩, by decide⟩
    have b : Name "b" := ⟨⟨by decide, by decide⟩, by decide⟩
    have c : Name "c" := ⟨⟨by decide, by decide⟩, by decide⟩
    simp [a, b, c]
  have outer : isPath "a" = false ∧ isOnlyDots "a" = false := by decide
  have clear : w.cache.Clear (toPath "a" "/w") :=
    ⟨by decide, by decide, named_toPath outer.1 outer.2 "/w", by decide +kernel, by decide +kernel⟩
  have filed : w.cache.Filed (toPath "a" "/w") ∧ w.cache.Filed (toPath "a.b" "/w") ∧
      w.cache.Filed (toPath "a.b.c" "/w") := by
    unfold Cache.Filed
    decide +kernel
  have other : some (dotted 0 ["a"]) ≠ w.cache.selfName ∧ some (dotted 0 ["a", "b"]) ≠ w.cache.selfName ∧
      some (dotted 0 ["a", "b", "c"]) ≠ w.cache.selfName := by decide +kernel
  have separate : Separate w.cache "/w" ["a", "b", "c"] := by
    refine ⟨names, fun qs a rest split full inner => ?_, fun qs rest split full => .inr ?_,
      fun qs a rest split full => ?_⟩
    · obtain ⟨rfl, rfl⟩ : qs = ["a"] ∧ a = "b" := by
        rcases qs with _ | ⟨x, _ | ⟨y, _ | ⟨z, zs⟩⟩⟩ <;> simp_all
      exact ⟨fun _ => clear.sole, fun self => absurd self other.1⟩
    · have cases_ : qs = ["a"] ∨ qs = ["a", "b"] ∨ qs = ["a", "b", "c"] := by
        rcases qs with _ | ⟨x, _ | ⟨y, _ | ⟨z, zs⟩⟩⟩ <;> simp_all
      rcases cases_ with rfl | rfl | rfl
      · exact filed.1
      · exact filed.2.1
      · exact filed.2.2
    · have cases_ : qs ++ [a] = ["a", "b"] ∨ qs ++ [a] = ["a", "b", "c"] := by
        rcases qs with _ | ⟨x, _ | ⟨y, _ | ⟨z, zs⟩⟩⟩ <;> simp_all
      rcases cases_ with same | same <;> rw [same]
      · exact other.2.1
      · exact other.2.2
  have facts : (w.cache.find (dotted 0 ["a", "b", "c"]) "/w").isSome = true ∧
      (returnOf? ((load "a.b.c").run w)).isSome = true := by decide +kernel
  obtain ⟨found, returns⟩ := facts
  obtain ⟨m, ran⟩ := of_returnOf? returns
  obtain ⟨-, ⟨first, w₁, again, leads⟩, gives⟩ :=
    submodules_held ⟨"/w", "/home/user"⟩ "/w" ".py" (some "pycell") elementary "/w" (List.cons_ne_nil _ _) separate
      found m _ ran
  obtain ⟨x, -, -, follows, same⟩ := leads ["a", "b", "c"] [] rfl (List.cons_ne_nil _ _)
  obtain ⟨w₂, given⟩ := gives ["a", "b"] "c" rfl
  exact ⟨elementary, separate, found, m, _, first, w₁, w₂, ran, again, same rfl ▸ follows, given⟩

def isAnother : Option (Option Value) → Ref → Bool
  | some (some (.ref y)), x => y != x
  | _, _ => false

theorem not_follows_of_isAnother {h : Host} {load : M Ref} {w w₁ : World} {m x : Ref} {name : String}
    (ran : load.run w = .ok m w₁)
    (differs : isAnother (returnOf? ((load >>= fun m => getAttr? h (.ref m) name).run w)) x = true) :
    ¬ w₁.Follows h m [name] x := by
  rintro ⟨y, attr, rfl⟩
  rw [(M.run_bind_ok ran).trans attr] at differs
  simp [returnOf?, isAnother] at differs

/-- Through the file that makes it one, a package gets a submodule from another directory. -/
theorem not_held_through_init :
    let ops : List ModuleOp := [.update [("/w/a/__init__.py", ""), ("/w/a/b/__init__.py", ""),
      ("/w/a/__init__/b.py", ""), ("/w/a/b/c.py", "__require__('..__init__.b')\n")]]
    let w := (World.start { places := ⟨"/w", "/home/user"⟩, rootDir := "/w" }).afterModules ops
    let load (s : String) := (importing host).toLoading.load s "/w"
    (∀ op ∈ ops, op.IsElementary) ∧ w.cache.find "a.b.c" "/w" = some "/w/a/b/c.py" ∧
      ∃ m w' a w₁ b w₂, (load "a.b.c").run w = .ok m w' ∧ (load "a").run w' = .ok a w₁ ∧
        (load "a.b").run w' = .ok b w₂ ∧ ¬ w₁.Follows host a ["b"] b := by
  intro ops w load
  have elementary : ∀ op ∈ ops, op.IsElementary := by
    intro op member
    rw [List.mem_singleton.mp member]
    have all : ([("/w/a/__init__.py", ""), ("/w/a/b/__init__.py", ""), ("/w/a/__init__/b.py", ""),
      ("/w/a/b/c.py", "__require__('..__init__.b')\n")].all fun e => isElementaryText e.2) = true := by decide +kernel
    exact .update fun e inside => List.all_eq_true.mp all e inside
  have facts : w.cache.find "a.b.c" "/w" = some "/w/a/b/c.py" ∧ (returnOf? ((load "a.b.c").run w)).isSome = true ∧
      (returnOf? ((load "a").run (worldAfter ((load "a.b.c").run w)))).isSome = true ∧
      (returnOf? ((load "a.b").run (worldAfter ((load "a.b.c").run w)))).any (isAnother (returnOf?
        ((load "a" >>= fun a => getAttr? host (.ref a) "b").run (worldAfter ((load "a.b.c").run w))))) = true := by
    decide +kernel
  obtain ⟨found, returns, returnsFirst, returnsSecond⟩ := facts
  obtain ⟨m, ran⟩ := of_returnOf? returns
  generalize worldAfter ((load "a.b.c").run w) = w' at ran returnsFirst returnsSecond
  obtain ⟨a, ranFirst⟩ := of_returnOf? returnsFirst
  obtain ⟨b, second, differs⟩ := (Option.any_eq_true _ _).mp returnsSecond
  obtain ⟨w₂, ranSecond⟩ := returnOf?_eq_some.mp second
  exact ⟨elementary, found, m, w', a, _, b, w₂, ran, ranFirst, ranSecond, not_follows_of_isAnother ranFirst differs⟩

end Notebook.Machine
