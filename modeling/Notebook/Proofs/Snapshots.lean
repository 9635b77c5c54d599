import Notebook.Proofs.InsertionOrder
import Notebook.Proofs.Settling

/-! What programs do with a namespace of exports: whichever way they go, through its methods, its items or
another mapping, its entries stay those of one mapping that remembers when each name came in. Snapshots
are dictionaries of their own. -/

set_option autoImplicit false

namespace Notebook.Machine

/-- What a program does with a namespace and with the snapshots that it took of it. -/
inductive SpaceOp
  | assign (name : String) (v : Value)
  | setItem (name : String) (v : Value)
  | get (name : String) (default : Option Value)
  | remove (name : String)
  | snapshot
  | clear
  | pop (name : String) (default : Option Value)
  | popItem
  | setDefault (name : String) (default : Option Value)
  | update (entries keywords : Names)
  | deleteItem (name : String)
  /-- Changes a snapshot that was taken. -/
  | change (i : Nat) (f : Obj → Obj)

def callAttr (h : Host) (v : Value) (m : String) (args : List Value) (keywords : Names) : M Value := do
  h.call (← getAttr h v m) args keywords

def SpaceOp.run (h : Host) (r : Ref) (taken : List Ref) : SpaceOp → M Value
  | assign n v => callAttr h (.ref r) "assign" [.str n, v] []
  | setItem n v => do
    Machine.setItem h (.ref r) (.str n) v
    return .none
  | get n d => callAttr h (.ref r) "get" (.str n :: d.toList) []
  | remove n => callAttr h (.ref r) "remove" [.str n] []
  | snapshot => callAttr h (.ref r) "snapshot" [] []
  | clear => callAttr h (.ref r) "clear" [] []
  | pop n d => callAttr h (.ref r) "pop" (.str n :: d.toList) []
  | popItem => callAttr h (.ref r) "popitem" [] []
  | setDefault n d => callAttr h (.ref r) "setdefault" (.str n :: d.toList) []
  | update entries keywords => do callAttr h (.ref r) "update" [← namesDict entries] keywords
  | deleteItem n => do
    Machine.deleteItem h (.ref r) (.str n)
    return .none
  | change i f => do
    match taken[i]? with
    | some s => modifyObj s f
    | none => pure ()
    return .none

inductive Reply
  | value (v : Value)
  | entry (name : String) (v : Value)
  | copy
  | keyError (args : List Value)

inductive SpaceOp.Does : SpaceOp → Dated Value → Reply → Dated Value → Prop
  | assign (d n v) : Does (.assign n v) d (.value .none) (d.put n v)
  | setItem (d n v) : Does (.setItem n v) d (.value .none) (d.put n v)
  | got {d n t v} (o) (there : d.slot? n = some (t, v)) : Does (.get n o) d (.value v) d
  | gotDefault {d n} (o) (absent : d.slot? n = none) : Does (.get n o) d (.value (o.getD .none)) d
  | remove (d n) : Does (.remove n) d (.value .none) (d.drop n)
  | snapshot (d) : Does .snapshot d .copy d
  | clear (d) : Does .clear d (.value .none) .empty
  | popped {d n t v} (o) (there : d.slot? n = some (t, v)) : Does (.pop n o) d (.value v) (d.drop n)
  | poppedDefault {d n} (v) (absent : d.slot? n = none) : Does (.pop n (some v)) d (.value v) d
  | notPopped {d n} (absent : d.slot? n = none) : Does (.pop n none) d (.keyError [.str n]) d
  | poppedOldest {d n v} (oldest : d.Oldest n v) : Does .popItem d (.entry n v) (d.drop n)
  | nonePopped {d} (none_ : ∀ n, d.slot? n = none) : Does .popItem d (.keyError []) d
  | kept {d n t v} (o) (there : d.slot? n = some (t, v)) : Does (.setDefault n o) d (.value v) d
  | defaulted {d n} (o) (absent : d.slot? n = none) :
    Does (.setDefault n o) d (.value (o.getD .none)) (d.put n (o.getD .none))
  | update (d entries keywords) : Does (.update entries keywords) d (.value .none) (d.putAll (entries ++ keywords))
  | deleted {d n} (there : (d.slot? n).isSome) : Does (.deleteItem n) d (.value .none) (d.drop n)
  | notDeleted {d n} (absent : d.slot? n = none) : Does (.deleteItem n) d (.keyError [.str n]) d
  | change (d i f) : Does (.change i f) d (.value .none) d

/-- What a mapping comes to. -/
inductive SpaceOp.Lead : List SpaceOp → Dated Value → Dated Value → Prop
  | nil (d) : Lead [] d d
  | cons {op ops d reply d' d''} (first : op.Does d reply d') (rest : Lead ops d' d'') : Lead (op :: ops) d d''

/-- An execution that gives the reply of a mapping, of which a namespace has the entries. -/
inductive Reply.Given (w : World) (e : Exports Value) : Reply → EStateM.Result Stop World Value → Prop
  | value (v w') : Given w e (.value v) (.ok v w')
  | entry {n v t w'} (new : w.heap.size ≤ t) (tuple : (w'.heap.getD t default).payload = .tuple [.str n, v]) :
    Given w e (.entry n v) (.ok (.ref t) w')
  | copy {s w'} (new : w.heap.size ≤ s) (dict : (w'.heap.getD s default).payload = .dict (entriesOfNames e.entries)) :
    Given w e .copy (.ok (.ref s) w')
  | keyError {x args w'} (new : w.heap.size ≤ x) (error : Carries w' x "KeyError" args) :
    Given w e (.keyError args) (.error (.raised (.ref x)) w')

/-! Single operations. -/

/-- The entries of a namespace are set, and no other object that there was is changed. -/
structure World.Rewrites (r : Ref) (e : Exports Value) (w w' : World) : Prop where
  self : w'.heap.getD r default = { w.heap.getD r default with payload := .exports e }
  others : ∀ q, q < w.heap.size → q ≠ r → w'.heap.getD q default = w.heap.getD q default

namespace World.Rewrites

variable {w w₁ w₂ : World} {r : Ref} {e : Exports Value}

theorem refl (h : IsNamespace w r e) : w.Rewrites r e w := by
  refine ⟨?_, fun _ _ _ => rfl⟩
  rw [← h.payload]

theorem set (h : IsNamespace w r e) (native : w.Native) (e' : Exports Value) :
    w.Rewrites r e' (w.setEntries r e') := by
  refine ⟨?_, fun q _ other => World.put_other w other.symm _⟩
  rw [World.setEntries, World.put_same h.inside]
  unfold Obj.changed
  rw [if_neg (Nat.not_lt.mpr (h.foreign native)), h.payload]
  rfl

theorem before (h : w₁.Rewrites r e w₂) (inside : r < w.heap.size) (grows : w.Grows w₁) :
    w.Rewrites r e w₂ := by
  refine ⟨?_, fun q old other => ?_⟩
  · rw [h.self, grows.objects r inside]
  · rw [h.others q (Nat.lt_of_lt_of_le old grows.size) other, grows.objects q old]

theorem andThen (h : w.Rewrites r e w₁) (inside : r < w.heap.size) (size : w.heap.size ≤ w₁.heap.size)
    (grows : w₁.Grows w₂) : w.Rewrites r e w₂ := by
  refine ⟨?_, fun q old other => ?_⟩
  · rw [grows.objects r (Nat.lt_of_lt_of_le inside size), h.self]
  · rw [grows.objects q (Nat.lt_of_lt_of_le old size), h.others q old other]

end World.Rewrites

/-- An execution does what a mapping does, whose entries a namespace has. -/
def SpaceOp.Refined (op : SpaceOp) (r : Ref) (w : World) (e : Exports Value) (d : Dated Value)
    (result : EStateM.Result Stop World Value) : Prop :=
  ∃ reply d' e', op.Does d reply d' ∧ e'.Lists d' ∧ reply.Given w e result ∧
    w.Rewrites r e' (worldAfter result) ∧ ∀ stop w', result = .error stop w' → e' = e

section

variable {w w' : World} {r : Ref} {e e' : Exports Value} {d d' : Dated Value} {op : SpaceOp} {v : Value}

theorem SpaceOp.Refined.value {result : EStateM.Result Stop World Value} (ran : result = .ok v w')
    (does : op.Does d (.value v) d') (lists : e'.Lists d') (rewrites : w.Rewrites r e' w') :
    op.Refined r w e d result := by
  subst ran
  exact ⟨_, d', e', does, lists, .value v w', rewrites, fun _ _ same => by cases same⟩

theorem SpaceOp.Refined.keyError {result : EStateM.Result Stop World Value} {args : List Value}
    (failed : ∃ x w', result = .error (.raised (.ref x)) w' ∧ Carries w' x "KeyError" args ∧ w.heap.size ≤ x ∧
      w.Grows w')
    (h : IsNamespace w r e) (does : op.Does d (.keyError args) d) (lists : e.Lists d) : op.Refined r w e d result := by
  obtain ⟨x, w', rfl, error, new, grows⟩ := failed
  exact ⟨_, d, e, does, lists, .keyError new error, (World.Rewrites.refl h).andThen h.inside (Nat.le_refl _) grows,
    fun _ _ _ => rfl⟩

theorem IsNamespace.callAttr_run (h : IsNamespace w r e) (sane : w.Sane)
    (bare : (w.heap.getD r default).attrs = []) (k : Nat) {m : String} (hm : m ∈ spaceMethods)
    (args : List Value) (keywords : Names) :
    (callAttr (hostAt (k + 1)) (.ref r) m args keywords).run w
      = (exportsMethod (hostAt k) r e m args keywords).run w := by
  unfold callAttr
  rw [M.run_bind_ok (h.getAttr sane.native _ hm (by rw [bare]; rfl))]
  exact h.call sane.native k hm args keywords

end

theorem store_run (r : Ref) (e : Exports Value) (w : World) :
    (setPayload r (.exports e)).run w = .ok () (w.setEntries r e) := setPayload_run (fun _ => by simp) w

theorem discard_store_run (r : Ref) (e : Exports Value) (w : World) :
    (discard (do setPayload r (.exports e); return Value.none) : M Unit).run w = .ok () (w.setEntries r e) :=
  (M.run_bind_ok (M.run_bind_ok (store_run r e w))).trans rfl

theorem size_setEntries (w : World) (r : Ref) (e : Exports Value) :
    (w.setEntries r e).heap.size = w.heap.size := by
  simp [World.setEntries, World.put_size]

def dictOf (ns : Names) : Obj := { cls := nativeRef "dict", payload := .dict (entriesOfNames ns) }

theorem namesDict_run (ns : Names) (w : World) :
    (namesDict ns).run w = .ok (.ref w.heap.size) (w.push (dictOf ns)) := rfl

theorem entriesOf_new (h : Host) (ns : Names) (w : World) :
    (entriesOf h (.ref w.heap.size)).run (w.push (dictOf ns))
      = .ok (entriesOfNames ns).toList (w.push (dictOf ns)) := by
  have payload : (Machine.payload (.ref w.heap.size)).run (w.push (dictOf ns))
      = .ok (dictOf ns).payload (w.push (dictOf ns)) := by
    refine (M.run_bind_ok (obj_run _ _)).trans ?_
    rw [World.push, getD_push, if_pos rfl]
    rfl
  unfold entriesOf
  rw [M.run_bind_ok payload]
  rfl

/-- Executions that give back what their arguments are made from, and leave the world as it is. -/
theorem M.mapM_run {α β : Type} {f : α → M β} {g : β → α} {w : World} (back : ∀ b, (f (g b)).run w = .ok b w)
    (bs : List β) : ((bs.map g).mapM f).run w = .ok bs w := by
  have loop (done : List β) : (List.mapM.loop f (bs.map g) done).run w = .ok (done.reverse ++ bs) w := by
    induction bs generalizing done with
    | nil => simp [List.mapM.loop, M.run_pure]
    | cons b bs ih =>
      rw [List.map_cons, List.mapM.loop, M.run_bind_ok (back b), ih]
      simp
  exact loop []

theorem exportsKeys_run (ns : Names) (w : World) :
    ((entriesOfNames ns).toList.mapM fun ((k, v) : Value × Value) => do return (← exportsKey k, v)).run w
      = .ok ns w := by
  have texts : (entriesOfNames ns).toList = ns.map fun n => (.str n.1, n.2) := by simp [entriesOfNames]
  rw [texts]
  exact M.mapM_run (fun _ => rfl) ns

/-- A program that holds snapshots of a namespace. -/
structure Holding where
  world : World
  taken : List Ref := []

namespace Holding

def after (h : Host) (r : Ref) (x : Holding) (op : SpaceOp) : Holding :=
  let result := (op.run h r x.taken).run x.world
  { world := worldAfter result
    taken := match op, result with
      | .snapshot, .ok (.ref s) _ => x.taken ++ [s]
      | _, _ => x.taken }

/-- A namespace with the methods of its class, apart from the snapshots, which are apart from each other. -/
structure Of (x : Holding) (r : Ref) (e : Exports Value) : Prop where
  sane : x.world.Sane
  space : IsNamespace x.world r e
  bare : (x.world.heap.getD r default).attrs = []
  apart : ∀ s ∈ x.taken, s ≠ r ∧ s < x.world.heap.size
  distinct : x.taken.Nodup

namespace Of

variable {x : Holding} {r : Ref} {e e' : Exports Value} {d : Dated Value} {w' : World}

theorem method (h : x.Of r e) (k : Nat) {m : String} (hm : m ∈ spaceMethods) (args : List Value) (keywords : Names) :
    (callAttr (hostAt (k + 1)) (.ref r) m args keywords).run x.world
      = (exportsMethod (hostAt k) r e m args keywords).run x.world :=
  h.space.callAttr_run h.sane h.bare k hm args keywords

theorem grow (h : x.Of r e) (leads : x.world.Leads w') (grows : x.world.Grows w') :
    (⟨w', x.taken⟩ : Holding).Of r e where
  sane := h.sane.leads leads
  space := h.space.same (grows.objects r h.space.inside)
  bare := (grows.attrs r).trans h.bare
  apart s hs := ⟨(h.apart s hs).1, Nat.lt_of_lt_of_le (h.apart s hs).2 grows.size⟩
  distinct := h.distinct

theorem rewrites (h : x.Of r e) (e' : Exports Value) : x.world.Rewrites r e' (x.world.setEntries r e') :=
  .set h.space h.sane.native e'

theorem setItem (h : x.Of r e) (host : Host) (n : String) (v : Value) :
    (Machine.setItem host (.ref r) (.str n) v).run x.world = .ok () (x.world.setEntries r (e.assign n v)) := by
  have payload : (Machine.payload (.ref r)).run x.world = .ok (.exports e) x.world := by
    rw [← h.space.payload]
    rfl
  unfold Machine.setItem
  rw [M.run_bind_ok (h.space.special? h.sane.native _)]
  dsimp only
  unfold nativeSetItem
  rw [M.run_bind_ok payload]
  exact store_run _ _ _

theorem deleteItem (h : x.Of r e) (host : Host) (n : String) :
    (Machine.deleteItem host (.ref r) (.str n)).run x.world
      = (if e.contains n then setPayload r (.exports (e.remove n)) else noKey (.str n)).run x.world := by
  have payload : (Machine.payload (.ref r)).run x.world = .ok (.exports e) x.world := by
    rw [← h.space.payload]
    rfl
  unfold Machine.deleteItem
  rw [M.run_bind_ok (h.space.special? h.sane.native _)]
  dsimp only
  unfold nativeDeleteItem
  rw [M.run_bind_ok payload]

theorem update_run (h : x.Of r e) (k : Nat) (entries keywords : Names) :
    ((SpaceOp.update entries keywords).run (hostAt (k + 1)) r x.taken).run x.world
      = .ok .none ((x.world.push (dictOf entries)).setEntries r (e.update (entries ++ keywords))) := by
  have grown := h.grow (.push x.world (dictOf entries)) (.push x.world rfl)
  refine (M.run_bind_ok (namesDict_run entries x.world)).trans ((grown.method k (by decide) _ _).trans ?_)
  refine (M.run_bind_ok (entriesOf_new _ entries x.world)).trans ?_
  exact (M.run_bind_ok (exportsKeys_run entries _)).trans (M.run_bind_ok (store_run _ _ _))

theorem pop_run (h : x.Of r e) (k : Nat) (n : String) (o : Option Value) :
    ((SpaceOp.pop n o).run (hostAt (k + 1)) r x.taken).run x.world
      = (match e.pop? n with
        | some (v, e') => do
          discard (do setPayload r (.exports e'); return Value.none)
          return v
        | none => o.elim (do throwExc (← newException "KeyError" [.str n])) pure : M Value).run x.world := by
  refine (h.method k (by decide) _ _).trans ?_
  cases o <;> rfl

theorem popItem_run (h : x.Of r e) (k : Nat) :
    (SpaceOp.popItem.run (hostAt (k + 1)) r x.taken).run x.world
      = (match e.popFirst? with
        | some ((n, v), e') => do
          discard (do setPayload r (.exports e'); return Value.none)
          newTuple [.str n, v]
        | none => do throwExc (← newException "KeyError" []) : M Value).run x.world :=
  h.method k (by decide) _ _

theorem setDefault_run (h : x.Of r e) (k : Nat) (n : String) (o : Option Value) :
    ((SpaceOp.setDefault n o).run (hostAt (k + 1)) r x.taken).run x.world
      = (do
          discard (do setPayload r (.exports (e.setDefault n (o.getD .none)).2); return Value.none)
          return (e.setDefault n (o.getD .none)).1 : M Value).run x.world := by
  refine (h.method k (by decide) _ _).trans ?_
  cases o <;> rfl

theorem refined (h : x.Of r e) (lists : e.Lists d) (k : Nat) {op : SpaceOp}
    (itself : ∀ i f, op ≠ .change i f) :
    op.Refined r x.world e d ((op.run (hostAt (k + 1)) r x.taken).run x.world) := by
  have inside := h.space.inside
  cases op with
  | assign n v =>
    exact .value ((h.method k (by decide) _ _).trans (M.run_bind_ok (store_run _ _ _))) (.assign d n v)
      (lists.assign n v) (h.rewrites _)
  | setItem n v => exact .value (M.run_bind_ok (h.setItem _ n v)) (.setItem d n v) (lists.assign n v) (h.rewrites _)
  | get n o =>
    have ran : ((SpaceOp.get n o).run (hostAt (k + 1)) r x.taken).run x.world
        = .ok ((e.get? n).getD (o.getD .none)) x.world := by
      refine (h.method k (by decide) _ _).trans ?_
      cases o <;> rfl
    cases slot : d.slot? n with
    | none => exact .value (by simpa [lists.held, slot] using ran) (.gotDefault o slot) lists (.refl h.space)
    | some p => exact .value (by simpa [lists.held, slot] using ran) (.got o slot) lists (.refl h.space)
  | remove n =>
    exact .value ((h.method k (by decide) _ _).trans (M.run_bind_ok (store_run _ _ _))) (.remove d n)
      (lists.remove n) (h.rewrites _)
  | snapshot =>
    have ran := h.method k (show "snapshot" ∈ spaceMethods by decide) [] []
    replace ran := ran.trans (show _ = EStateM.Result.ok _ _ from namesDict_run e.entries x.world)
    have dict : ((x.world.push (dictOf e.entries)).heap.getD x.world.heap.size default).payload
        = .dict (entriesOfNames e.entries) := by
      rw [World.push, getD_push, if_pos rfl]
      rfl
    refine ⟨.copy, d, e, .snapshot d, lists, ?_, ?_, fun stop w' failed => ?_⟩
    · exact ran ▸ .copy (Nat.le_refl _) dict
    · exact ran ▸ (World.Rewrites.refl h.space).andThen inside (Nat.le_refl _) (.push _ rfl)
    · cases ran.symm.trans failed
  | clear =>
    exact .value ((h.method k (by decide) _ _).trans (M.run_bind_ok (store_run _ _ _))) (.clear d) .empty
      (h.rewrites _)
  | pop n o =>
    have ran := h.pop_run k n o
    cases slot : d.slot? n with
    | some p =>
      have found : e.pop? n = some (p.2, e.remove n) := by simp [Exports.pop?, lists.held, slot]
      rw [found] at ran
      exact .value (ran.trans (M.run_bind_ok (discard_store_run _ _ _))) (.popped o slot) (lists.remove n)
        (h.rewrites _)
    | none =>
      have missing : e.pop? n = none := by simp [Exports.pop?, lists.held, slot]
      rw [missing] at ran
      cases o with
      | some v => exact .value ran (.poppedDefault v slot) lists (.refl h.space)
      | none => exact .keyError (ran ▸ throwNew_run h.sane.size _ _) h.space (.notPopped slot) lists
  | popItem =>
    have ran := h.popItem_run k
    cases first : e.popFirst? with
    | some p =>
      obtain ⟨⟨n, v⟩, rest⟩ := p
      obtain ⟨oldest, rfl⟩ := lists.popFirst first
      rw [first] at ran
      let w₁ := x.world.setEntries r (e.remove n)
      let o : Obj := { cls := nativeRef "tuple", payload := .tuple [.str n, v] }
      replace ran : _ = EStateM.Result.ok (Value.ref w₁.heap.size) (w₁.push o) :=
        ran.trans (M.run_bind_ok (discard_store_run _ _ _))
      have size : w₁.heap.size = x.world.heap.size := size_setEntries ..
      have tuple : ((w₁.push o).heap.getD w₁.heap.size default).payload = .tuple [.str n, v] := by
        rw [World.push, getD_push, if_pos rfl]
      refine ⟨.entry n v, d.drop n, e.remove n, .poppedOldest oldest, lists.remove n, ?_, ?_,
        fun stop w' failed => ?_⟩
      · exact ran ▸ .entry (Nat.le_of_eq size.symm) tuple
      · exact ran ▸ (h.rewrites _).andThen inside (Nat.le_of_eq size.symm) (.push _ rfl)
      · cases ran.symm.trans failed
    | none =>
      rw [first] at ran
      exact .keyError (ran ▸ throwNew_run h.sane.size _ _) h.space (.nonePopped (lists.none_of_popFirst first)) lists
  | setDefault n o =>
    have ran := h.setDefault_run k n o
    cases slot : d.slot? n with
    | some p =>
      have kept : e.setDefault n (o.getD .none) = (p.2, e) := by simp [Exports.setDefault, lists.held, slot]
      rw [kept] at ran
      exact .value (ran.trans (M.run_bind_ok (discard_store_run _ _ _))) (.kept o slot) lists (h.rewrites _)
    | none =>
      have set : e.setDefault n (o.getD .none) = (o.getD .none, e.assign n (o.getD .none)) := by
        simp [Exports.setDefault, lists.held, slot]
      rw [set] at ran
      exact .value (ran.trans (M.run_bind_ok (discard_store_run _ _ _))) (.defaulted o slot)
        (lists.assign n _) (h.rewrites _)
  | update entries keywords =>
    refine .value (h.update_run k entries keywords) (.update d entries keywords) (lists.update _) ?_
    have grows := World.Grows.push x.world (o := dictOf entries) rfl
    exact ((h.grow (.push _ _) grows).rewrites _).before inside grows
  | deleteItem n =>
    have ran := h.deleteItem (hostAt (k + 1)) n
    cases slot : d.slot? n with
    | some p =>
      have there : e.contains n = true := by simp [Exports.contains, lists.held, slot]
      rw [if_pos there] at ran
      exact .value (M.run_bind_ok (ran.trans (store_run _ _ _))) (.deleted (by simp [slot])) (lists.remove n)
        (h.rewrites _)
    | none =>
      have missing : ¬e.contains n = true := by simp [Exports.contains, lists.held, slot]
      rw [if_neg missing] at ran
      obtain ⟨y, w', raised, new⟩ := throwNew_run (α := Unit) h.sane.size "KeyError" [.str n]
      exact .keyError ⟨y, w', M.run_bind_error (ran.trans raised), new⟩ h.space (.notDeleted slot) lists
  | change i f => exact absurd rfl (itself i f)

/-! Steps. -/

theorem rewritten (h : x.Of r e) (leads : x.world.Leads w') (rewrites : x.world.Rewrites r e' w') :
    (⟨w', x.taken⟩ : Holding).Of r e' where
  sane := h.sane.leads leads
  space := ⟨rewrites.self ▸ h.space.cls, rewrites.self ▸ rfl, rewrites.self ▸ h.space.own⟩
  bare := rewrites.self ▸ h.bare
  apart s hs := ⟨(h.apart s hs).1, Nat.lt_of_lt_of_le (h.apart s hs).2 leads.size⟩
  distinct := h.distinct

theorem taking (h : x.Of r e) {s : Ref} (new : ∀ t ∈ x.taken, t < s) (other : s ≠ r)
    (inside : s < x.world.heap.size) :
    (⟨x.world, x.taken ++ [s]⟩ : Holding).Of r e where
  sane := h.sane
  space := h.space
  bare := h.bare
  apart t ht := by
    rcases List.mem_append.mp ht with before | last
    · exact h.apart t before
    · cases List.mem_singleton.mp last
      exact ⟨other, inside⟩
  distinct := by
    refine List.nodup_append.mpr ⟨h.distinct, by simp, fun t ht u hu => ?_⟩
    cases List.mem_singleton.mp hu
    exact Nat.ne_of_lt (new t ht)

theorem changed (h : x.Of r e) {s : Ref} (member : s ∈ x.taken) (f : Obj → Obj)
    (leads : x.world.Leads (x.world.put s f)) :
    (⟨x.world.put s f, x.taken⟩ : Holding).Of r e where
  sane := h.sane.leads leads
  space := h.space.put (h.apart s member).1 f
  bare := World.put_other x.world (h.apart s member).1 f ▸ h.bare
  apart t ht := ⟨(h.apart t ht).1, by simpa [World.put_size] using (h.apart t ht).2⟩
  distinct := h.distinct

end Of

/-- An operation does what a mapping does, whose entries a namespace has. An error leaves the entries, and so
does a change of a snapshot, which is also the only one that it changes. -/
structure Follows (h : Host) (r : Ref) (x : Holding) (e : Exports Value) (d : Dated Value) (op : SpaceOp)
    (e' : Exports Value) (d' : Dated Value) : Prop where
  does : ∃ reply, op.Does d reply d' ∧ reply.Given x.world e ((op.run h r x.taken).run x.world)
  lists : e'.Lists d'
  failed : ∀ stop w', (op.run h r x.taken).run x.world = .error stop w' → e' = e
  copied : ∀ i f, op = .change i f → e' = e
  spared : ∀ i s, x.taken[i]? = some s → (∀ f, op ≠ .change i f) →
    (x.after h r op).world.heap.getD s default = x.world.heap.getD s default

variable {x : Holding} {r : Ref} {e : Exports Value} {d : Dated Value}

theorem after_other (h : Host) (r : Ref) (x : Holding) {op : SpaceOp} (other : op ≠ .snapshot) :
    x.after h r op = ⟨worldAfter ((op.run h r x.taken).run x.world), x.taken⟩ := by
  cases op <;> first | exact absurd rfl other | rfl

theorem Of.use (h : x.Of r e) (lists : e.Lists d) (k : Nat) {op : SpaceOp} (itself : ∀ i f, op ≠ .change i f) :
    ∃ e' d', x.Follows (hostAt (k + 1)) r e d op e' d' ∧ (x.after (hostAt (k + 1)) r op).Of r e' := by
  have leads := (op.run (hostAt (k + 1)) r x.taken).leads x.world
  obtain ⟨reply, d', e', does, lists', given, rewrites, failed⟩ := h.refined lists k itself
  refine ⟨e', d', ⟨⟨reply, does, given⟩, lists', failed, fun i f same => absurd same (itself i f), fun i s there _ => ?_⟩,
    ?_⟩
  · obtain ⟨other, inside⟩ := h.apart s (List.mem_of_getElem? there)
    exact rewrites.others s inside other
  · have next := h.rewritten leads rewrites
    by_cases snapshot : op = .snapshot
    · subst snapshot
      cases does
      cases ran : (SpaceOp.snapshot.run (hostAt (k + 1)) r x.taken).run x.world with
      | error stop w' => cases ran ▸ given
      | ok v w' =>
        rw [ran] at next given
        cases given with
        | @copy s _ new dict =>
          have inside : s < w'.heap.size := Nat.lt_of_not_le fun outside => by
            rw [Array.getD_eq_getD_getElem?, Array.getElem?_eq_none outside] at dict
            cases dict
          have taking := next.taking (fun t ht => Nat.lt_of_lt_of_le (h.apart t ht).2 new)
            (Nat.ne_of_gt (Nat.lt_of_lt_of_le h.space.inside new)) inside
          unfold after
          rw [ran]
          exact taking
    · rw [after_other _ r x snapshot]
      exact next

theorem Of.meddle (h : x.Of r e) (lists : e.Lists d) (host : Host) (i : Nat) (f : Obj → Obj) :
    x.Follows host r e d (.change i f) e d ∧ (x.after host r (.change i f)).Of r e := by
  have leads := ((SpaceOp.change i f).run host r x.taken).leads x.world
  rw [after_other host r x (by simp)]
  cases place : x.taken[i]? with
  | none =>
    have ran : ((SpaceOp.change i f).run host r x.taken).run x.world = .ok .none x.world := by
      simp only [SpaceOp.run, place]
      rfl
    refine ⟨⟨⟨_, .change d i f, ran ▸ .value _ _⟩, lists, fun _ _ _ => rfl, fun _ _ _ => rfl, fun j t _ _ => ?_⟩,
      ran ▸ h⟩
    rw [after_other host r x (by simp), ran]
    rfl
  | some s =>
    have ran : ((SpaceOp.change i f).run host r x.taken).run x.world = .ok .none (x.world.put s f) := by
      simp only [SpaceOp.run, place]
      rfl
    rw [ran] at leads ⊢
    refine ⟨⟨⟨_, .change d i f, ran ▸ .value _ _⟩, lists, fun _ _ _ => rfl, fun _ _ _ => rfl,
      fun j t there other => ?_⟩,
      h.changed (List.mem_of_getElem? place) f leads⟩
    rw [after_other host r x (by simp), ran]
    refine World.put_other x.world (fun same => ?_) f
    subst same
    have here := (List.getElem?_inj (List.getElem?_eq_some_iff.mp place).1 h.distinct).mp (place.trans there.symm)
    exact other f (here ▸ rfl)

theorem Of.step (h : x.Of r e) (lists : e.Lists d) (k : Nat) (op : SpaceOp) :
    ∃ e' d', x.Follows (hostAt (k + 1)) r e d op e' d' ∧ (x.after (hostAt (k + 1)) r op).Of r e' := by
  by_cases change : ∃ i f, op = .change i f
  · obtain ⟨i, f, rfl⟩ := change
    exact ⟨e, d, h.meddle lists _ i f⟩
  · exact h.use lists k fun i f same => change ⟨i, f, same⟩

theorem Of.run (h : x.Of r e) (lists : e.Lists d) (k : Nat) (ops : List SpaceOp) :
    ∃ e' d', SpaceOp.Lead ops d d' ∧ (ops.foldl (after (hostAt (k + 1)) r) x).Of r e' ∧ e'.Lists d' := by
  induction ops generalizing x e d with
  | nil => exact ⟨e, d, .nil d, h, lists⟩
  | cons op ops ih =>
    obtain ⟨e₁, d₁, follows, next⟩ := h.step lists k op
    obtain ⟨e', d', lead, last, lists'⟩ := ih next follows.lists
    obtain ⟨reply, does, -⟩ := follows.does
    exact ⟨e', d', .cons does lead, last, lists'⟩

end Holding

/-! A whole program. -/

/-- Makes a namespace with the entries of a dictionary and more. -/
def makeNamespace (h : Host) (entries keywords : Names) : M Value := do
  h.call (.ref exportsClass) [← namesDict entries] keywords

set_option maxRecDepth 10000 in
theorem constructNative_run (h : Host) (entries keywords : Names) (w : World) :
    (constructNative h "ExportNamespace" [.ref w.heap.size] keywords).run (w.push (dictOf entries))
      = (newOf "ExportNamespace" (.exports (.ofList (entries ++ keywords)))).run (w.push (dictOf entries)) := by
  unfold constructNative
  refine (M.run_bind_ok (entriesOf_new _ entries w)).trans ?_
  exact M.run_bind_ok (exportsKeys_run entries _)

theorem makeNamespace_run {w : World} (sane : w.Sane) (k : Nat) (entries keywords : Names) :
    ∃ r w', (makeNamespace (hostAt (k + 1)) entries keywords).run w = .ok (.ref r) w' ∧
      (⟨w', []⟩ : Holding).Of r (.ofList (entries ++ keywords)) := by
  let w₁ := w.push (dictOf entries)
  let o : Obj := { cls := nativeRef "ExportNamespace", payload := .exports (.ofList (entries ++ keywords)) }
  have sane₁ : w₁.Sane := sane.leads (.push w _)
  have like := sane₁.native exportsClass exportsClass_lt
  obtain ⟨cls, -⟩ := firstHeap_native (List.getElem?_eq_getElem exportsClass_lt)
  have plain : w₁.IsPlain exportsClass := by
    unfold World.IsPlain
    rw [show (w₁.object exportsClass).cls = nativeRef "type" from like.cls.trans cls]
    exact nativeRef_lt _
  have called : (callObject (hostAt k) exportsClass [.ref w.heap.size] keywords).run w₁
      = (instantiate (hostAt k) exportsClass exportsInfo [.ref w.heap.size] keywords).run w₁ := callObject_class
    (like.payload.trans exportsClass_payload) (plain.special? sane₁.native _)
  have made : (instantiate (hostAt k) exportsClass exportsInfo [.ref w.heap.size] keywords).run w₁
      = .ok (.ref w₁.heap.size) (w₁.push o) := by
    unfold instantiate
    rw [if_pos exportsClass_lt, if_neg (by decide), show exportsInfo.name = "ExportNamespace" from rfl]
    have new : (newOf "ExportNamespace" (.exports (.ofList (entries ++ keywords)))).run w₁
        = .ok (.ref w₁.heap.size) (w₁.push o) := rfl
    rw [constructNative_run]
    exact new
  have object : (w₁.push o).heap.getD w₁.heap.size default = o := by
    rw [World.push, getD_push, if_pos rfl]
  have bare : ((w₁.push o).heap.getD w₁.heap.size default).attrs = [] := congrArg Obj.attrs object
  refine ⟨w₁.heap.size, w₁.push o, (M.run_bind_ok (namesDict_run entries w)).trans (called.trans made), ?_⟩
  exact
    { sane := sane₁.leads (.push _ _)
      space := ⟨congrArg Obj.cls object, congrArg Obj.payload object, fun m _ => bare ▸ rfl⟩
      bare
      apart := fun s hs => by cases hs
      distinct := .nil }

/-- Whatever a program does with a namespace that it made, the entries of the namespace are those of a mapping
that did the same, and so they stay with the next thing that the program does. -/
theorem namespace_refines_mapping {w : World} (sane : w.Sane) (k : Nat) (entries keywords : Names) :
    ∃ r w₀, (makeNamespace (hostAt (k + 1)) entries keywords).run w = .ok (.ref r) w₀ ∧
      ∀ ops : List SpaceOp, ∃ e d,
        let x := ops.foldl (Holding.after (hostAt (k + 1)) r) ⟨w₀, []⟩
        SpaceOp.Lead ops (Dated.empty.putAll (entries ++ keywords)) d ∧ IsNamespace x.world r e ∧ e.Lists d ∧
          e.names.Nodup ∧ reservedMarker ∉ e.names ∧
          ∀ op, ∃ e' d', x.Follows (hostAt (k + 1)) r e d op e' d' ∧
            IsNamespace (x.after (hostAt (k + 1)) r op).world r e' := by
  obtain ⟨r, w₀, made, new⟩ := makeNamespace_run sane k entries keywords
  refine ⟨r, w₀, made, fun ops => ?_⟩
  obtain ⟨e, d, lead, holds, lists⟩ := new.run (.ofList _) k ops
  refine ⟨e, d, lead, holds.space, lists, lists.nodup, lists.unmarked, fun op => ?_⟩
  obtain ⟨e', d', follows, next⟩ := holds.step lists k op
  exact ⟨e', d', follows, next.space⟩

theorem namespace_refines_mapping_at_start :
    let ops : List SpaceOp := [.assign "c" (.int 3), .snapshot, .setItem "__all__" .none, .change 0 id, .popItem]
    let entries := [("a", .int 1), ("__all__", .none)]
    noModules.Sane ∧ ∃ r w₀,
      (makeNamespace (hostAt 1) entries [("b", .int 2)]).run noModules = .ok (.ref r) w₀ ∧
      ∃ e, IsNamespace (ops.foldl (Holding.after (hostAt 1) r) ⟨w₀, []⟩).world r e ∧ e.names.Nodup ∧
        reservedMarker ∉ e.names := by
  intro ops entries
  have sane : noModules.Sane := .start _
  obtain ⟨r, w₀, made, all⟩ := namespace_refines_mapping sane 0 entries [("b", .int 2)]
  obtain ⟨e, d, -, holds, -, nodup, unmarked, -⟩ := all ops
  exact ⟨sane, r, w₀, made, e, holds, nodup, unmarked⟩

end Notebook.Machine
