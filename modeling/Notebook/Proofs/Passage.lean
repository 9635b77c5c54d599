import Notebook.Proofs.Entry
import Notebook.Proofs.Inserted

/-! A body from its first statement to its end. The statements of its cell go through or end it; what stands
between them goes through wherever the body comes to it, unless it needs a name that stands for nothing. -/

set_option autoImplicit false

namespace Notebook.Realm

open Notebook.Machine Notebook.Code Notebook.Scope Notebook.Tree

variable {file : String} {body : List Stmt} {isAsync : Bool} {program : Program}

/-- Whose a statement of a body is: the cell's, the body's own, or that which sets the last value aside. -/
inductive Part where
  | cell
  | insert (i : Insert)
  | capture
deriving DecidableEq, Repr

def partOf (st : Stmt) : Part :=
  match insert? st with
  | some i => .insert i
  | none => if (captured? st).isSome then .capture else .cell

theorem partOf_insert {st : Stmt} {i : Insert} : partOf st = .insert i ↔ insert? st = some i := by
  unfold partOf
  cases insert? st with
  | none => cases (captured? st).isSome <;> simp
  | some j => simp

theorem partOf_capture {st : Stmt} (h : partOf st = .capture) : ∃ a, captured? st = some a := by
  unfold partOf at h
  split at h
  next => cases h
  next =>
    split at h
    next some_ => exact Option.isSome_iff_exists.mp some_
    next => cases h

def settingAside (ns : Ref) : List Value :=
  [.str Cell.lastName, .bound (.ref ns) (.native "ExportNamespace" "assign")]

/-- A statement of the cell goes through: the body comes to the next one and finds the namespace as it was. -/
structure Passes (x : Wrapped file body isAsync program) (ns : Ref) (e : Exports Value) (k n : Nat) (f : Frame)
    (w : World) (g : Frame) (w' : World) : Prop where
  goes : Goes (hostAt 1958) n f w g w'
  inBody : InBody x ns e g w'
  pc : g.pc = x.place (k + 1)
  stack : g.stack = f.stack
  guards : g.guards = f.guards

/-- The last expression of the cell has a value, and the namespace is as it was. -/
structure Evaluates (x : Wrapped file body isAsync program) (ns : Ref) (e : Exports Value) (k n : Nat) (v : Value)
    (f : Frame) (w : World) (g : Frame) (w' : World) : Prop where
  goes : Goes (hostAt 1958) n ({ f with pc := x.place k + 3 }.pushAll (settingAside ns)) w
    ({ g with pc := x.place (k + 1) - 2 }.pushAll (v :: settingAside ns)) w'
  inBody : InBody x ns e g w'
  stack : g.stack = f.stack
  guards : g.guards = f.guards

structure Fails (ns : Ref) (e : Exports Value) (n : Nat) (f : Frame) (w : World) (v : Value) (w' : World) :
    Prop where
  ends : Ends (hostAt 1958) n f w (.error (.raised v) w')
  isNamespace : IsNamespace w' ns e

def spent (cost : Nat → Nat) : Nat → Nat
  | 0 => 0
  | k + 1 => spent cost k + cost k

theorem spent_mono (cost : Nat → Nat) {k m : Nat} (h : k ≤ m) : spent cost k ≤ spent cost m := by
  induction h with
  | refl => exact Nat.le_refl _
  | step _ ih => exact Nat.le_trans ih (Nat.le_add_right _ _)

/-- The states in which a body comes to its statements: the number of the statement, and the frame, the world and
the namespace then. The statements of the cell take no more steps than they may cost. -/
inductive Comes (x : Wrapped file body isAsync program) (ns : Ref) (e₀ : Exports Value) (f₀ : Frame) (w₀ : World)
    (cost : Nat → Nat) : Nat → Frame → World → Exports Value → Prop
  | start {g : Frame} {w : World}
      (goes : Goes (hostAt 1958) (5 * (fetched body).length) f₀ w₀ g w)
      (has : HasFetched (fetched body) ns e₀ f₀ w₀ g w) : Comes x ns e₀ f₀ w₀ cost (fetched body).length g w e₀
  | cell {k n : Nat} {st : Stmt} {f g : Frame} {w w' : World} {e : Exports Value}
      (before : Comes x ns e₀ f₀ w₀ cost k f w e) (at_ : x.stmts[k]? = some st) (part : partOf st = .cell)
      (few : n ≤ cost k) (through : Passes x ns e k n f w g w') : Comes x ns e₀ f₀ w₀ cost (k + 1) g w' e
  | insert {k n : Nat} {st : Stmt} {i : Insert} {f : Frame} {w w' : World} {e e' : Exports Value}
      (before : Comes x ns e₀ f₀ w₀ cost k f w e) (at_ : x.stmts[k]? = some st) (part : partOf st = .insert i)
      (after : i.after (f.known? x.scope w) e = some e')
      (few : n ≤ x.place (k + 1) - x.place k)
      (goes : Goes (hostAt 1958) n f w { f with pc := x.place (k + 1) } w')
      (inBody : InBody x ns e' { f with pc := x.place (k + 1) } w')
      (same : ∀ m, ({ f with pc := x.place (k + 1) } : Frame).known? x.scope w' m = f.known? x.scope w m) :
      Comes x ns e₀ f₀ w₀ cost (k + 1) { f with pc := x.place (k + 1) } w' e'
  | capture {k n : Nat} {st : Stmt} {v : Value} {f g : Frame} {w w' : World} {e : Exports Value}
      (before : Comes x ns e₀ f₀ w₀ cost k f w e) (at_ : x.stmts[k]? = some st) (part : partOf st = .capture)
      (few : n ≤ cost k) (through : Evaluates x ns e k n v f w g w') :
      Comes x ns e₀ f₀ w₀ cost (k + 1) { g with pc := x.place (k + 1) }
        (w'.setEntries ns (e.assign Cell.lastName v)) (e.assign Cell.lastName v)

/-- The statements of a cell keep to themselves: wherever the body comes to one it goes through, or it ends the
body with an error, at its cost, and leaves alone what the body goes by. Together they take no more steps than
frames may take. -/
structure KeepsApart (x : Wrapped file body isAsync program) (ns : Ref) (e₀ : Exports Value) (f₀ : Frame)
    (w₀ : World) (cost : Nat → Nat) : Prop where
  few : spent cost x.stmts.length ≤ Machine.patience
  cell : ∀ {k f w e st}, Comes x ns e₀ f₀ w₀ cost k f w e → x.stmts[k]? = some st → partOf st = .cell →
    (∃ n g w', n ≤ cost k ∧ Passes x ns e k n f w g w') ∨ ∃ n v w', n ≤ cost k ∧ Fails ns e n f w v w'
  capture : ∀ {k f w e st}, Comes x ns e₀ f₀ w₀ cost k f w e → x.stmts[k]? = some st → partOf st = .capture →
    (∃ n v g w', n ≤ cost k ∧ Evaluates x ns e k n v f w g w') ∨
      ∃ n v w', n ≤ cost k ∧
        Fails ns e n ({ f with pc := x.place k + 3 }.pushAll (settingAside ns)) w v w'
  error : ∀ {k f w e st n}, Comes x ns e₀ f₀ w₀ cost k f w e → x.stmts[k]? = some st →
    partOf st = .insert (.guarded n) → x.ErrorKnown f w

/-! Names that are taken over. -/

theorem fetched_getElem {body : List Stmt} {k : Nat} (hk : k < (fetched body).length) :
    ∃ st n, body[k]? = some st ∧ fetchedName st = some n := by
  induction body generalizing k with
  | nil => cases hk
  | cons st body ih =>
    rw [fetched] at hk
    cases named : fetchedName st with
    | none =>
      rw [named] at hk
      cases hk
    | some n =>
      rw [named] at hk
      cases k with
      | zero => exact ⟨st, n, rfl, named⟩
      | succ k => exact ih (Nat.lt_of_succ_lt_succ hk)

namespace Wrapped

variable {x : Wrapped file body isAsync program}

theorem stmts_of_fetched {st : Stmt} {n : String} (first : body.head? = some st)
    (named : fetchedName st = some n) : x.stmts = body := by
  obtain ⟨rest, rfl⟩ : ∃ rest, body = st :: rest := by
    cases body with
    | nil => cases first
    | cons s rest =>
      cases first
      exact ⟨rest, rfl⟩
  obtain ⟨-, p, q, q', a, b, c, k, kind, rfl⟩ := fetchedName_some named
  rfl

theorem place_fetched {k : Nat} (hk : k ≤ (fetched body).length) : x.place k = 5 * k := by
  induction k with
  | zero =>
    unfold place draftAt
    rw [List.take_zero, genStmts]
    rfl
  | succ k ih =>
    obtain ⟨st, n, at_, named⟩ := fetched_getElem hk
    obtain ⟨st₀, n₀, first, named₀⟩ := fetched_getElem (Nat.zero_lt_of_lt hk)
    have whole : x.stmts = body := stmts_of_fetched (List.head?_eq_getElem?.trans first) named₀
    obtain ⟨kind, adds⟩ := fetch_adds named x.owner (x.draftAt k).slots
    rw [← whole] at at_
    obtain ⟨instrs, -⟩ := adds _ _ _ rfl (written_next at_)
    have size : x.place (k + 1) = x.place k + 5 := by
      unfold place
      rw [← Array.length_toList, instrs, List.length_append, Array.length_toList]
      rfl
    rw [size, ih (Nat.le_of_succ_le hk)]
    omega

end Wrapped

theorem fetched_le {x : Wrapped file body isAsync program} : (fetched body).length ≤ x.stmts.length := by
  cases short : (fetched body).length with
  | zero => exact Nat.zero_le _
  | succ k =>
    obtain ⟨st, n, at_, -⟩ := fetched_getElem (show k < (fetched body).length by omega)
    obtain ⟨st₀, n₀, first, named⟩ := fetched_getElem (show 0 < (fetched body).length by omega)
    rw [x.stmts_of_fetched (List.head?_eq_getElem?.trans first) named]
    exact (List.getElem?_eq_some_iff.mp at_).1

theorem Entered.fetches {x : Wrapped file body isAsync program} {ns : Ref} {require : Value} {e : Exports Value}
    {f : Frame} {w : World} (h : Entered x ns require e f w) :
    ∃ g w', Goes (hostAt 1958) (5 * (fetched body).length) f w g w' ∧ HasFetched (fetched body) ns e f w g w' := by
  obtain ⟨is, fetching, written⟩ := writeInside_fetched x.owner x.written
  have stands : Stands x.code 0 is := stands_unit written (fetching_fixed fetching) ..
  rw [x.settingScope] at fetching
  have own (n : String) (hn : n ∈ "__exports__" :: fetched body) :
      x.scope.binding n = .local ∨ x.scope.binding n = .cell := by
    rcases List.mem_cons.mp hn with rfl | hn
    · exact x.exports_own
    · exact x.fetched_own hn
  exact fetching_goes 1957 fetching own (exports_not_fetched body) (h.inBody.code ▸ x.houses) h.inBody.apart
    h.inBody.native h.inBody.isNamespace h.inBody.here (by rwa [h.inBody.code, h.pc])

/-! States that a body comes to. -/

section

variable {x : Wrapped file body isAsync program} {ns : Ref} {require : Value} {e₀ e : Exports Value}
  {f₀ f : Frame} {w₀ w : World} {cost : Nat → Nat} {k : Nat}

structure Standing (x : Wrapped file body isAsync program) (ns : Ref) (f₀ : Frame) (w₀ : World)
    (cost : Nat → Nat) (k : Nat) (f : Frame) (w : World) (e : Exports Value) : Prop where
  inBody : InBody x ns e f w
  pc : f.pc = x.place k
  stack : f.stack = []
  guards : f.guards = []
  reached : ∃ n, n ≤ spent cost k + x.place k ∧ Goes (hostAt 1958) n f₀ w₀ f w

theorem Comes.standing (entered : Entered x ns require e₀ f₀ w₀) (comes : Comes x ns e₀ f₀ w₀ cost k f w e) :
    Standing x ns f₀ w₀ cost k f w e := by
  induction comes with
  | start goes has =>
    obtain ⟨slots, rfl⟩ := has.frame
    have here : x.place (fetched body).length = 5 * (fetched body).length :=
      Wrapped.place_fetched (Nat.le_refl _)
    refine ⟨⟨entered.inBody.code, has.apart, has.native, has.isNamespace, ?_⟩, ?_, entered.stack,
      entered.guards, _, ?_, goes⟩
    · rw [has.values, if_neg (exports_not_fetched body)]
      exact entered.inBody.here
    · rw [here, has.pc, entered.pc, Nat.zero_add]
    · rw [here]
      exact Nat.le_add_left _ _
  | @cell k n _ _ _ _ _ _ before at_ part few through ih =>
    obtain ⟨s, few', goes⟩ := ih.reached
    refine ⟨through.inBody, through.pc, through.stack.trans ih.stack, through.guards.trans ih.guards, _, ?_,
      goes.trans through.goes⟩
    have further := x.place_mono k
    rw [spent]
    omega
  | @insert k n _ _ _ _ _ _ _ before at_ part after few goes' inBody same ih =>
    obtain ⟨s, few', goes⟩ := ih.reached
    refine ⟨inBody, rfl, ih.stack, ih.guards, _, ?_, goes.trans goes'⟩
    have further := x.place_mono k
    rw [spent]
    omega
  | @capture k n st v f g w w' e before at_ part few through ih =>
    obtain ⟨a, captured⟩ := partOf_capture part
    obtain ⟨s, few', goes⟩ := ih.reached
    obtain ⟨-, -, -, far⟩ := Wrapped.captured_at at_ captured
    obtain ⟨done, inBody⟩ := Wrapped.capture_done (v := v) at_ captured through.inBody
    have begins := Wrapped.capture_begins at_ captured ih.inBody ih.pc
    refine ⟨inBody, rfl, through.stack.trans ih.stack, through.guards.trans ih.guards, _, ?_,
      ((goes.trans begins).trans through.goes).trans done⟩
    rw [spent]
    omega

theorem Comes.le (comes : Comes x ns e₀ f₀ w₀ cost k f w e) : k ≤ x.stmts.length := by
  cases comes with
  | start => exact fetched_le
  | cell _ at_ => exact (List.getElem?_eq_some_iff.mp at_).1
  | insert _ at_ => exact (List.getElem?_eq_some_iff.mp at_).1
  | capture _ at_ => exact (List.getElem?_eq_some_iff.mp at_).1

/-- How a body ends: it returns after its last statement, or with an error, and then the namespace is as it was
when the body came to the statement that it ended in. -/
inductive BodyEnds (x : Wrapped file body isAsync program) (ns : Ref) (e₀ : Exports Value) (f₀ : Frame) (w₀ : World)
    (cost : Nat → Nat) : EStateM.Result Stop World Exit → Exports Value → Prop
  | returned {f : Frame} {w : World} {e : Exports Value}
      (comes : Comes x ns e₀ f₀ w₀ cost x.stmts.length f w e) : BodyEnds x ns e₀ f₀ w₀ cost (.ok (.returned .none) w) e
  | raised {k : Nat} {f : Frame} {w w' : World} {e : Exports Value} {v : Value} {st : Stmt}
      (comes : Comes x ns e₀ f₀ w₀ cost k f w e) (at_ : x.stmts[k]? = some st) (isNamespace : IsNamespace w' ns e)
      (insert : ∀ i, partOf st = .insert i → i.after (f.known? x.scope w) e = none) :
      BodyEnds x ns e₀ f₀ w₀ cost (.error (.raised v) w') e

theorem Entered.ran (entered : Entered x ns require e₀ f₀ w₀) {n : Nat} {r : EStateM.Result Stop World Exit}
    (few : n ≤ Machine.patience + x.code.instrs.size) (ends : Ends (hostAt 1958) n f₀ w₀ r) :
    (execute (hostAt 1958) f₀.patience f₀).run w₀ = r := by
  have room : f₀.patience = Machine.patience + x.code.instrs.size := by
    rw [Frame.patience, entered.inBody.code]
  have ran := ends (f₀.patience - n)
  rwa [Nat.sub_add_cancel (room ▸ few)] at ran

theorem Comes.returns (entered : Entered x ns require e₀ f₀ w₀) (few : spent cost x.stmts.length ≤ Machine.patience)
    (comes : Comes x ns e₀ f₀ w₀ cost x.stmts.length f w e) :
    (execute (hostAt 1958) f₀.patience f₀).run w₀ = .ok (.returned .none) w := by
  obtain ⟨inBody, pc, -, -, n, steps, goes⟩ := comes.standing entered
  refine entered.ran ?_ (.after goes (Wrapped.returns_at_end inBody.code pc))
  have size : x.place x.stmts.length + 2 = x.code.instrs.size := by
    change _ = (x.draft.instrs.map _).size
    rw [Array.size_map, Wrapped.draft_at_end]
    simp [Wrapped.place, Draft.add]
  omega

/-- What a body does of its own accord goes through, if the name that it publishes stands for something. -/
theorem Comes.next (unfree : ∀ m, x.scope.binding m ≠ .free) (entered : Entered x ns require e₀ f₀ w₀)
    (comes : Comes x ns e₀ f₀ w₀ cost k f w e) {st : Stmt} (at_ : x.stmts[k]? = some st) {i : Insert}
    (part : partOf st = .insert i) (error : (∃ n, i = .guarded n) → x.ErrorKnown f w) {e' : Exports Value}
    (after : i.after (f.known? x.scope w) e = some e') :
    ∃ f' w', Comes x ns e₀ f₀ w₀ cost (k + 1) f' w' e' ∧ ∀ n, f'.known? x.scope w' n = f.known? x.scope w n := by
  obtain ⟨inBody, pc, -⟩ := comes.standing entered
  obtain ⟨n', w', few', goes', inBody', same⟩ :=
    Wrapped.insert_goes unfree at_ (partOf_insert.mp part) inBody pc error after
  exact ⟨_, w', .insert comes at_ part after few' goes' inBody' same, same⟩

/-- What a body does of its own accord goes through, unless it publishes a name that stands for nothing. -/
theorem Comes.inserted (unfree : ∀ m, x.scope.binding m ≠ .free) (entered : Entered x ns require e₀ f₀ w₀)
    (few : spent cost x.stmts.length ≤ Machine.patience) (comes : Comes x ns e₀ f₀ w₀ cost k f w e)
    {st : Stmt} (at_ : x.stmts[k]? = some st)
    {i : Insert} (part : partOf st = .insert i) (error : (∃ n, i = .guarded n) → x.ErrorKnown f w) :
    (∃ f' w' e', Comes x ns e₀ f₀ w₀ cost (k + 1) f' w' e') ∨
      ∃ key n r w' cls message, i = .deed (.publish key n) ∧ f.known? x.scope w n = none ∧
        i.after (f.known? x.scope w) e = none ∧
        (execute (hostAt 1958) f₀.patience f₀).run w₀ = .error (.raised (.ref r)) w' ∧ IsNamespace w' ns e ∧
        cls ∈ ["NameError", "UnboundLocalError"] ∧ Complains w' r cls message := by
  obtain ⟨inBody, pc, -, guards, n, steps, goes⟩ := comes.standing entered
  have is := partOf_insert.mp part
  cases after : i.after (f.known? x.scope w) e with
  | some e' =>
    obtain ⟨f', w', comes', -⟩ := comes.next unfree entered at_ part error after
    exact .inl ⟨f', w', e', comes'⟩
  | none =>
    obtain ⟨key, name, rfl, unknown, m', r, w', cls, message, few', ends, isNamespace, kind, complains⟩ :=
      Wrapped.insert_stops unfree at_ is inBody pc guards after
    refine .inr ⟨key, name, r, w', cls, message, rfl, unknown, rfl, entered.ran ?_ (.after goes ends), isNamespace,
      kind, complains⟩
    have bound := x.place_le_size (k + 1)
    have further := x.place_mono k
    have within := spent_mono cost comes.le
    omega

/-- A body goes on from one statement to the next up to its end, or to where something else holds. -/
theorem Entered.onward (cost : Nat → Nat) (entered : Entered x ns require e₀ f₀ w₀) {P : Prop}
    (turn : ∀ {k f w e st}, Comes x ns e₀ f₀ w₀ cost k f w e → x.stmts[k]? = some st →
      (∃ f' w' e', Comes x ns e₀ f₀ w₀ cost (k + 1) f' w' e') ∨ P) :
    (∃ f w e, Comes x ns e₀ f₀ w₀ cost x.stmts.length f w e) ∨ P := by
  -- By the number of statements that are still to come.
  suffices rest : ∀ left k f w e, k + left = x.stmts.length → Comes x ns e₀ f₀ w₀ cost k f w e →
      (∃ f w e, Comes x ns e₀ f₀ w₀ cost x.stmts.length f w e) ∨ P by
    obtain ⟨g, w, goes, has⟩ := entered.fetches
    exact rest _ _ g w e₀ (Nat.add_sub_cancel' fetched_le) (.start goes has)
  intro left
  induction left with
  | zero =>
    intro k f w e last comes
    obtain rfl : k = x.stmts.length := last
    exact .inl ⟨f, w, e, comes⟩
  | succ left ih =>
    intro k f w e last comes
    have at_ : x.stmts[k]? = some (x.stmts.get ⟨k, by omega⟩) := List.getElem?_eq_getElem _
    rcases turn comes at_ with ⟨f', w', e', comes'⟩ | holds
    · exact ih (k + 1) f' w' e' (by omega) comes'
    · exact .inr holds

theorem KeepsApart.ends (unfree : ∀ m, x.scope.binding m ≠ .free) (entered : Entered x ns require e₀ f₀ w₀)
    (apart : KeepsApart x ns e₀ f₀ w₀ cost) :
    ∃ r e, BodyEnds x ns e₀ f₀ w₀ cost r e ∧ (execute (hostAt 1958) f₀.patience f₀).run w₀ = r := by
  have few := apart.few
  obtain ⟨f, w, e, comes⟩ | raised := entered.onward cost
    (P := ∃ r e, BodyEnds x ns e₀ f₀ w₀ cost r e ∧ (execute (hostAt 1958) f₀.patience f₀).run w₀ = r)
    fun {k f w e st} comes at_ => by
      have bound := x.place_le_size (k + 1)
      have further := x.place_mono k
      have within : spent cost k + cost k ≤ _ := spent_mono cost (List.getElem?_eq_some_iff.mp at_).1
      obtain ⟨inBody, pc, -, -, n, steps, goes⟩ := comes.standing entered
      cases part : partOf st with
      | cell =>
        obtain ⟨n', g, w', few', through⟩ | ⟨n', v, w', few', fails⟩ := apart.cell comes at_ part
        · exact .inl ⟨g, w', e, .cell comes at_ part few' through⟩
        · refine .inr ⟨_, e, .raised comes at_ fails.isNamespace (fun i same => ?_),
            entered.ran ?_ (.after goes fails.ends)⟩
          · cases part.symm.trans same
          · omega
      | insert i =>
        obtain ⟨f', w', e', comes'⟩ | ⟨key, name, r, w', cls, message, rfl, unknown, after, ran, isNamespace, -⟩ :=
          comes.inserted unfree entered few at_ part fun guarded => by
            obtain ⟨name, rfl⟩ := guarded
            exact apart.error comes at_ part
        · exact .inl ⟨f', w', e', comes'⟩
        · refine .inr ⟨_, e, .raised comes at_ isNamespace (fun j same => ?_), ran⟩
          cases part.symm.trans same
          exact after
      | capture =>
        obtain ⟨a, captured⟩ := partOf_capture part
        obtain ⟨-, -, -, far⟩ := Wrapped.captured_at at_ captured
        obtain ⟨n', v, g, w', few', through⟩ | ⟨n', v, w', few', fails⟩ := apart.capture comes at_ part
        · exact .inl ⟨_, _, _, .capture comes at_ part few' through⟩
        · have begins := Wrapped.capture_begins at_ captured inBody pc
          refine .inr ⟨_, e, .raised comes at_ fails.isNamespace (fun i same => ?_),
            entered.ran ?_ (.after (goes.trans begins) fails.ends)⟩
          · cases part.symm.trans same
          · omega
  · exact ⟨_, e, .returned comes, comes.returns entered few⟩
  · exact raised

/-- The statements of a cell go through wherever the body comes to them. -/
structure Completes (x : Wrapped file body isAsync program) (ns : Ref) (e₀ : Exports Value) (f₀ : Frame)
    (w₀ : World) (cost : Nat → Nat) : Prop where
  few : spent cost x.stmts.length ≤ Machine.patience
  cell : ∀ {k f w e st}, Comes x ns e₀ f₀ w₀ cost k f w e → x.stmts[k]? = some st → partOf st = .cell →
    ∃ n g w', n ≤ cost k ∧ Passes x ns e k n f w g w'
  capture : ∀ {k f w e st}, Comes x ns e₀ f₀ w₀ cost k f w e → x.stmts[k]? = some st → partOf st = .capture →
    ∃ n v g w', n ≤ cost k ∧ Evaluates x ns e k n v f w g w'
  error : ∀ {k f w e st n}, Comes x ns e₀ f₀ w₀ cost k f w e → x.stmts[k]? = some st →
    partOf st = .insert (.guarded n) → x.ErrorKnown f w

/-- A body whose cell goes through ends at its end, or at a name that it publishes and that stands for nothing. -/
theorem Completes.ends (unfree : ∀ m, x.scope.binding m ≠ .free) (entered : Entered x ns require e₀ f₀ w₀)
    (completes : Completes x ns e₀ f₀ w₀ cost) :
    (∃ f w e, Comes x ns e₀ f₀ w₀ cost x.stmts.length f w e ∧
      (execute (hostAt 1958) f₀.patience f₀).run w₀ = .ok (.returned .none) w) ∨
    ∃ k f w e st key n r w' cls message, Comes x ns e₀ f₀ w₀ cost k f w e ∧ x.stmts[k]? = some st ∧
      partOf st = .insert (.deed (.publish key n)) ∧ f.known? x.scope w n = none ∧
      (execute (hostAt 1958) f₀.patience f₀).run w₀ = .error (.raised (.ref r)) w' ∧ IsNamespace w' ns e ∧
      cls ∈ ["NameError", "UnboundLocalError"] ∧ Complains w' r cls message := by
  refine (entered.onward cost fun {k f w e st} comes at_ => ?_).imp (fun ended => ?_) id
  rotate_left
  · obtain ⟨f, w, e, comes⟩ := ended
    exact ⟨f, w, e, comes, comes.returns entered completes.few⟩
  cases part : partOf st with
  | cell =>
    obtain ⟨n', g, w', few', through⟩ := completes.cell comes at_ part
    exact .inl ⟨g, w', e, .cell comes at_ part few' through⟩
  | insert i =>
    obtain ⟨f', w', e', comes'⟩ | ⟨key, name, r, w', cls, message, rfl, unknown, -, ran, isNamespace, kind, complains⟩ :=
      comes.inserted unfree entered completes.few at_ part fun guarded => by
        obtain ⟨name, rfl⟩ := guarded
        exact completes.error comes at_ part
    · exact .inl ⟨f', w', e', comes'⟩
    · exact .inr ⟨k, f, w, e, st, key, name, r, w', cls, message, comes, at_, part, unknown, ran, isNamespace,
        kind, complains⟩
  | capture =>
    obtain ⟨n', v, g, w', few', through⟩ := completes.capture comes at_ part
    exact .inl ⟨_, _, _, .capture comes at_ part few' through⟩

end

end Notebook.Realm
