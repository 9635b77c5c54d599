import Notebook.Proofs.Announced
import Notebook.Proofs.Declared

/-! The namespace of exports as a mapping that remembers when each of its names came in: the entries are
those of the mapping, the oldest first. -/

set_option autoImplicit false

namespace Notebook

/-- A mapping with the time at which each name came in. It never has the reserved name. -/
structure Dated (α : Type) where
  clock : Nat
  slot? : String → Option (Nat × α)
  past : ∀ n t v, slot? n = some (t, v) → t < clock
  unmarked : slot? reservedMarker = none

namespace Dated

variable {α : Type} {n : String}

def empty : Dated α := ⟨0, fun _ => none, by simp, rfl⟩

def date (d : Dated α) (n : String) : Nat := (d.slot? n).elim d.clock (·.1)

/-- Writing the reserved name does nothing; a name that is there keeps its date. -/
def put (d : Dated α) (n : String) (v : α) : Dated α :=
  if free : n = reservedMarker then d
  else
    { clock := d.clock + 1
      slot? m := if m = n then some (d.date n, v) else d.slot? m
      past m t u h := by
        split at h
        · cases h
          unfold date
          cases there : d.slot? n with
          | none => simp
          | some p => exact Nat.lt_succ_of_lt (d.past n p.1 p.2 there)
        · exact Nat.lt_succ_of_lt (d.past m t u h)
      unmarked := by rw [if_neg (Ne.symm free), d.unmarked] }

def drop (d : Dated α) (n : String) : Dated α where
  clock := d.clock
  slot? m := if m = n then none else d.slot? m
  past m t v h := by
    split at h
    · cases h
    · exact d.past m t v h
  unmarked := by rw [d.unmarked, ite_self]

def putAll (d : Dated α) (entries : List (String × α)) : Dated α :=
  entries.foldl (fun d p => d.put p.1 p.2) d

def Oldest (d : Dated α) (n : String) (v : α) : Prop :=
  ∃ t, d.slot? n = some (t, v) ∧ ∀ m s u, d.slot? m = some (s, u) → m = n ∨ t < s

theorem put_marked (d : Dated α) (v : α) : d.put reservedMarker v = d := dif_pos rfl

theorem slot?_put (d : Dated α) (free : n ≠ reservedMarker) (v : α) (m : String) :
    (d.put n v).slot? m = if m = n then some (d.date n, v) else d.slot? m := by
  rw [put, dif_neg free]

theorem date_lt {d : Dated α} (there : (d.slot? n).isSome) : d.date n < d.clock := by
  obtain ⟨⟨t, v⟩, slot⟩ := Option.isSome_iff_exists.mp there
  simpa [date, slot] using d.past n t v slot

theorem date_absent {d : Dated α} (absent : d.slot? n = none) : d.date n = d.clock := by
  simp [date, absent]

theorem date_put (d : Dated α) (v : α) {m : String} (there : m = n ∨ (d.slot? m).isSome) :
    (d.put n v).date m = d.date m := by
  by_cases free : n = reservedMarker
  · rw [free, put_marked]
  · by_cases same : m = n
    · simp [date, slot?_put d free, same]
    · obtain ⟨p, slot⟩ := Option.isSome_iff_exists.mp (there.resolve_left same)
      simp [date, slot?_put d free, same, slot]

theorem date_drop (d : Dated α) {m : String} (other : m ≠ n) : (d.drop n).date m = d.date m := by
  simp [date, drop, other]

end Dated

namespace Exports

variable {α : Type} {n : String} {v : α} {e e' : Exports α} {d : Dated α}

/-- The entries of a namespace are those of a mapping, the oldest first. -/
structure Lists (e : Exports α) (d : Dated α) : Prop where
  held : ∀ n, e.get? n = (d.slot? n).map (·.2)
  order : e.names.Pairwise fun m n => d.date m < d.date n

theorem get?_remove (e : Exports α) (n m : String) :
    (e.remove n).get? m = if m = n then none else e.get? m := by
  obtain ⟨entries⟩ := e
  change (entries.filter _).lookup m = if m = n then none else entries.lookup m
  induction entries with
  | nil => simp
  | cons p rest ih =>
    obtain ⟨k, u⟩ := p
    by_cases gone : k = n
    · rw [List.filter_cons_of_neg (by simpa using gone), ih, List.lookup_cons]
      by_cases here : m = k
      · simp [here, gone]
      · simp [beq_false_of_ne here]
    · rw [List.filter_cons_of_pos (by simpa using gone), List.lookup_cons, List.lookup_cons, ih]
      by_cases here : m = k
      · simp [here, gone]
      · simp [beq_false_of_ne here]

namespace Lists

theorem empty : ({} : Exports α).Lists Dated.empty := ⟨fun _ => rfl, .nil⟩

theorem mem_names (h : e.Lists d) : n ∈ e.names ↔ (d.slot? n).isSome := by
  rw [← contains_iff, contains, h.held, Option.isSome_map]

theorem nodup (h : e.Lists d) : e.names.Nodup := by
  refine h.order.imp fun {m k} (earlier : d.date m < d.date k) same => ?_
  exact Nat.lt_irrefl _ (same ▸ earlier)

theorem unmarked (h : e.Lists d) : reservedMarker ∉ e.names := by
  simp [h.mem_names, d.unmarked]

theorem assign (h : e.Lists d) (n : String) (v : α) : (e.assign n v).Lists (d.put n v) := by
  by_cases free : n = reservedMarker
  · subst free
    rwa [d.put_marked, Exports.assign, if_pos (BEq.rfl)]
  refine ⟨fun m => ?_, ?_⟩
  · rw [get?_assign, d.slot?_put free, h.held]
    by_cases same : m = n <;> simp [same, free]
  · rw [names_assign free]
    have kept : e.names.Pairwise fun m k => (d.put n v).date m < (d.put n v).date k := by
      refine h.order.imp_of_mem fun hm hk earlier => ?_
      rwa [d.date_put v (.inr (h.mem_names.mp hm)), d.date_put v (.inr (h.mem_names.mp hk))]
    split
    · exact kept
    next absent =>
      refine List.pairwise_append.mpr ⟨kept, List.pairwise_singleton .., fun m hm k hk => ?_⟩
      cases List.mem_singleton.mp hk
      have last : d.slot? n = none := by simpa [h.mem_names] using absent
      rw [d.date_put v (.inr (h.mem_names.mp hm)), d.date_put v (.inl rfl), Dated.date_absent last]
      exact Dated.date_lt (h.mem_names.mp hm)

theorem remove (h : e.Lists d) (n : String) : (e.remove n).Lists (d.drop n) := by
  refine ⟨fun m => ?_, ?_⟩
  · rw [get?_remove, h.held, Dated.drop]
    by_cases same : m = n <;> simp [same]
  · rw [names_remove]
    refine (h.order.filter _).imp_of_mem fun hm hk earlier => ?_
    rwa [d.date_drop (by simpa using (List.mem_filter.mp hm).2),
      d.date_drop (by simpa using (List.mem_filter.mp hk).2)]

theorem update (h : e.Lists d) (entries : List (String × α)) :
    (e.update entries).Lists (d.putAll entries) := by
  induction entries generalizing e d with
  | nil => exact h
  | cons p rest ih => exact ih (h.assign p.1 p.2)

theorem ofList (entries : List (String × α)) :
    (Exports.ofList entries).Lists (Dated.empty.putAll entries) := empty.update entries

theorem popFirst (h : e.Lists d) (first : e.popFirst? = some ((n, v), e')) :
    d.Oldest n v ∧ e' = e.remove n := by
  obtain ⟨entries⟩ := e
  cases entries with
  | nil => cases first
  | cons p rest =>
    cases first
    have held : d.slot? n = some (d.date n, v) := by
      have here := h.held n
      rw [get?, List.lookup_cons_self] at here
      obtain ⟨⟨t, u⟩, slot, same⟩ := Option.map_eq_some_iff.mp here.symm
      cases same
      simp [Dated.date, slot]
    obtain ⟨older, -⟩ := List.pairwise_cons.mp h.order
    obtain ⟨fresh, -⟩ := List.nodup_cons.mp h.nodup
    refine ⟨⟨_, held, fun m s u slot => ?_⟩, ?_⟩
    · have there : m ∈ n :: rest.map (·.1) := h.mem_names.mpr (by simp [slot])
      refine (List.mem_cons.mp there).imp id fun later => ?_
      simpa [Dated.date, slot] using older m later
    · have others : rest.filter (·.1 != n) = rest :=
        List.filter_eq_self.mpr fun p hp => by
          simpa using fun same => fresh (List.mem_map.mpr ⟨p, hp, same⟩)
      simp [Exports.remove, others]

theorem none_of_popFirst (h : e.Lists d) (empty : e.popFirst? = none) (n : String) : d.slot? n = none := by
  obtain ⟨entries⟩ := e
  cases entries with
  | nil => simpa [get?] using (h.held n).symm
  | cons p rest => cases empty

end Lists

end Exports

end Notebook
