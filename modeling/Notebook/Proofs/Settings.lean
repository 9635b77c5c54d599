import Notebook.Repl
import Notebook.Proofs.NormalPath
import Notebook.Proofs.Written

/-! Settings from mappings: the root directory is in normal form, so settings that are given back their own
fields stay as they are; and the root directory of a settings file is found from where the file is. -/

set_option autoImplicit false

namespace Notebook.Datum

theorem same_str (d : Datum) (k : String) : d.same (.str k) = true ↔ d = .str k := by
  constructor
  · intro h
    cases d with
    | str s =>
      rw [same, beq_iff_eq] at h
      rw [h]
    | _ => simp [same, number?] at h
  · rintro rfl
    simp [same]

theorem get?_cons (a x : Datum) (es : List (Datum × Datum)) (k : String) :
    (dict ((a, x) :: es)).get? k = if a.same (.str k) then some x else (dict es).get? k := by
  unfold get?
  dsimp only
  rw [List.find?_cons]
  by_cases here : a = .str k
  · subst here
    simp [(same_str _ k).mpr rfl]
  · have other : a.same (.str k) = false := by rwa [← Bool.not_eq_true, same_str]
    rw [other]
    cases a with
    | str s =>
      have apart : (s == k) = false := by simpa using here
      simp [apart]
    | _ => simp

@[simp] theorem get?_nil (k : String) : (dict []).get? k = Option.none := rfl

@[simp] theorem get?_text (a : String) (x : Datum) (es : List (Datum × Datum)) (k : String) :
    (dict ((.str a, x) :: es)).get? k = if a = k then some x else (dict es).get? k := by
  rw [get?_cons]
  simp [same_str]

theorem any_same_str (es : List (Datum × Datum)) (k : String) :
    es.any (fun e => e.1.same (.str k)) = ((dict es).get? k).isSome := by
  induction es with
  | nil => rfl
  | cons e es ih =>
    rw [List.any_cons, get?_cons, ih]
    split
    next here => simp [here]
    next other => simp [other]

variable {es : List (Datum × Datum)} {k : String}

theorem keys_setEntry (there : ((dict es).get? k).isSome = true) (v : Datum) :
    (setEntry es (.str k) v).map (·.1) = es.map (·.1) := by
  rw [setEntry, if_pos (by rwa [any_same_str]), List.map_map]
  refine List.map_congr_left fun e _ => ?_
  dsimp only [Function.comp]
  split <;> rfl

theorem get?_setEntry (there : ((dict es).get? k).isSome = true) (v : Datum) (key : String) :
    (dict (setEntry es (.str k) v)).get? key = if key = k then some v else (dict es).get? key := by
  have places (fs : List (Datum × Datum)) :
      (dict (fs.map fun e => if e.1.same (.str k) then (e.1, v) else e)).get? key =
        if key = k then ((dict fs).get? key).map fun _ => v else (dict fs).get? key := by
    induction fs with
    | nil => simp [get?]
    | cons e fs ih =>
      rw [List.map_cons]
      by_cases mine : e.1.same (.str k) = true
      · rw [if_pos mine, get?_cons, get?_cons, ih]
        have shape := (same_str _ _).mp mine
        by_cases same : key = k
        · simp [same, mine]
        · have other : e.1.same (.str key) = false := by
            rw [shape]
            simpa [Datum.same] using Ne.symm same
          simp [same, other]
      · rw [if_neg mine, get?_cons, get?_cons, ih]
        by_cases same : key = k
        · simp [same, mine]
        · simp [same]
  rw [setEntry, if_pos (by rwa [any_same_str]), places]
  split
  next same =>
    subst same
    obtain ⟨x, found⟩ := Option.isSome_iff_exists.mp there
    rw [found]
    rfl
  next => rfl

end Notebook.Datum

namespace Notebook.Config

open Notebook.Text

/-! ### Settings from mappings -/

/-- The fields of settings, as the entries of a mapping. -/
def fields (c : Config) : List (Datum × Datum) :=
  [(.str "root_dir", c.rootDir), (.str "extension", .str c.extension), (.str "self_name", c.selfName),
    (.str "diagnostic_template", c.template), (.str "interrupt_message", c.interruptMessage)]

theorem ofDatum_dict (w : Path.Places) (es : List (Datum × Datum)) :
    ofDatum w (.dict es) =
      (refuseKeys ((es.map (·.1)).filter fun k => !isKnownKey k)).bind fun _ => ofEntries w (.dict es) := rfl

theorem ofEntries_eq (w : Path.Places) (d : Datum) :
    ofEntries w d = (rootOf w ((d.get? "root_dir").getD .none)).bind fun rootDir =>
      (extensionOf ((d.get? "extension").getD (.str ".py"))).map fun extension =>
        { rootDir, extension
          selfName := (d.get? "self_name").getD (.str "pycell")
          template := (d.get? "diagnostic_template").getD (.str defaultTemplate)
          interruptMessage :=
            (d.get? "interrupt_message").getD (.str "Interrupted asynchronously") } := by
  unfold ofEntries
  cases rootOf w ((d.get? "root_dir").getD .none) with
  | error e => rfl
  | ok root => cases extensionOf ((d.get? "extension").getD (.str ".py")) <;> rfl

theorem refuseKeys_texts (ks : List String) :
    refuseKeys (ks.map Datum.str) =
      if ks = [] then .ok () else .error (.unknownKeys (ks.mergeSort fun a b => a ≤ b)) := by
  have none : ks.filter (fun _ => false) = [] := by simp
  unfold refuseKeys
  simp only [List.filterMap_map, List.filter_map, Function.comp_def, List.filterMap_some, none, List.map_nil]
  cases ks with
  | nil => rfl
  | cons k ks => rw [if_neg (List.cons_ne_nil k ks)]

theorem unknown_texts {es : List (Datum × Datum)} {ks : List String} (texts : es.map (·.1) = ks.map .str) :
    refuseKeys ((es.map (·.1)).filter fun k => !isKnownKey k) =
      if ∀ k ∈ ks, k ∈ knownKeys then .ok ()
      else .error (.unknownKeys ((ks.filter fun k => !knownKeys.contains k).mergeSort fun a b => a ≤ b)) := by
  have kept : (es.map (·.1)).filter (fun k => !isKnownKey k) =
      (ks.filter fun k => !knownKeys.contains k).map .str := by
    rw [texts, List.filter_map]
    rfl
  rw [kept, refuseKeys_texts]
  refine ite_congr ?_ (fun _ => rfl) (fun _ => rfl)
  simp [List.filter_eq_nil_iff]

theorem ofEntries_ne_unknown (w : Path.Places) (d : Datum) (ks : List String) :
    ofEntries w d ≠ .error (.unknownKeys ks) := by
  have root (x : Datum) : rootOf w x ≠ .error (.unknownKeys ks) := by
    unfold rootOf
    split
    · split <;> simp
    · simp
  have extension (x : Datum) : extensionOf x ≠ .error (.unknownKeys ks) := by
    unfold extensionOf
    split <;> simp
  rw [ofEntries_eq]
  intro same
  cases rooted : rootOf w ((d.get? "root_dir").getD .none) with
  | error e =>
    rw [rooted] at same
    cases same
    exact root _ rooted
  | ok r =>
    cases extended : extensionOf ((d.get? "extension").getD (.str ".py")) with
    | error e =>
      rw [rooted, extended] at same
      cases same
      exact extension _ extended
    | ok e =>
      rw [rooted, extended] at same
      cases same

/-- A mapping whose keys are texts is refused for its keys exactly when one of them is unknown. -/
theorem ofDatum_unknown {es : List (Datum × Datum)} {ks : List String}
    (texts : es.map (·.1) = ks.map .str) (w : Path.Places) :
    (∃ unknown, ofDatum w (.dict es) = .error (.unknownKeys unknown)) ↔ ∃ k ∈ ks, k ∉ knownKeys := by
  rw [ofDatum_dict, unknown_texts texts]
  by_cases known : ∀ k ∈ ks, k ∈ knownKeys
  · rw [if_pos known]
    refine ⟨fun ⟨unknown, same⟩ => absurd same (ofEntries_ne_unknown w _ unknown), ?_⟩
    rintro ⟨k, member, out⟩
    exact absurd (known k member) out
  · rw [if_neg known]
    exact ⟨fun _ => by simpa using known, fun _ => ⟨_, rfl⟩⟩

/-! ### Normal settings -/

/-- Settings that nothing is left to do about. -/
structure Normal (c : Config) (root : String) : Prop where
  rootDir : c.rootDir = .str root
  absolute : Path.isAbsolute root = true
  normal : Path.normalize root = root
  dotted : c.extension.startsWith "." = true

theorem mem_of_get? {es : List (Datum × Datum)} {k : String} {x : Datum}
    (found : (Datum.dict es).get? k = some x) : ∃ e ∈ es, e.2 = x := by
  obtain ⟨e, first, rfl⟩ := Option.map_eq_some_iff.mp found
  exact ⟨e, List.mem_of_find?_eq_some first, rfl⟩

theorem rootOf_str (w : Path.Places) {p : String} (full : p ≠ "") :
    rootOf w (.str p) = .ok (.str (Path.absolute w (Path.expandHome w p))) := by
  rw [rootOf, if_pos (by simpa [Datum.isTrue] using full)]

theorem rootOf_text {w : Path.Places} (current : Path.isAbsolute w.current = true) {d : Datum}
    (text : d = .none ∨ ∃ s, d = .str s) :
    ∃ r, rootOf w d = .ok (.str r) ∧ Path.isAbsolute r = true ∧ Path.normalize r = r := by
  have place (p : String) := Path.isNormal_absolute current p
  obtain rfl | ⟨p, rfl⟩ := text
  · exact ⟨_, rfl, place _⟩
  · by_cases full : p = ""
    · subst full
      exact ⟨_, rfl, place _⟩
    · exact ⟨_, rootOf_str w full, place _⟩

theorem startsWith_extensionOf {d : Datum} {e : String} (h : extensionOf d = .ok e) :
    e.startsWith "." = true := by
  unfold extensionOf at h
  split at h
  next s =>
    cases h
    split
    next dotted => exact dotted
    next =>
      rw [String.startsWith_string_iff, String.toList_append]
      exact List.prefix_append _ _
  all_goals cases h

theorem ofDatum_eq_ok {w : Path.Places} {es : List (Datum × Datum)} {c : Config}
    (h : ofDatum w (.dict es) = .ok c) :
    refuseKeys ((es.map (·.1)).filter fun k => !isKnownKey k) = .ok () ∧ ofEntries w (.dict es) = .ok c := by
  rw [ofDatum_dict] at h
  cases keys : refuseKeys ((es.map (·.1)).filter fun k => !isKnownKey k) with
  | error e => rw [keys] at h; cases h
  | ok u =>
    rw [keys] at h
    exact ⟨rfl, h⟩

theorem normal_ofDatum {w : Path.Places} (current : Path.isAbsolute w.current = true)
    {es : List (Datum × Datum)} (texts : ∀ e ∈ es, ∃ s, e.2 = .str s) {c : Config}
    (h : ofDatum w (.dict es) = .ok c) : ∃ root, c.Normal root := by
  have entries := (ofDatum_eq_ok h).2
  rw [ofEntries_eq] at entries
  have text : ((Datum.dict es).get? "root_dir").getD .none = .none ∨
      ∃ s, ((Datum.dict es).get? "root_dir").getD .none = .str s := by
    cases found : (Datum.dict es).get? "root_dir" with
    | none => exact .inl rfl
    | some x =>
      obtain ⟨e, member, rfl⟩ := mem_of_get? found
      exact .inr (texts e member)
  obtain ⟨root, rooted, absolute, normal⟩ := rootOf_text current text
  rw [rooted] at entries
  cases extended : extensionOf (((Datum.dict es).get? "extension").getD (.str ".py")) with
  | error e => rw [extended] at entries; cases entries
  | ok e =>
    rw [extended] at entries
    cases entries
    exact ⟨root, rfl, absolute, normal, startsWith_extensionOf extended⟩

theorem rootOf_normal (w : Path.Places) {root : String} (absolute : Path.isAbsolute root = true)
    (normal : Path.normalize root = root) : rootOf w (.str root) = .ok (.str root) := by
  have full : root ≠ "" := by
    rintro rfl
    exact absurd absolute (by decide)
  rw [rootOf_str w full, Path.expandHome_absolute w absolute, Path.absolute_absolute w absolute, normal]

theorem ofDatum_root (w : Path.Places) {root : String} (absolute : Path.isAbsolute root = true)
    (normal : Path.normalize root = root) :
    ofDatum w (.dict [(.str "root_dir", .str root)]) = .ok { rootDir := .str root } := by
  have keys : refuseKeys ([.str "root_dir"].filter fun k => !isKnownKey k) = .ok () := rfl
  have extension : extensionOf (.str ".py") = .ok ".py" := congrArg Except.ok (by decide +kernel)
  rw [ofDatum_dict, List.map_singleton, keys, ofEntries_eq]
  simp [rootOf_normal w absolute normal, extension, Except.bind, Except.map]

/-- Settings that are given back the fields of normal ones are the same, wherever that happens. -/
theorem ofDatum_fields {c : Config} {root : String} (h : c.Normal root) (w : Path.Places) :
    ofDatum w (.dict c.fields) = .ok c := by
  have same : rootOf w c.rootDir = .ok c.rootDir := h.rootDir ▸ rootOf_normal w h.absolute h.normal
  have dotted : extensionOf (.str c.extension) = .ok c.extension := by
    rw [extensionOf, if_pos h.dotted]
  have keys : refuseKeys ((c.fields.map (·.1)).filter fun k => !isKnownKey k) = .ok () := rfl
  rw [ofDatum_dict, keys, Except.bind, ofEntries_eq]
  simp [fields, same, dotted, Except.bind, Except.map]

/-! ### Settings from files -/

variable {es : List (Datum × Datum)} {r : String}

/-- A root directory that is not absolute is taken from the directory of the file; the rest of the settings
is as it would be for the mapping alone. -/
theorem ofFileDatum_relative (w : Path.Places) {path : String} (rooted : Path.isAbsolute path = true)
    (root : (Datum.dict es).get? "root_dir" = some (.str r)) (full : r ≠ "")
    (relative : Path.isAbsolute r = false) (home : Path.expandHome w r = r) :
    ofFileDatum w path (.dict es) = (ofDatum w (.dict es)).map fun c =>
      { c with rootDir := .str (Path.normalize (Path.append (Path.parent (Path.normalize path)) r)) } := by
  have there : ((Datum.dict es).get? "root_dir").isSome = true := by rw [root]; rfl
  have some : es ≠ [] := by
    rintro rfl
    cases root
  have parent := Path.isAbsolute_parent (Path.normalize_absolute rooted).1
  generalize dir' : Path.append (Path.parent (Path.normalize path)) r = dir
  have absolute : Path.isAbsolute dir = true := dir' ▸ Path.isAbsolute_append parent r
  have dirFull : dir ≠ "" := by
    rintro rfl
    exact absurd absolute (by decide)
  have located : locateRoot w path (.dict es) =
      .ok (.dict (Datum.setEntry es (.str "root_dir") (.str dir))) := by
    have isTrue : (Datum.str r).isTrue = true := by simpa [Datum.isTrue] using full
    have away : ¬ Path.isAbsolute r = true := by simp [relative]
    rw [locateRoot, root]
    simp only [isTrue, Bool.not_true, Bool.false_eq_true, if_false, home, relative]
    rw [Path.absolute_absolute w rooted, dir']
    rfl
  have moved : ofFileDatum w path (.dict es) =
      ofDatum w (.dict (Datum.setEntry es (.str "root_dir") (.str dir))) := by
    have isTrue : ¬ (!(Datum.dict es).isTrue) = true := by simpa [Datum.isTrue] using some
    rw [ofFileDatum, if_neg isTrue]
    exact congrArg (Except.bind · fun d => ofDatum w d) located
  rw [moved, ofDatum_dict, ofDatum_dict, Datum.keys_setEntry there]
  cases refuseKeys ((es.map (·.1)).filter fun k => !isKnownKey k) with
  | error e => rfl
  | ok u =>
    have mine := Datum.get?_setEntry there (.str dir) "root_dir"
    rw [if_pos rfl] at mine
    have other (key : String) (apart : key ≠ "root_dir") :=
      (Datum.get?_setEntry there (.str dir) key).trans (if_neg apart)
    have before : rootOf w (.str r) = .ok (.str (Path.absolute w r)) := by rw [rootOf_str w full, home]
    have after : rootOf w (.str dir) = .ok (.str (Path.normalize dir)) := by
      rw [rootOf_str w dirFull, Path.expandHome_absolute w absolute, Path.absolute_absolute w absolute]
    change ofEntries w _ = (ofEntries w _).map _
    rw [ofEntries_eq, ofEntries_eq, mine, root, Option.getD_some, Option.getD_some, before, after,
      other "extension" (by decide), other "self_name" (by decide), other "diagnostic_template" (by decide),
      other "interrupt_message" (by decide)]
    dsimp only [Except.bind]
    cases extensionOf (((Datum.dict es).get? "extension").getD (.str ".py")) <;> rfl

end Notebook.Config

namespace Notebook.Repl

open Config
open Notebook.Code (of_toOption_any)

/-- Settings are normal and stay as they are when they are given back their fields. Settings from a file are
those of its mapping, with a relative root directory found from where the file is. A mapping is refused for
its keys exactly when one of them is unknown. -/
theorem settings_normal (w : Path.Places) (current : Path.isAbsolute w.current = true) :
    (∀ es c, (∀ e ∈ es, ∃ s, e.2 = .str s) → ofDatum w (.dict es) = .ok c →
      ∃ root, c.Normal root ∧ ∀ w', ofDatum w' (.dict c.fields) = .ok c) ∧
    (∀ files path text es r, Path.isAbsolute path = true → readText w files path = .ok text →
      Yaml.load text = .ok (.dict es) → (Datum.dict es).get? "root_dir" = some (.str r) → r ≠ "" →
      Path.isAbsolute r = false → Path.expandHome w r = r →
      fileSettings w files path = ((ofDatum w (.dict es)).map fun c =>
        { c with rootDir := .str (Path.normalize (Path.append (Path.parent (Path.normalize path)) r)) }
        ).mapError .badConfig) ∧
    (∀ (es : List (Datum × Datum)) (ks : List String), es.map (·.1) = ks.map .str →
      ((∃ unknown, ofDatum w (.dict es) = .error (.unknownKeys unknown)) ↔ ∃ k ∈ ks, k ∉ knownKeys)) := by
  refine ⟨fun es c texts h => ?_, fun files path text es r rooted read loaded root full relative home => ?_,
    fun es ks texts => ofDatum_unknown texts w⟩
  · obtain ⟨root, normal⟩ := normal_ofDatum current texts h
    exact ⟨root, normal, ofDatum_fields normal⟩
  · rw [fileSettings, read]
    dsimp only
    rw [loaded]
    dsimp only
    rw [ofFileDatum_relative w rooted root full relative home]

def isEntry (key text : String) : Datum → Bool
  | .dict [(.str k, .str v)] => k == key && v == text
  | _ => false

theorem eq_of_isEntry {key text : String} {d : Datum} (h : isEntry key text d = true) :
    d = .dict [(.str key, .str text)] := by
  unfold isEntry at h
  split at h
  next k v =>
    rw [Bool.and_eq_true, beq_iff_eq, beq_iff_eq] at h
    rw [h.1, h.2]
  next => cases h

theorem settings_normal_app :
    (∃ root, Normal { rootDir := .str "/home/user/b", extension := ".txt" } root ∧
      ∀ w, ofDatum w (.dict (Config.fields { rootDir := .str "/home/user/b", extension := ".txt" })) =
        .ok { rootDir := .str "/home/user/b", extension := ".txt" }) ∧
    (∃ c, fileSettings ⟨"/w", "/home/user"⟩
        ⟨[("/etc/app.yaml", "root_dir: ../lib\n".toList.map fun c => UInt8.ofNat c.toNat)]⟩
        "/etc//x/../app.yaml" = .ok c ∧ c.rootDir = .str "/lib") ∧
    ∃ unknown, ofDatum ⟨"/w", "/home/user"⟩ (.dict [(.str "root_dir", .int 3), (.str "root", .none)]) =
      .error (.unknownKeys unknown) := by
  obtain ⟨normal, located, unknown⟩ := settings_normal ⟨"/w", "/home/user"⟩ (by decide +kernel)
  refine ⟨?_, ?_, ?_⟩
  · refine normal [(.str "root_dir", .str "~/a/..//b/"), (.str "extension", .str "txt")] _ (by simp) ?_
    have root : rootOf ⟨"/w", "/home/user"⟩ (.str "~/a/..//b/") = .ok (.str "/home/user/b") := by
      rw [rootOf_str _ (by decide)]
      exact congrArg (fun p => Except.ok (Datum.str p)) (by decide +kernel)
    have extension : extensionOf (.str "txt") = .ok ".txt" := congrArg Except.ok (by decide +kernel)
    have keys : refuseKeys ([.str "root_dir", .str "extension"].filter fun k => !isKnownKey k) = .ok () := rfl
    rw [ofDatum_dict, List.map_cons, List.map_singleton, keys, ofEntries_eq]
    simp [root, extension, Except.bind, Except.map]
  · have read : readText ⟨"/w", "/home/user"⟩
        ⟨[("/etc/app.yaml", "root_dir: ../lib\n".toList.map fun c => UInt8.ofNat c.toNat)]⟩
        "/etc//x/../app.yaml" = .ok "root_dir: ../lib\n" := by
      have text : (readText ⟨"/w", "/home/user"⟩
          ⟨[("/etc/app.yaml", "root_dir: ../lib\n".toList.map fun c => UInt8.ofNat c.toNat)]⟩
          "/etc//x/../app.yaml").toOption.any (· == "root_dir: ../lib\n") = true := by decide +kernel
      obtain ⟨s, same, equal⟩ := of_toOption_any text
      rw [same, eq_of_beq equal]
    have loaded : Yaml.load "root_dir: ../lib\n" = .ok (.dict [(.str "root_dir", .str "../lib")]) := by
      have data : (Yaml.load "root_dir: ../lib\n").toOption.any (isEntry "root_dir" "../lib") = true := by decide +kernel
      obtain ⟨d, same, entry⟩ := of_toOption_any data
      rw [same, eq_of_isEntry entry]
    rw [located _ _ _ _ _ (by decide +kernel) read loaded rfl (by decide) (by decide +kernel) (by decide +kernel)]
    have root : Path.normalize (Path.append (Path.parent (Path.normalize "/etc//x/../app.yaml")) "../lib") =
      "/lib" := by decide +kernel
    exact ⟨_, rfl, congrArg Datum.str root⟩
  · exact (unknown _ ["root_dir", "root"] rfl).mpr ⟨"root", by simp, by decide⟩

/-- An empty root directory is not taken from the directory of the file: it counts as not set. -/
theorem settings_empty_root :
    Path.isAbsolute "" = false ∧ Path.expandHome ⟨"/w", "/home/user"⟩ "" = "" ∧
    Path.normalize (Path.append (Path.parent (Path.normalize "/etc/app.yaml")) "") = "/etc" ∧
    (match fileSettings ⟨"/w", "/home/user"⟩
        ⟨[("/etc/app.yaml", "root_dir: ''\n".toList.map fun c => UInt8.ofNat c.toNat)]⟩ "/etc/app.yaml" with
      | .ok c => c.root
      | .error _ => "") = "/w" := by
  decide +kernel

end Notebook.Repl
