import Notebook.Proofs.Steady
import Notebook.Proofs.Settings

/-! The input of the command line, as parts: blank lines, control lines, cells of one line and blocks. Each
line that is read belongs to one part, and the loop performs the parts one after another. -/

set_option autoImplicit false

namespace Notebook.Repl

open Notebook.Machine Notebook.Loop Notebook.Session Notebook.Text

/-- What lines of the input are to the loop. A block without a closing line ends with the input. -/
inductive Part where
  | blank (raw : String)
  | reset (raw : String)
  | line (raw : String)
  | block (raw : String) (body : List String) (closing : Option String)
  | exit (raw : String)
deriving DecidableEq, Repr

namespace Part

def lines : Part → List String
  | .blank raw | .reset raw | .line raw | .exit raw => [raw]
  | .block raw body closing => raw :: body ++ closing.toList

/-- Whether lines may come after it; a block that no line closes takes all there are. -/
def Precedes (ls : List String) : Part → Prop
  | .exit _ => False
  | .block _ _ none => ls = []
  | _ => True

end Part

def word (raw : String) : String := trim (chomp raw)

def IsCode (raw : String) : Prop := word raw ≠ "" ∧ word raw ≠ "exit" ∧ word raw ≠ "%reset"

def Part.Fits : Part → Prop
  | .blank raw => word raw = ""
  | .reset raw => word raw = "%reset"
  | .exit raw => word raw = "exit"
  | .line raw => IsCode raw ∧ opensBlock (chomp raw) = false
  | .block raw body closing =>
    IsCode raw ∧ opensBlock (chomp raw) = true ∧ (∀ l ∈ body, isBlankText l = false) ∧
      ∀ l ∈ closing, isBlankText l = true

/-- The parts of the lines of an input, and the lines that are not read. -/
inductive Reads : List String → List Part → List String → Prop
  | done : Reads [] [] []
  | exit {raw : String} (fits : (Part.exit raw).Fits) (rest : List String) :
    Reads (raw :: rest) [.exit raw] rest
  | next {p : Part} {ls : List String} {ps : List Part} {rest : List String} (fits : p.Fits)
    (goes : p.Precedes ls) (later : Reads ls ps rest) : Reads (p.lines ++ ls) (p :: ps) rest

/-! ### The parts of an input -/

section Block

variable {body : List String} (full : ∀ l ∈ body, isBlankText l = false)
include full

theorem readBlock_closed {l : String} (blank : isBlankText l = true) (rest : List String) :
    readBlock (body ++ l :: rest) = (body.map chomp, body.length + 1, rest) := by
  induction body with
  | nil => rw [List.nil_append, readBlock, if_pos blank]; rfl
  | cons k body ih =>
    rw [List.forall_mem_cons] at full
    rw [List.cons_append, readBlock, if_neg (by simp [full.1]), ih full.2]
    rfl

theorem readBlock_cut : readBlock body = (body.map chomp, body.length + 1, []) := by
  induction body with
  | nil => rfl
  | cons k body ih =>
    rw [List.forall_mem_cons] at full
    rw [readBlock, if_neg (by simp [full.1]), ih full.2]
    rfl

end Block

theorem full_or_closed (ls : List String) :
    (∀ l ∈ ls, isBlankText l = false) ∨ ∃ body l rest, ls = body ++ l :: rest ∧
      (∀ k ∈ body, isBlankText k = false) ∧ isBlankText l = true := by
  induction ls with
  | nil => exact .inl (by simp)
  | cons k ls ih =>
    cases blank : isBlankText k with
    | true => exact .inr ⟨[], k, ls, rfl, by simp, blank⟩
    | false =>
      rcases ih with full | ⟨body, l, rest, rfl, full, closes⟩
      · exact .inl (List.forall_mem_cons.mpr ⟨blank, full⟩)
      · exact .inr ⟨k :: body, l, rest, rfl, List.forall_mem_cons.mpr ⟨blank, full⟩, closes⟩

theorem exists_reads (ls : List String) : ∃ ps rest, Reads ls ps rest := by
  induction size : ls.length using Nat.strongRecOn generalizing ls with
  | ind n ih =>
    cases ls with
    | nil => exact ⟨[], [], .done⟩
    | cons raw ls =>
      have go {p : Part} {ks : List String} (split : raw :: ls = p.lines ++ ks) (some : p.lines ≠ [])
          (fits : p.Fits) (goes : p.Precedes ks) : ∃ ps rest, Reads (raw :: ls) ps rest := by
        have shorter : ks.length < n := by
          have := List.length_pos_iff.mpr some
          rw [← size, split, List.length_append]
          omega
        obtain ⟨ps, rest, later⟩ := ih ks.length shorter ks rfl
        exact ⟨p :: ps, rest, split ▸ .next fits goes later⟩
      by_cases blank : word raw = ""
      · exact go (p := .blank raw) rfl (List.cons_ne_nil _ _) blank trivial
      by_cases exit : word raw = "exit"
      · exact ⟨_, _, .exit exit ls⟩
      by_cases reset : word raw = "%reset"
      · exact go (p := .reset raw) rfl (List.cons_ne_nil _ _) reset trivial
      have code : IsCode raw := ⟨blank, exit, reset⟩
      cases opens : opensBlock (chomp raw) with
      | false => exact go (p := .line raw) rfl (List.cons_ne_nil _ _) ⟨code, opens⟩ trivial
      | true =>
        rcases full_or_closed ls with full | ⟨body, l, rest, rfl, full, closes⟩
        · exact go (p := .block raw ls none) (by simp [Part.lines]) (List.cons_ne_nil _ _)
            ⟨code, opens, full, by simp⟩ rfl
        · have split : raw :: (body ++ l :: rest) = (Part.block raw body (some l)).lines ++ rest := by
            simp [Part.lines]
          exact go split (List.cons_ne_nil _ _) ⟨code, opens, full, by simpa using closes⟩ trivial

theorem Reads.lines_eq {ls : List String} {ps : List Part} {rest : List String} (h : Reads ls ps rest) :
    ps.flatMap Part.lines ++ rest = ls := by
  induction h with
  | done => rfl
  | exit => rfl
  | next _ _ _ ih => rw [List.flatMap_cons, List.append_assoc, ih]

/-! ### Performing the parts -/

/-- What the loop does about a part whose first line is read. -/
def Part.perform (main : FutureId) (turns : Nat) : Part → S (Option Ending)
  | .blank _ => return none
  | .reset _ => do
    Session.reset
    return none
  | .exit _ => return some .done
  | .line raw => do afterCell (← Session.run main (chomp raw))
  | .block raw body _ => do
    -- one line more is asked for than the block has
    match ← prompt main turns "... " (body.length + 1) with
    | .left exc => return some (← endingOf exc)
    | .stuck => return some .done
    | .ok _ => afterCell (← Session.run main (joinWith "\n" ((raw :: body).map chomp)))

def atPrompt (main : FutureId) (turns : Nat) (next : S Ending) : S Ending := do
  match ← prompt main turns ">> " 1 with
  | .left exc => endingOf exc
  | .stuck => return .done
  | .ok _ => next

/-- Performs the parts of an input in their order, up to the end of the input. -/
def performAll (main : FutureId) (turns : Nat) : List Part → S Ending
  | [] => atPrompt main turns do
    printOut "\nExiting.\n"
    return .done
  | p :: ps => atPrompt main turns do
    (← p.perform main turns).elim (performAll main turns ps) pure

/-- The loop performs a part when it has read its first line, and goes on with the lines after it. -/
theorem loop_part {p : Part} {ls : List String} (fits : p.Fits) (goes : p.Precedes ls) (main : FutureId)
    (turns : Nat) :
    loop main turns (p.lines ++ ls) = atPrompt main turns (do
      (← p.perform main turns).elim (loop main turns ls) pure) := by
  cases p with
  | blank raw =>
    have fits : trim (chomp raw) = "" := fits
    rw [Part.lines, List.singleton_append, loop]
    refine bind_congr fun back => ?_
    cases back <;> simp [Part.perform, fits]
  | reset raw =>
    have fits : trim (chomp raw) = "%reset" := fits
    rw [Part.lines, List.singleton_append, loop]
    refine bind_congr fun back => ?_
    cases back <;> simp [Part.perform, fits]
  | exit raw => cases goes
  | line raw =>
    obtain ⟨⟨blank, exit, reset⟩, opens⟩ := fits
    unfold word at blank exit reset
    rw [Part.lines, List.singleton_append, loop]
    refine bind_congr fun back => ?_
    cases back with
    | left | stuck => rfl
    | ok => simp [Part.perform, runCell, blank, exit, reset, opens]
  | block raw body closing =>
    obtain ⟨⟨blank, exit, reset⟩, opens, full, closes⟩ := fits
    unfold word at blank exit reset
    have block : readBlock (body ++ closing.toList ++ ls) = (body.map chomp, body.length + 1, ls) := by
      cases closing with
      | none =>
        cases (goes : ls = [])
        simpa using readBlock_cut full
      | some l => simpa using readBlock_closed full (by simpa using closes) ls
    rw [Part.lines, List.cons_append, List.cons_append, loop]
    refine bind_congr fun back => ?_
    cases back with
    | left | stuck => rfl
    | ok =>
      simp only [Part.perform, runCell, blank, exit, reset, opens, block, beq_iff_eq, if_false, if_true, bind_assoc]
      refine bind_congr fun back => ?_
      cases back with
      | left exc => simp
      | stuck => rfl
      | ok => simp

theorem loop_eq {ls : List String} {ps : List Part} {rest : List String} (h : Reads ls ps rest)
    (main : FutureId) (turns : Nat) : loop main turns ls = performAll main turns ps := by
  induction h with
  | done =>
    rw [loop, performAll]
    rfl
  | @exit raw fits rest =>
    have fits : trim (chomp raw) = "exit" := fits
    rw [loop, performAll]
    refine bind_congr fun back => ?_
    cases back <;> simp [Part.perform, fits]
  | next fits goes _ ih => rw [loop_part fits goes, performAll, ih]

/-! ### Runs that nothing disturbs -/

section Undisturbed

variable (main : FutureId) (turns : Nat)

def asked (s : State) : State := (prompt main turns ">> " 1 s).2

def askedFor (body : List String) (s : State) : State := (prompt main turns "... " (body.length + 1) s).2

def Part.next : Part → State → State
  | .blank _, s | .exit _, s => s
  | .reset _, s => (Session.reset s).2
  | .line raw, s => (Session.run main (chomp raw) s).2
  | .block raw body _, s =>
    (Session.run main (joinWith "\n" ((raw :: body).map chomp)) (askedFor main turns body s)).2

/-- The session after the parts of an input in their order. -/
def afterParts : List Part → State → State
  | [], s => (printOut "\nExiting.\n" (asked main turns s)).2
  | .exit _ :: _, s => asked main turns s
  | p :: ps, s => afterParts ps (p.next main turns (asked main turns s))

def isOk : Back Unit → Bool
  | .ok _ => true
  | _ => false

def returns : Back RunEnd → Bool
  | .ok (.outcome ..) => true
  | _ => false

def Part.isOver : Part → State → Bool
  | .line raw, s => returns (Session.run main (chomp raw) s).1
  | .block raw body _, s =>
    isOk (prompt main turns "... " (body.length + 1) s).1 &&
      returns (Session.run main (joinWith "\n" ((raw :: body).map chomp)) (askedFor main turns body s)).1
  | _, _ => true

/-- Whether every line that is asked for can be read, and every cell that is run returns. -/
def undisturbed : List Part → State → Bool
  | [], s | .exit _ :: _, s => isOk (prompt main turns ">> " 1 s).1
  | p :: ps, s =>
    isOk (prompt main turns ">> " 1 s).1 && p.isOver main turns (asked main turns s) &&
      undisturbed ps (p.next main turns (asked main turns s))

variable {main turns}

theorem atPrompt_run {s : State} (h : isOk (prompt main turns ">> " 1 s).1 = true) (next : S Ending) :
    atPrompt main turns next s = next (asked main turns s) := by
  rw [atPrompt, bind_apply]
  cases read : (prompt main turns ">> " 1 s).1 with
  | ok => rfl
  | left | stuck => rw [read] at h; cases h

theorem afterCell_run {back : Back RunEnd} (h : returns back = true) (s : State) : afterCell back s = (none, s) := by
  cases back with
  | ok ended =>
    cases ended with
    | outcome => rfl
    | escaped => cases h
  | left | stuck => cases h

theorem Part.perform_run {p : Part} (goes : ∀ raw, p ≠ .exit raw) {s : State} (h : p.isOver main turns s = true) :
    p.perform main turns s = (none, p.next main turns s) := by
  cases p with
  | blank | reset => rfl
  | exit raw => exact absurd rfl (goes raw)
  | line raw =>
    rw [Part.isOver] at h
    rw [Part.perform, bind_apply, afterCell_run h, Part.next]
  | block raw body closing =>
    rw [Part.isOver, Bool.and_eq_true] at h
    rw [Part.perform, bind_apply]
    cases read : (prompt main turns "... " (body.length + 1) s).1 with
    | ok =>
      dsimp only
      rw [bind_apply, ← askedFor, afterCell_run h.2, Part.next]
    | left | stuck => rw [read] at h; cases h.1

theorem performAll_run {ps : List Part} {s : State} (h : undisturbed main turns ps s = true) :
    performAll main turns ps s = (.done, afterParts main turns ps s) := by
  fun_induction undisturbed main turns ps s with
  | case1 s => rw [performAll, atPrompt_run h]; rfl
  | case2 s raw ps => rw [performAll, atPrompt_run h]; rfl
  | case3 s p ps goes ih =>
    rw [Bool.and_eq_true, Bool.and_eq_true] at h
    rw [performAll, atPrompt_run h.1.1, bind_apply, Part.perform_run goes h.1.2, afterParts]
    · exact ih h.2
    · exact goes

end Undisturbed

/-- The main task and the state at the first prompt. -/
def started (r : Request) (config : Config) : FutureId × State :=
  open_ (printOut banner (State.start r.places config r.files true)).2

theorem asMain_run (before : String) (body : FutureId → S Ending) (s : State) :
    asMain before body s =
      (do
        let ending ← body (open_ (printOut before s).2).1
        close
        shutDown (open_ (printOut before s).2).1
        return ending) (open_ (printOut before s).2).2 := by
  rw [asMain, bind_apply, bind_apply]

/-- The lines of an input fall into parts, and running them performs these one after another in a session that
is closed after them. Where nothing disturbs that, each cell is run and each reset is done in the session that
the part before it leaves. -/
theorem run_reads (r : Request) (interactive : (r.args.head?.filter fun a => !a.startsWith "-") = none)
    (config : Config) (defaults : settings r r.places.current = .ok config) :
    (∃ ps rest, Reads (inputLines r.input.toList []) ps rest) ∧
    ∀ ps rest, Reads (inputLines r.input.toList []) ps rest →
      ps.flatMap Part.lines ++ rest = inputLines r.input.toList [] ∧
      run r = .after (do
          printOut banner
          let main ← open_
          let ending ← performAll main r.turns ps
          close
          shutDown main
          return ending) (State.start r.places config r.files true) ∧
      (undisturbed (started r config).1 r.turns ps (started r config).2 = true →
        run r = .after (do
            close
            shutDown (started r config).1
            return .done) (afterParts (started r config).1 r.turns ps (started r config).2)) := by
  refine ⟨exists_reads _, fun ps rest reads => ?_⟩
  have same : (fun main => loop main r.turns (inputLines r.input.toList [])) =
      fun main => performAll main r.turns ps :=
    funext fun main => loop_eq reads main r.turns
  have whole : run r = .after (asMain banner fun main => performAll main r.turns ps)
      (State.start r.places config r.files true) := by
    rw [run, interactive]
    dsimp only
    rw [defaults]
    dsimp only
    rw [same, inSession]
  refine ⟨reads.lines_eq, whole, fun h => ?_⟩
  have ended : asMain banner (fun main => performAll main r.turns ps) (State.start r.places config r.files true) =
      (do
        close
        shutDown (started r config).1
        return .done : S Ending) (afterParts (started r config).1 r.turns ps (started r config).2) := by
    rw [asMain_run, ← started, bind_apply, performAll_run h]
  rw [whole, Answer.after, ended, Answer.after]

/-- A request with a block that holds a control line, a reset, and a line after the last one that is read. -/
def mixedRequest : Request where
  places := ⟨"/w", "/home/user"⟩
  input := "$:\n exit\n\n %reset\nexit\nlost\n"

def mixedParts : List Part :=
  [.block "$:\n" [" exit\n"] (some "\n"), .reset " %reset\n", .exit "exit\n"]

theorem run_reads_mixed :
    run mixedRequest = .after (do
        close
        shutDown (started mixedRequest { rootDir := .str "/w" }).1
        return .done) (afterParts (started mixedRequest { rootDir := .str "/w" }).1 2 mixedParts
          (started mixedRequest { rootDir := .str "/w" }).2) := by
  have interactive : (mixedRequest.args.head?.filter fun a => !a.startsWith "-") = none := rfl
  have defaults : settings mixedRequest mixedRequest.places.current = .ok { rootDir := .str "/w" } := by
    have absolute : Path.isAbsolute "/w" = true := by decide +kernel
    have normal : Path.normalize "/w" = "/w" := by decide +kernel
    exact congrArg (Except.mapError Ending.badConfig) (Config.ofDatum_root _ absolute normal)
  have reads : Reads (inputLines mixedRequest.input.toList []) mixedParts ["lost\n"] := by
    have lines : inputLines mixedRequest.input.toList [] =
        ["$:\n", " exit\n", "\n", " %reset\n", "exit\n", "lost\n"] := by
      decide +kernel
    have code : word "$:\n" ≠ "" ∧ word "$:\n" ≠ "exit" ∧ word "$:\n" ≠ "%reset" := by
      decide +kernel
    have opens : opensBlock (chomp "$:\n") = true := by decide +kernel
    have full : ∀ l ∈ [" exit\n"], isBlankText l = false := by decide +kernel
    have closes : isBlankText "\n" = true := by decide +kernel
    have reset : word " %reset\n" = "%reset" := by decide +kernel
    have exit : word "exit\n" = "exit" := by decide +kernel
    have cell : (Part.block "$:\n" [" exit\n"] (some "\n")).Fits :=
      ⟨code, opens, full, by simpa using closes⟩
    rw [lines]
    exact .next cell trivial (.next (p := .reset _) reset trivial (.exit exit _))
  obtain ⟨-, whole⟩ := run_reads mixedRequest interactive _ defaults
  obtain ⟨-, -, performs⟩ := whole _ _ reads
  exact performs (by decide +kernel)

end Notebook.Repl
