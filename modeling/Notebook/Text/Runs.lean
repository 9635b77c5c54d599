set_option autoImplicit false

namespace Notebook.Text

/-- A set of code points given by its ascending boundaries: membership changes at each of them,
and nothing below the first is a member. -/
structure Runs where
  bounds : Array Nat
deriving Repr

namespace Runs

def hexDigit (c : Char) : Nat :=
  if '0' ≤ c ∧ c ≤ '9' then c.toNat - '0'.toNat else c.toNat - 'a'.toNat + 10

def words : List Char → Option Nat → List Nat
  | [], none => []
  | [], some n => [n]
  | c :: cs, acc =>
    if c = ' ' then
      match acc with
      | none => words cs none
      | some n => n :: words cs none
    else words cs (some (acc.getD 0 * 16 + hexDigit c))

/-- Reads run lengths, alternately outside and inside the set, starting at U+0080. -/
def ofLines (rows : List String) : Runs :=
  let step : Nat × Array Nat → Nat → Nat × Array Nat :=
    fun (last, out) n => (last + n, out.push (last + n))
  ⟨((rows.flatMap fun row => words row.toList none).foldl step (128, #[])).2⟩

/-- The number of boundaries up to `n`, by bisection between `lo` and `hi`. -/
def rank (r : Runs) (n : Nat) : Nat → Nat → Nat → Nat
  | 0, lo, _ => lo
  | fuel + 1, lo, hi =>
    if lo < hi then
      let mid := (lo + hi) / 2
      if r.bounds.getD mid 0 ≤ n then rank r n fuel (mid + 1) hi else rank r n fuel lo mid
    else lo

/-- A code point is a member exactly when an odd number of boundaries lie at or below it. -/
def contains (r : Runs) (n : Nat) : Bool :=
  rank r n 32 0 r.bounds.size % 2 == 1

/-- The first code point of the run that holds the member `n`. -/
def start (r : Runs) (n : Nat) : Nat :=
  r.bounds.getD (rank r n 32 0 r.bounds.size - 1) 0

end Runs
end Notebook.Text
