set_option autoImplicit false

namespace Notebook.Text

def sextet? (c : Char) : Option Nat :=
  if 'A' ≤ c && c ≤ 'Z' then some (c.toNat - 'A'.toNat)
  else if 'a' ≤ c && c ≤ 'z' then some (c.toNat - 'a'.toNat + 26)
  else if '0' ≤ c && c ≤ '9' then some (c.toNat - '0'.toNat + 52)
  else if c == '+' then some 62
  else if c == '/' then some 63
  else none

structure Quad where
  /-- How many letters of the group are there. -/
  count : Nat := 0
  /-- The bits that no byte has taken yet. -/
  left : Nat := 0
  /-- How many marks of padding were met since the last letter. -/
  pads : Nat := 0

/-- Takes a letter, which may complete a byte. -/
def Quad.take (q : Quad) (bits : Nat) : Option Nat × Quad :=
  match q.count with
  | 0 => (none, { count := 1, left := bits })
  | 1 => (some (q.left * 4 + bits / 16), { count := 2, left := bits % 16 })
  | 2 => (some (q.left * 16 + bits / 4), { count := 3, left := bits % 4 })
  | _ => (some (q.left * 64 + bits), {})

/-- The bytes of a text in sextets; padding that completes a group ends them, and characters that
are no letters do not count. Nothing if a group is left open. -/
def decodeSextets (q : Quad) : List Char → Option (List UInt8)
  | [] => if q.count == 0 then some [] else none
  | c :: cs =>
    if c == '=' then
      if 2 ≤ q.count then
        if 4 ≤ q.count + q.pads + 1 then some []
        else decodeSextets { q with pads := q.pads + 1 } cs
      else decodeSextets q cs
    else
      match sextet? c with
      | none => decodeSextets q cs
      | some bits =>
        match q.take bits with
        | (none, q) => decodeSextets q cs
        | (some byte, q) => (decodeSextets q cs).map (UInt8.ofNat byte :: ·)

end Notebook.Text
