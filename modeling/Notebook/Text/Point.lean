/-! Code points of texts. A text may hold half of a surrogate pair, which no character is; such a
half stands in a text as a private character of the last plane, `0x100000` above it, and texts with those
private characters themselves are left out. -/

set_option autoImplicit false

namespace Notebook.Text

def isHalf (n : Nat) : Bool := 0xd800 ≤ n && n < 0xe000

def halfShift : Nat := 0x100000

def point (c : Char) : Nat :=
  if isHalf (c.toNat - halfShift) then c.toNat - halfShift else c.toNat

def ofPoint (n : Nat) : Char := Char.ofNat (if isHalf n then n + halfShift else n)

def isHalfChar (c : Char) : Bool := isHalf (point c)

end Notebook.Text
