import Notebook.Decimal.Binary

/-! Numbers that equal values share, in the range of a signed word of 64 bits. Numbers are reduced
modulo a prime, so that an integer and a float that are equal have the same one. -/

set_option autoImplicit false

namespace Notebook.Machine

open Notebook.Decimal

def digestPrime : Nat := Nat.pow 2 61 - 1

def validDigest (n : Int) : Int := if n == -1 then -2 else n

def signedDigest (negative : Bool) (n : Nat) : Int :=
  validDigest (if negative then -(n : Int) else n)

def digestInt (n : Int) : Int := signedDigest (n < 0) (n.natAbs % digestPrime)

/-- The digest of a float; a power of two is one modulo the prime after 61 steps. Nothing for what
is not a number. -/
def digestFloat? (x : Float) : Option Int :=
  match Binary.ofFloat x with
  | .finite negative mant exp =>
    some (signedDigest negative (mant % digestPrime * Nat.pow 2 (exp.emod 61).toNat % digestPrime))
  | .infinite negative => some (if negative then -314159 else 314159)
  | .nan => none

def ofWord (w : UInt64) : Int := w.toInt64.toInt

def toWord (n : Int) : UInt64 := UInt64.ofNat (n.emod (Int.pow 2 64)).toNat

def digestComplex (re im : Int) : Int :=
  validDigest (ofWord (toWord re + 1000003 * toWord im))

def mixDigest (acc : UInt64) (lane : Int) : UInt64 :=
  let acc := acc + toWord lane * 14029467366897019727
  ((acc <<< 31) ||| (acc >>> 33)) * 11400714785074694791

def digestSequence (ds : List Int) : Int :=
  let start : UInt64 := 2870177450012600261
  let acc := ds.foldl mixDigest start
  let acc := acc + (UInt64.ofNat ds.length ^^^ (start ^^^ (3527539 : UInt64)))
  if ofWord acc == -1 then 1546275796 else ofWord acc

def digestUnordered (ds : List Int) : Int :=
  let spread (d : Int) : UInt64 :=
    let w := toWord d
    ((w ^^^ (89869747 : UInt64)) ^^^ (w <<< 16)) * 3644798167
  let acc := ds.foldl (fun (acc : UInt64) d => acc ^^^ spread d) 0
  let acc := acc ^^^ ((UInt64.ofNat ds.length + 1) * 1927868237)
  let acc := acc ^^^ ((acc >>> 11) ^^^ (acc >>> 25))
  let acc := acc * 69069 + 907133923
  if ofWord acc == -1 then 590923713 else ofWord acc

def digestText (s : String) : Int := validDigest (ofWord (hash s))

end Notebook.Machine
