import Notebook.Text.Property

set_option autoImplicit false

namespace Notebook.Text

def isAsciiLetter (c : Char) : Bool := ('a' ≤ c && c ≤ 'z') || ('A' ≤ c && c ≤ 'Z')

def isAsciiDigit (c : Char) : Bool := '0' ≤ c && c ≤ '9'

def isBlank (c : Char) : Bool :=
  let n := c.toNat
  (9 ≤ n && n ≤ 13) || (28 ≤ n && n ≤ 32) || n == 0x85 || n == 0xa0 || n == 0x1680 ||
    (0x2000 ≤ n && n ≤ 0x200a) || n == 0x2028 || n == 0x2029 || n == 0x202f || n == 0x205f ||
    n == 0x3000

def isLineEnd (c : Char) : Bool :=
  let n := c.toNat
  (10 ≤ n && n ≤ 13) || (28 ≤ n && n ≤ 30) || n == 0x85 || n == 0x2028 || n == 0x2029

def isLetter (c : Char) : Bool :=
  if c.toNat < 128 then isAsciiLetter c else Property.letterRuns.contains c.toNat

def isNumeral (c : Char) : Bool :=
  if c.toNat < 128 then isAsciiDigit c else Property.numeralRuns.contains c.toNat

def isDigit (c : Char) : Bool :=
  if c.toNat < 128 then isAsciiDigit c else Property.digitRuns.contains c.toNat

def decimalValue? (c : Char) : Option Nat :=
  if c.toNat < 128 then
    if isAsciiDigit c then some (c.toNat - '0'.toNat) else none
  else if Property.decimalRuns.contains c.toNat then
    some ((c.toNat - Property.decimalRuns.start c.toNat) % 10)
  else none

def isAlnum (c : Char) : Bool := isLetter c || isNumeral c

def isWord (c : Char) : Bool := isAlnum c || c == '_'

def isVisible (c : Char) : Bool :=
  if c.toNat < 128 then 32 ≤ c.toNat && c.toNat < 127 else !Property.hiddenRuns.contains c.toNat

def isNameStart (c : Char) : Bool :=
  if c.toNat < 128 then isAsciiLetter c || c == '_' else Property.nameStartRuns.contains c.toNat

def isNameChar (c : Char) : Bool :=
  if c.toNat < 128 then isAsciiLetter c || isAsciiDigit c || c == '_'
  else Property.nameRuns.contains c.toNat

def isName : List Char → Bool
  | [] => false
  | c :: cs => isNameStart c && cs.all isNameChar

end Notebook.Text
