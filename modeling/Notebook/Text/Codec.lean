import Notebook.Text.Quoted

set_option autoImplicit false

namespace Notebook.Text

inductive Encoding where
  | utf8
  | ascii
  | latin1
  /-- Words of some bytes; without a byte order they start with a mark of it. -/
  | words (size : Nat) (bigEnd : Option Bool)
deriving DecidableEq, Repr

inductive Policy where
  | strict
  | ignore
  | replace
  | backslash
  | reference
  | escapeBytes
  | passHalves
deriving DecidableEq, Repr

namespace Encoding

/-- Spellings differ in case, and in hyphens, spaces and underscores. -/
def key (name : String) : String :=
  String.ofList (name.toList.map fun c =>
    if c == '-' || c == ' ' then '_' else if 'A' ≤ c && c ≤ 'Z' then Char.ofNat (c.toNat + 32) else c)

def named? (name : String) : Option Encoding :=
  match key name with
  | "utf_8" | "utf8" | "u8" | "utf" | "utf8_ucs2" | "utf8_ucs4" | "cp65001" => some .utf8
  | "ascii" | "us_ascii" | "646" | "ansi_x3.4_1968" | "iso646_us" | "us" => some .ascii
  | "latin_1" | "latin1" | "latin" | "l1" | "iso_8859_1" | "iso8859_1" | "iso8859" | "8859"
  | "cp819" => some .latin1
  | "utf_16" | "utf16" | "u16" => some (.words 2 none)
  | "utf_16_le" | "utf_16le" | "unicodelittleunmarked" => some (.words 2 (some false))
  | "utf_16_be" | "utf_16be" | "unicodebigunmarked" => some (.words 2 (some true))
  | "utf_32" | "utf32" | "u32" => some (.words 4 none)
  | "utf_32_le" | "utf_32le" => some (.words 4 (some false))
  | "utf_32_be" | "utf_32be" => some (.words 4 (some true))
  | _ => none

def name : Encoding → String
  | utf8 => "utf-8"
  | ascii => "ascii"
  | latin1 => "latin-1"
  | words size bigEnd =>
    (if size == 2 then "utf-16" else "utf-32") ++ match bigEnd with
      | none => ""
      | some true => "-be"
      | some false => "-le"

end Encoding

namespace Policy

def named? : String → Option Policy
  | "strict" => some .strict
  | "ignore" => some .ignore
  | "replace" => some .replace
  | "backslashreplace" => some .backslash
  | "xmlcharrefreplace" => some .reference
  | "surrogateescape" => some .escapeBytes
  | "surrogatepass" => some .passHalves
  | _ => none

end Policy

/-- Why bytes are not text: the bytes from `start` to `stop` do not belong to a character. -/
structure DecodeFault where
  start : Nat
  stop : Nat
  byte : UInt8
  reason : String
  codec : String := "utf-8"
deriving DecidableEq, Repr

def DecodeFault.message (f : DecodeFault) : String :=
  if f.stop - f.start ≤ 1 then
    let hex := String.ofList (hexDigits 2 f.byte.toNat)
    s!"'{f.codec}' codec can't decode byte 0x{hex} in position {f.start}: {f.reason}"
  else
    let last := f.stop - 1
    s!"'{f.codec}' codec can't decode bytes in position {f.start}-{last}: {f.reason}"

/-- Why a text has no bytes: the characters from `start` to `stop` have none. -/
structure EncodeFault where
  start : Nat
  stop : Nat
  char : Char
  reason : String
  codec : String
deriving DecidableEq, Repr

def pointEscape (c : Char) : String :=
  let n := point c
  String.ofList (if n < 0x100 then '\\' :: 'x' :: hexDigits 2 n
    else if n < 0x10000 then '\\' :: 'u' :: hexDigits 4 n
    else '\\' :: 'U' :: hexDigits 8 n)

def EncodeFault.message (f : EncodeFault) : String :=
  if f.stop - f.start ≤ 1 then
    let shown := pointEscape f.char
    s!"'{f.codec}' codec can't encode character '{shown}' in position {f.start}: {f.reason}"
  else
    let last := f.stop - 1
    s!"'{f.codec}' codec can't encode characters in position {f.start}-{last}: {f.reason}"

/-! Characters of UTF-8. -/

namespace Utf8

def isContinuation (b : UInt8) : Bool := 0x80 ≤ b && b ≤ 0xbf

def isSecond (lead b : UInt8) : Bool :=
  if lead == 0xe0 then 0xa0 ≤ b && b ≤ 0xbf
  else if lead == 0xed then 0x80 ≤ b && b ≤ 0x9f
  else if lead == 0xf0 then 0x90 ≤ b && b ≤ 0xbf
  else if lead == 0xf4 then 0x80 ≤ b && b ≤ 0x8f
  else isContinuation b

def width (lead : UInt8) : Nat :=
  if lead < 0x80 then 1
  else if lead < 0xc2 then 0
  else if lead < 0xe0 then 2
  else if lead < 0xf0 then 3
  else if lead < 0xf5 then 4
  else 0

/-- How many of the bytes after the first fit a character of `n` bytes. -/
def fitting (lead : UInt8) (n : Nat) : List UInt8 → Nat
  | [] => 0
  | b :: bs =>
    if n ≤ 1 then 0
    else if isSecond lead b then 1 + ((bs.take (n - 2)).takeWhile isContinuation).length
    else 0

def assemble (lead : UInt8) (rest : List UInt8) : Nat :=
  let mask : Nat := match rest.length with
    | 0 => 0x7f
    | 1 => 0x1f
    | 2 => 0x0f
    | _ => 0x07
  rest.foldl (fun n b => n * 64 + b.toNat % 64) (lead.toNat &&& mask)

def threeBytes (n : Nat) : List UInt8 :=
  [UInt8.ofNat (0xe0 + n / 4096), UInt8.ofNat (0x80 + n / 64 % 64), UInt8.ofNat (0x80 + n % 64)]

end Utf8

/-! Bytes of words. -/

def wordBytes (size : Nat) (bigEnd : Bool) (n : Nat) : List UInt8 :=
  let bs := (List.range size).map fun i => UInt8.ofNat (n / Nat.pow 256 i % 256)
  if bigEnd then bs.reverse else bs

def wordValue (bigEnd : Bool) (bs : List UInt8) : Nat :=
  (if bigEnd then bs else bs.reverse).foldl (fun n b => n * 256 + b.toNat) 0

def pointWords (size n : Nat) : List Nat :=
  if size == 2 && n ≥ 0x10000 then
    [0xd800 + (n - 0x10000) / 1024, 0xdc00 + (n - 0x10000) % 1024]
  else [n]

def charBytes? (e : Encoding) (c : Char) : Option (List UInt8) :=
  let n := point c
  match e with
  | .ascii => if n < 0x80 then some [UInt8.ofNat n] else none
  | .latin1 => if n < 0x100 then some [UInt8.ofNat n] else none
  | .utf8 => if isHalf n then none else some (String.singleton c).toUTF8.toList
  | .words size bigEnd =>
    if isHalf n then none
    else some ((pointWords size n).flatMap (wordBytes size (bigEnd.getD false)))

def encodeReason : Encoding → String
  | .ascii => "ordinal not in range(128)"
  | .latin1 => "ordinal not in range(256)"
  | _ => "surrogates not allowed"

/-- What stands for a character without bytes: other characters, or bytes. -/
def substitute (e : Encoding) (p : Policy) (c : Char) : Option (List UInt8) :=
  let n := point c
  let chars (cs : List Char) : List UInt8 := cs.flatMap fun c => (charBytes? e c).getD []
  match p with
  | .strict => none
  | .ignore => some []
  | .replace => some (chars ['?'])
  | .backslash => some (chars (pointEscape c).toList)
  | .reference => some (chars (s!"&#{n};").toList)
  | .escapeBytes => if 0xdc80 ≤ n && n < 0xdd00 then some [UInt8.ofNat (n - 0xdc00)] else none
  | .passHalves =>
    if !isHalf n then none
    else match e with
      | .utf8 => some (Utf8.threeBytes n)
      | .words size bigEnd => some (wordBytes size (bigEnd.getD false) n)
      | _ => none

/-- The bytes of characters from a position on, after those of `acc` in reverse. A fault covers all
characters in a row that do not fit. -/
def encodeFrom (e : Encoding) (p : Policy) : Nat → List Char → List UInt8 →
    Except EncodeFault (List UInt8)
  | _, [], acc => .ok acc.reverse
  | i, c :: cs, acc =>
    match (charBytes? e c).orElse fun _ => substitute e p c with
    | some bs => encodeFrom e p (i + 1) cs (bs.reverse ++ acc)
    | none =>
      let more := (cs.takeWhile fun d => (charBytes? e d).isNone).length
      .error ⟨i, i + 1 + more, c, encodeReason e, e.name⟩

def encode (e : Encoding) (p : Policy) (s : String) : Except EncodeFault (List UInt8) := do
  let mark : List UInt8 := match e with
    | .words size none => wordBytes size false 0xfeff
    | _ => []
  return mark ++ (← encodeFrom e p 0 s.toList [])

/-- The first character of some bytes and how many bytes it takes, or why there is none and how many
bytes are wrong. -/
def firstChar (e : Encoding) (b : UInt8) (bs : List UInt8) : Except String Nat × Nat :=
  match e with
  | .ascii =>
    if b < 0x80 then (.ok b.toNat, 1) else (.error "ordinal not in range(128)", 1)
  | .latin1 => (.ok b.toNat, 1)
  | .utf8 =>
    match Utf8.width b with
    | 0 => (.error "invalid start byte", 1)
    | n =>
      let k := Utf8.fitting b n bs
      if k + 1 == n then (.ok (Utf8.assemble b (bs.take k)), n)
      else if k == bs.length then (.error "unexpected end of data", k + 1)
      else (.error "invalid continuation byte", k + 1)
  | .words size bigEnd =>
    let bigEnd := bigEnd.getD false
    let word (bs : List UInt8) : Option Nat :=
      if bs.length < size then none else some (wordValue bigEnd (bs.take size))
    match word (b :: bs) with
    | none => (.error "truncated data", bs.length + 1)
    | some n =>
      if size == 4 then
        if isHalf n then (.error "code point in surrogate code point range(0xd800, 0xe000)", 4)
        else if n ≥ 0x110000 then (.error "code point not in range(0x110000)", 4)
        else (.ok n, 4)
      else if 0xd800 ≤ n && n < 0xdc00 then
        match word (bs.drop 1) with
        | none => (.error "unexpected end of data", bs.length + 1)
        | some m =>
          if 0xdc00 ≤ m && m < 0xe000 then (.ok (0x10000 + (n - 0xd800) * 1024 + (m - 0xdc00)), 4)
          else (.error "illegal UTF-16 surrogate", 2)
      else if 0xdc00 ≤ n && n < 0xe000 then (.error "illegal encoding", 2)
      else (.ok n, 2)

def insteadOf (e : Encoding) (p : Policy) (bs : List UInt8) : Option (List Char × Nat) :=
  match p with
  | .ignore => some ([], bs.length)
  | .replace => some ([Char.ofNat 0xfffd], bs.length)
  | .backslash => some (bs.flatMap fun b => '\\' :: 'x' :: hexDigits 2 b.toNat, bs.length)
  | .escapeBytes =>
    let high := bs.takeWhile (· ≥ 0x80)
    if high.isEmpty then none
    else some (high.map fun b => ofPoint (0xdc00 + b.toNat), high.length)
  | .passHalves =>
    match e, bs with
    | .words .., bs =>
      let n := wordValue false bs
      if isHalf n then some ([ofPoint n], bs.length) else none
    | _, _ => none
  | .strict | .reference => none

def decodeFrom (e : Encoding) (p : Policy) : (fuel pos : Nat) → List UInt8 → List Char →
    Except DecodeFault (List Char)
  | 0, _, _, acc | _, _, [], acc => .ok acc.reverse
  | fuel + 1, pos, b :: bs, acc =>
    match firstChar e b bs with
    | (.ok c, n) => decodeFrom e p fuel (pos + n) (bs.drop (n - 1)) (ofPoint c :: acc)
    | (.error reason, n) =>
      match insteadOf e p ((b :: bs).take n) with
      | some (cs, n) => decodeFrom e p fuel (pos + n) (bs.drop (n - 1)) (cs.reverse ++ acc)
      | none => .error ⟨pos, pos + n, b, reason, e.name⟩

/-- The text of some bytes. A mark of the byte order at the start belongs to no character. -/
def decode (e : Encoding) (p : Policy) (bs : List UInt8) : Except DecodeFault (List Char) :=
  match e with
  | .words size none =>
    let mark := bs.take size
    if mark == wordBytes size false 0xfeff then
      decodeFrom (.words size (some false)) p bs.length size (bs.drop size) []
    else if mark == wordBytes size true 0xfeff then
      decodeFrom (.words size (some true)) p bs.length size (bs.drop size) []
    else decodeFrom e p bs.length 0 bs []
  | e => decodeFrom e p bs.length 0 bs []

def decodeUtf8 (bs : List UInt8) : Except DecodeFault (List Char) := decode .utf8 .strict bs

end Notebook.Text
