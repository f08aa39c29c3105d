-- UTF-8, with bytes that are no part of a character passed over. The decoder takes one byte at a time,
-- so that where a text is cut makes no difference.

namespace SqlDump.Utf8

/-- The bytes of a character. -/
def encodeChar (c : Char) : List UInt8 :=
  let n := c.toNat
  if n < 0x80 then [UInt8.ofNat n]
  else if n < 0x800 then [UInt8.ofNat (0xC0 + n / 64), UInt8.ofNat (0x80 + n % 64)]
  else if n < 0x10000 then
    [UInt8.ofNat (0xE0 + n / 4096), UInt8.ofNat (0x80 + n / 64 % 64), UInt8.ofNat (0x80 + n % 64)]
  else
    [UInt8.ofNat (0xF0 + n / 262144), UInt8.ofNat (0x80 + n / 4096 % 64),
      UInt8.ofNat (0x80 + n / 64 % 64), UInt8.ofNat (0x80 + n % 64)]

def encode (text : List Char) : List UInt8 := text.flatMap encodeChar

/-- A character that has begun: how many bytes it still needs, between which bounds the next one
must lie, and the bits read so far. -/
structure Begun where
  owed : Nat
  low : Nat
  high : Nat
  bits : Nat
deriving DecidableEq, Repr

/-- What a byte means outside of a character: it is a character, begins one, or is passed over. The
bounds keep out long forms, surrogates and numbers that are too large. -/
def lead (b : Nat) : Option Char × Option Begun :=
  if b < 0x80 then (some (Char.ofNat b), none)
  else if b < 0xC2 then (none, none)
  else if b < 0xE0 then (none, some ⟨1, 0x80, 0xBF, b - 0xC0⟩)
  else if b < 0xF0 then
    (none, some ⟨2, if b = 0xE0 then 0xA0 else 0x80, if b = 0xED then 0x9F else 0xBF, b - 0xE0⟩)
  else if b < 0xF5 then
    (none, some ⟨3, if b = 0xF0 then 0x90 else 0x80, if b = 0xF4 then 0x8F else 0xBF, b - 0xF0⟩)
  else (none, none)

/-- One byte on. A byte that does not go on with the character begun ends it unread, and counts as
the first byte of something new. -/
def step (begun : Option Begun) (b : Nat) : Option Char × Option Begun :=
  match begun with
  | none => lead b
  | some g =>
    if g.low ≤ b ∧ b ≤ g.high then
      let bits := 64 * g.bits + (b - 0x80)
      if g.owed ≤ 1 then (some (Char.ofNat bits), none)
      else (none, some ⟨g.owed - 1, 0x80, 0xBF, bits⟩)
    else lead b

/-- What has been read: the character begun, and the text, last character first. -/
structure Decoder where
  begun : Option Begun := none
  text : List Char := []

def Decoder.feed (d : Decoder) (b : UInt8) : Decoder :=
  match step d.begun b.toNat with
  | (some c, begun) => ⟨begun, c :: d.text⟩
  | (none, begun) => ⟨begun, d.text⟩

/-- The characters of a byte sequence; bytes that are no part of one leave no trace. -/
def decode (bytes : List UInt8) : List Char := (bytes.foldl Decoder.feed {}).text.reverse

/-- The text of a byte sequence that is UTF-8 throughout. -/
def decode? (bytes : List UInt8) : Option (List Char) :=
  let text := decode bytes
  if encode text = bytes then some text else none

end SqlDump.Utf8
