/-!
# UTF-8

`encode` writes characters as bytes.  `decode` reads any bytes: each maximal
piece that cannot be continued to a character becomes one replacement character
`U+FFFD`, and reading goes on with the byte that broke it.
-/

namespace PullRelay.Text.Utf8

def encodeChar (c : Char) : List UInt8 :=
  let n := c.toNat
  if n < 0x80 then [n.toUInt8]
  else if n < 0x800 then [(0xC0 + n / 64).toUInt8, (0x80 + n % 64).toUInt8]
  else if n < 0x10000 then
    [(0xE0 + n / 4096).toUInt8, (0x80 + n / 64 % 64).toUInt8, (0x80 + n % 64).toUInt8]
  else
    [(0xF0 + n / 262144).toUInt8, (0x80 + n / 4096 % 64).toUInt8, (0x80 + n / 64 % 64).toUInt8,
      (0x80 + n % 64).toUInt8]

def encode (cs : List Char) : List UInt8 := cs.flatMap encodeChar

/-- Written for bytes that are no character. -/
def replacement : Char := '\uFFFD'

/-- A character begun: the bits read so far, the bytes still owed, and the range
the next byte has to lie in. -/
structure Begun where
  bits : Nat
  owed : Nat
  low : Nat
  high : Nat

/-- What a byte does between two characters. -/
inductive Start where
  | whole (c : Char)
  | begun (b : Begun)
  | stray

/-- Read the first byte of a character.  The narrowed ranges of the second byte
exclude overlong forms, surrogates and code points above `0x10FFFF`. -/
def start (b : Nat) : Start :=
  if b < 0x80 then .whole (Char.ofNat b)
  else if 0xC2 ≤ b ∧ b ≤ 0xDF then .begun ⟨b - 0xC0, 1, 0x80, 0xBF⟩
  else if b = 0xE0 then .begun ⟨0, 2, 0xA0, 0xBF⟩
  else if b = 0xED then .begun ⟨0xD, 2, 0x80, 0x9F⟩
  else if 0xE1 ≤ b ∧ b ≤ 0xEF then .begun ⟨b - 0xE0, 2, 0x80, 0xBF⟩
  else if b = 0xF0 then .begun ⟨0, 3, 0x90, 0xBF⟩
  else if 0xF1 ≤ b ∧ b ≤ 0xF3 then .begun ⟨b - 0xF0, 3, 0x80, 0xBF⟩
  else if b = 0xF4 then .begun ⟨4, 3, 0x80, 0x8F⟩
  else .stray

/-- Read a byte between two characters: what is written, and what is begun. -/
def open? (b : Nat) : List Char × Option Begun :=
  match start b with
  | .whole c => ([c], none)
  | .begun p => ([], some p)
  | .stray => ([replacement], none)

/-- Read one byte, with a character begun or not. -/
def step (p : Option Begun) (b : Nat) : List Char × Option Begun :=
  match p with
  | none => open? b
  | some p =>
    if p.low ≤ b ∧ b ≤ p.high then
      let bits := p.bits * 64 + (b - 0x80)
      if p.owed ≤ 1 then ([Char.ofNat bits], none)
      else ([], some ⟨bits, p.owed - 1, 0x80, 0xBF⟩)
    else
      let next := open? b
      (replacement :: next.1, next.2)

def decodeFrom (p : Option Begun) : List UInt8 → List Char
  | [] => if p.isSome then [replacement] else []
  | b :: rest =>
    let next := step p b.toNat
    next.1 ++ decodeFrom next.2 rest

def decode (bs : List UInt8) : List Char := decodeFrom none bs

end PullRelay.Text.Utf8
