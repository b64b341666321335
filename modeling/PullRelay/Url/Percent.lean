import PullRelay.Text.Digit
import PullRelay.Text.Utf8

/-!
# Percent encoding

A text that stands as one segment of a path is written with unreserved ASCII
characters only; every other byte of its UTF-8 form becomes `%` and two
hexadecimal digits.  Reading takes any text: a `%` without two digits after it
stands for itself, and bytes that are no character are replaced.
-/

namespace PullRelay.Url.Percent

open Text

/-- Written as itself: ASCII letters and digits, and `_`, `.`, `-`, `~`. -/
def isUnreserved (c : Char) : Bool :=
  isAsciiAlphanumeric c || c == '_' || c == '.' || c == '-' || c == '~'

/-- The upper case hexadecimal digit of a number below 16. -/
def hexDigit (n : Nat) : Char := Char.ofNat (if n < 10 then 0x30 + n else 0x37 + n)

theorem hexValue?_hexDigit : ∀ n < 16, hexValue? (hexDigit n) = some n := by decide

/-- A byte as itself, if it is an unreserved character, or as an escape. -/
def encodeByte (b : UInt8) : List Char :=
  if isUnreserved (Char.ofNat b.toNat) then [Char.ofNat b.toNat]
  else ['%', hexDigit (b.toNat / 16), hexDigit (b.toNat % 16)]

def encode (s : String) : String := String.ofList ((Utf8.encode s.toList).flatMap encodeByte)

def escaped? (a b : Char) : Option UInt8 :=
  match hexValue? a, hexValue? b with
  | some high, some low => some (16 * high + low).toUInt8
  | _, _ => none

theorem escaped?_hexDigits (b : UInt8) :
    escaped? (hexDigit (b.toNat / 16)) (hexDigit (b.toNat % 16)) = some b := by
  have hb : b.toNat < 256 := b.toNat_lt
  have high := hexValue?_hexDigit (b.toNat / 16) (by omega)
  have low := hexValue?_hexDigit (b.toNat % 16) (by omega)
  simp only [escaped?, high, low, Option.some.injEq]
  rw [show 16 * (b.toNat / 16) + b.toNat % 16 = b.toNat by omega]
  simp

def bytes : List Char → List UInt8
  | [] => []
  | [c] => Utf8.encodeChar c
  | [c, d] => Utf8.encodeChar c ++ Utf8.encodeChar d
  | c :: a :: b :: rest =>
    if c = '%' then
      match escaped? a b with
      | some byte => byte :: bytes rest
      | none => Utf8.encodeChar c ++ bytes (a :: b :: rest)
    else Utf8.encodeChar c ++ bytes (a :: b :: rest)

def decode (cs : List Char) : List Char := Utf8.decode (bytes cs)

end PullRelay.Url.Percent
