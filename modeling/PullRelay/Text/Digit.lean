import PullRelay.Text.Blank

/-!
# Decimal digits of all scripts

Numbers may be written with the decimal digits of any script (general category
`Nd`): each script has ten consecutive code points for zero to nine.
`asciiNumeralChar?` brings such a text to ASCII before a numeral grammar reads it.
-/

namespace PullRelay.Text

/-- The code points of the digit zero, one for each run of ten digits. -/
def digitZeros : List Nat := [
    0x30, 0x660, 0x6F0, 0x7C0, 0x966, 0x9E6, 0xA66, 0xAE6, 0xB66, 0xBE6, 0xC66, 0xCE6, 0xD66,
    0xDE6, 0xE50, 0xED0, 0xF20, 0x1040, 0x1090, 0x17E0, 0x1810, 0x1946, 0x19D0, 0x1A80, 0x1A90,
    0x1B50, 0x1BB0, 0x1C40, 0x1C50, 0xA620, 0xA8D0, 0xA900, 0xA9D0, 0xA9F0, 0xAA50, 0xABF0,
    0xFF10, 0x104A0, 0x10D30, 0x11066, 0x110F0, 0x11136, 0x111D0, 0x112F0, 0x11450, 0x114D0,
    0x11650, 0x116C0, 0x11730, 0x118E0, 0x11950, 0x11C50, 0x11D50, 0x11DA0, 0x16A60, 0x16AC0,
    0x16B50, 0x1D7CE, 0x1D7D8, 0x1D7E2, 0x1D7EC, 0x1D7F6, 0x1E140, 0x1E2F0, 0x1E950, 0x1FBF0]

def digitValue? (c : Char) : Option Nat :=
  (digitZeros.find? fun z ↦ z ≤ c.toNat && c.toNat < z + 10).map (c.toNat - ·)

def digitChar (n : Nat) : Char := Char.ofNat (0x30 + n)

def asciiDigit? (c : Char) : Option Nat :=
  if 0x30 ≤ c.toNat ∧ c.toNat ≤ 0x39 then some (c.toNat - 0x30) else none

/-- The value of a hexadecimal digit in ASCII, in either case. -/
def hexValue? (c : Char) : Option Nat :=
  if 0x30 ≤ c.toNat ∧ c.toNat ≤ 0x39 then some (c.toNat - 0x30)
  else if 0x41 ≤ c.toNat ∧ c.toNat ≤ 0x46 then some (c.toNat - 0x37)
  else if 0x61 ≤ c.toNat ∧ c.toNat ≤ 0x66 then some (c.toNat - 0x57)
  else none

def isAsciiLetter (c : Char) : Bool :=
  (0x41 ≤ c.toNat && c.toNat ≤ 0x5A) || (0x61 ≤ c.toNat && c.toNat ≤ 0x7A)

def isAsciiAlphanumeric (c : Char) : Bool := isAsciiLetter c || (asciiDigit? c).isSome

/-- The character as a numeral sees it: ASCII (the delete character apart) as it
is, other white space as a plain space, other decimal digits as ASCII digits;
nothing else may occur in a numeral. -/
def asciiNumeralChar? (c : Char) : Option Char :=
  if c.toNat < 0x7F then some c
  else if isWhiteSpace c then some ' '
  else (digitValue? c).map digitChar

/-- The blanks a numeral may be surrounded by, once it is in ASCII. -/
def isNumeralBlank (c : Char) : Bool := c == ' ' || (0x09 ≤ c.toNat && c.toNat ≤ 0x0D)

end PullRelay.Text
