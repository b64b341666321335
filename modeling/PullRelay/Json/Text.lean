import PullRelay.Text.Digit
import PullRelay.Text.Quoted

/-!
# Texts in JSON

A text stands between double quotes.  It is written in printable ASCII: all other
characters become escapes, those past the first plane as a pair of surrogates.
Reading takes every escape of the format, and no control character that is not
escaped.
-/

namespace PullRelay.Json

open PullRelay.Text

/-- The characters with an escape of their own, and the letter it has. -/
def shortEscapes : List (Char × Char) :=
  [('"', '"'), ('\\', '\\'), ('\n', 'n'), ('\r', 'r'), ('\t', 't'), ('\x0c', 'f'), ('\x08', 'b')]

def unitEscape (n : Nat) : List Char := '\\' :: 'u' :: hexPadded 4 n

def charEscape (c : Char) : List Char :=
  let n := c.toNat
  if n < 0x10000 then unitEscape n
  else unitEscape (0xD800 + (n - 0x10000) / 0x400) ++ unitEscape (0xDC00 + (n - 0x10000) % 0x400)

def writeChar (c : Char) : List Char :=
  match shortEscapes.lookup c with
  | some letter => ['\\', letter]
  | none => if 0x20 ≤ c.toNat ∧ c.toNat < 0x7F then [c] else charEscape c

def writeText (s : String) : List Char := '"' :: s.toList.flatMap writeChar ++ ['"']

/-- What a text consists of as it is read: characters, and units that were escaped. -/
inductive Piece where
  | char (c : Char)
  | unit (n : Nat)
deriving DecidableEq, Repr

/-- The character that follows a backslash, other than for a unit. -/
def shortEscape? (letter : Char) : Option Char :=
  if letter = '/' then some '/' else (shortEscapes.find? (·.2 == letter)).map (·.1)

/-- The number that four hexadecimal digits write. -/
def unit? (a b c d : Char) : Option Nat := do
  let a ← hexValue? a
  let b ← hexValue? b
  let c ← hexValue? c
  let d ← hexValue? d
  return ((a * 16 + b) * 16 + c) * 16 + d

/-- The pieces up to the closing quote, and what follows it. -/
def readPieces? : List Char → Option (List Piece × List Char)
  | [] => none
  | c :: rest =>
    if c = '"' then some ([], rest)
    else if c = '\\' then
      match rest with
      | 'u' :: x :: y :: z :: w :: more =>
        match unit? x y z w with
        | some n => (readPieces? more).map fun r ↦ (.unit n :: r.1, r.2)
        | none => none
      | letter :: more =>
        match shortEscape? letter with
        | some plain => (readPieces? more).map fun r ↦ (.char plain :: r.1, r.2)
        | none => none
      | [] => none
    else if c.toNat < 0x20 then none
    else (readPieces? rest).map fun r ↦ (.char c :: r.1, r.2)

/-- The first half of a pair of surrogates. -/
def isHigh (n : Nat) : Bool := 0xD800 ≤ n && n < 0xDC00

/-- The second half of a pair of surrogates. -/
def isLow (n : Nat) : Bool := 0xDC00 ≤ n && n < 0xE000

/-- The character of a unit on its own.  Half a pair is no character, so it is replaced:
this is a limit of texts made of characters, for a decoder keeps such a half as it is. -/
def unitChar (n : Nat) : Char := if isHigh n || isLow n then '\uFFFD' else Char.ofNat n

/-- The characters of pieces; two units that make a pair are one character. -/
def combine : List Piece → List Char
  | [] => []
  | .char c :: rest => c :: combine rest
  | [.unit n] => [unitChar n]
  | .unit n :: .char c :: rest => unitChar n :: c :: combine rest
  | .unit n :: .unit m :: rest =>
    if isHigh n && isLow m then
      Char.ofNat (0x10000 + (n - 0xD800) * 0x400 + (m - 0xDC00)) :: combine rest
    else unitChar n :: combine (.unit m :: rest)

/-- The text up to the closing quote, and what follows it. -/
def readText? (cs : List Char) : Option (String × List Char) :=
  (readPieces? cs).map fun r ↦ (String.ofList (combine r.1), r.2)

end PullRelay.Json
