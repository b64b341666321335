import PullRelay.Number.Numeral

/-!
# Lenient whole numbers

Records and the command line take a whole number in more spellings than its plain
one: with a plus, with zeros in front of its first digit, with single underscores,
with a fraction of zeros.  A text is read as a plain number first.  Only if it is
none is it brought to the plain form, and then read once more.
-/

namespace PullRelay.Lenient

open Text

inductive Fault where
  | malformed
  /-- A plain number of too many digits. -/
  | tooLong
deriving DecidableEq, Repr

/-- A whole number without superfluous zeros, digits in ASCII.  Digits are counted up to
the first other character, whether that one is allowed or not. -/
def readPlain (cs : List Char) : Except Fault Int :=
  let signed := Numeral.takeMinus cs
  let run := signed.2.takeWhile fun c ↦ (asciiDigit? c).isSome
  match run with
  | [] => .error .malformed
  | d :: more =>
    if d = '0' then
      if signed.2 = ['0'] then .ok 0 else .error .malformed
    else if Numeral.digitLimit < run.length then .error .tooLong
    else if run.length = signed.2.length then
      let n := Numeral.ofDigits ((d :: more).filterMap asciiDigit?)
      .ok (if signed.1 then -(n : Int) else n)
    else .error .malformed

/-- A number without zeros in front starts here: a digit other than zero, or a minus. -/
def startsNumber (c : Char) : Bool := c == '-' || (c != '0' && (asciiDigit? c).isSome)

/-- Drop zeros in front of the number, with the underscores among them; one zero
stays in front of a point or at the end. -/
def dropZeros? : (previous : Char) → List Char → Option (List Char)
  | previous, [] => some [previous]
  | previous, c :: rest =>
    if c = '0' ∨ c = '_' then dropZeros? c rest
    else if c = '.' then some (previous :: c :: rest)
    else if startsNumber c then some (c :: rest)
    else none

/-- Zeros in front dropped, for what starts with a digit or a minus. -/
def withoutZeros? : List Char → Option (List Char)
  | [] => none
  | c :: rest =>
    if c = '0' then dropZeros? c rest else if startsNumber c then some (c :: rest) else none

/-- A fraction of zeros dropped, of which there is at least one. -/
def withoutFraction (cs : List Char) : List Char :=
  match splitFirst '.' cs with
  | (whole, some (d :: ds)) => if (d :: ds).all (· == '0') then whole else cs
  | _ => cs

/-- Single underscores between characters dropped. -/
def withoutUnderscores (cs : List Char) : List Char :=
  if (splitAll '_' cs).all (!·.isEmpty) then cs.filter (· != '_') else cs

/-- A plus in front dropped; it does not go with a minus. -/
def withoutPlus? : List Char → Option (List Char)
  | '+' :: '-' :: _ => none
  | '+' :: rest => some rest
  | cs => some cs

/-- A number brought to the plain form: no plus, no zeros behind the minus, no
fraction of zeros, no underscores. -/
def plain? (cs : List Char) : Option (List Char) := do
  let signed := Numeral.takeMinus (← withoutPlus? cs)
  let digits ← withoutZeros? signed.2
  return withoutUnderscores (withoutFraction (if signed.1 then '-' :: digits else digits))

/-- A whole number spelled as text, with white space around it.  That one is too long
is found only in a text that begins with the number itself. -/
def readWhole (s : String) : Except Fault Int :=
  match readPlain s.toList with
  | .error .malformed =>
    match (plain? (trimList isWhiteSpace s.toList)).map readPlain with
    | some (.ok n) => .ok n
    | _ => .error .malformed
  | read => read

end PullRelay.Lenient
