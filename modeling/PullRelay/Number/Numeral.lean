import PullRelay.Number.Binary64
import PullRelay.Text.Digit
import PullRelay.Text.Pieces

/-!
# Numerals

The grammars of whole numbers and of real numbers in settings, payloads and
page parameters.  Both allow surrounding blanks, a sign, decimal digits of any
script and single underscores between digits.  A whole number may have at most
`digitLimit` digits.
-/

namespace PullRelay.Numeral

open Text

/-- The longest whole number that is read or written. -/
def digitLimit : Nat := 4300

/-- The whole number has no more digits than that. -/
def IsReadable (n : Int) : Prop := n.natAbs < Nat.pow 10 digitLimit

-- The power is not to be unfolded by chance.
@[irreducible]
instance (n : Int) : Decidable (IsReadable n) :=
  inferInstanceAs (Decidable (n.natAbs < Nat.pow 10 digitLimit))

/-- Why a text is no whole number. -/
inductive Fault where
  | malformed
  | tooLong (digits : Nat)
deriving DecidableEq, Repr

/-- The text in ASCII; what no numeral may hold becomes a question mark. -/
def ascii (s : String) : List Char := s.toList.map fun c ↦ (asciiNumeralChar? c).getD '?'

/-- A leading sign (`true` for minus) and the rest. -/
def takeSign : List Char → Bool × List Char
  | '-' :: rest => (true, rest)
  | '+' :: rest => (false, rest)
  | cs => (false, cs)

def takeMinus : List Char → Bool × List Char
  | '-' :: rest => (true, rest)
  | cs => (false, cs)

def ofDigits (ds : List Nat) : Nat := ds.foldl (fun n d ↦ 10 * n + d) 0

/-- The digits of a run in which single underscores stand between digits. -/
def runDigits? (run : List Char) : Option (List Nat) :=
  let pieces := splitAll '_' run
  if pieces.all (!·.isEmpty) then pieces.flatten.mapM asciiDigit? else none

/-- May stand in a run of digits. -/
def isRunChar (c : Char) : Bool := (asciiDigit? c).isSome || c == '_'

/-- A whole number.  A run of digits that is too long is reported before anything
that follows it. -/
def readInt (s : String) : Except Fault Int :=
  let signed := takeSign ((ascii s).dropWhile isNumeralBlank)
  let run := signed.2.takeWhile isRunChar
  let rest := signed.2.dropWhile isRunChar
  match runDigits? run with
  | none => .error .malformed
  | some ds =>
    if digitLimit < ds.length then .error (.tooLong ds.length)
    else if rest.all isNumeralBlank then
      .ok (if signed.1 then -(ofDigits ds : Int) else ofDigits ds)
    else .error .malformed

/-- Underscores stand between digits only; `previous` is the character before. -/
def underscoresFit (previous : Option Char) : List Char → Bool
  | [] => previous != some '_'
  | c :: rest =>
    (if c = '_' then (previous.bind asciiDigit?).isSome
      else previous != some '_' || (asciiDigit? c).isSome)
      && underscoresFit (some c) rest

/-- The exponent part, which may be missing. -/
def readExponent? : List Char → Option Int
  | [] => some 0
  | c :: rest =>
    if c = 'e' ∨ c = 'E' then
      let signed := takeSign rest
      if signed.2.isEmpty then none
      else (signed.2.mapM asciiDigit?).map fun ds ↦
        if signed.1 then -(ofDigits ds : Int) else ofDigits ds
    else none

/-- Digits with an optional point among or around them, then the exponent. -/
def readDecimal? (negative : Bool) (cs : List Char) : Option Binary64 := do
  let isDigit := fun c ↦ (asciiDigit? c).isSome
  let whole := cs.takeWhile isDigit
  let rest := cs.dropWhile isDigit
  let fraction := match rest with
    | '.' :: more => more.takeWhile isDigit
    | _ => []
  let rest := match rest with
    | '.' :: more => more.dropWhile isDigit
    | _ => rest
  let digits ← (whole ++ fraction).mapM asciiDigit?
  if digits.isEmpty then none
  else
    let exponent ← readExponent? rest
    some (Binary64.ofDecimal negative (ofDigits digits) (exponent - fraction.length))

def asciiLower (c : Char) : Char :=
  if 'A' ≤ c ∧ c ≤ 'Z' then Char.ofNat (c.toNat + 0x20) else c

/-- The names of the numbers that have no digits. -/
def readNamed? (negative : Bool) (cs : List Char) : Option Binary64 :=
  let name := String.ofList (cs.map asciiLower)
  if name = "inf" ∨ name = "infinity" then some (.infinite negative)
  else if name = "nan" then some .nan
  else none

/-- A real number: a decimal, `inf`, `infinity` or `nan`, in letters of either case. -/
def readReal? (s : String) : Option Binary64 :=
  let cs := trimList isNumeralBlank (ascii s)
  if underscoresFit none cs then
    let signed := takeSign (cs.filter (· != '_'))
    (readNamed? signed.1 signed.2).orElse fun _ ↦ readDecimal? signed.1 signed.2
  else none

end PullRelay.Numeral
