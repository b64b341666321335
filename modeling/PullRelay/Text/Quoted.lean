import PullRelay.Text.Printable

/-!
# Quoted text

How a text is shown inside messages and inside lists: in single quotes, or in
double quotes when it holds single quotes only; the quote in use, the backslash
and everything unprintable are escaped.
-/

namespace PullRelay.Text

/-- Lower case hexadecimal digits, padded with zeros to `width`. -/
def hexPadded (width n : Nat) : List Char :=
  let digits := Nat.toDigits 16 n
  List.replicate (width - digits.length) '0' ++ digits

/-- An escape for a code point: `\x` with two digits, `\u` with four or `\U` with eight. -/
def codePointEscape (n : Nat) : List Char :=
  if n ≤ 0xFF then '\\' :: 'x' :: hexPadded 2 n
  else if n ≤ 0xFFFF then '\\' :: 'u' :: hexPadded 4 n
  else '\\' :: 'U' :: hexPadded 8 n

def quoteChar (mark c : Char) : List Char :=
  if c = mark ∨ c = '\\' then ['\\', c]
  else if c = '\t' then ['\\', 't']
  else if c = '\n' then ['\\', 'n']
  else if c = '\r' then ['\\', 'r']
  else if isPrintable c then [c]
  else codePointEscape c.toNat

/-- Single quotes, unless the text holds single quotes and no double quotes. -/
def quoteMark (cs : List Char) : Char :=
  if cs.contains '\x27' && !cs.contains '"' then '"' else '\x27'

def quoted (s : String) : String :=
  let mark := quoteMark s.toList
  String.ofList (mark :: s.toList.flatMap (quoteChar mark) ++ [mark])

end PullRelay.Text
