import PullRelay.Json.Text
import PullRelay.Value
import PullRelay.Number.Numeral

/-!
# Reading JSON

A document is one value with blanks around it.  Numbers with a fraction or an
exponent are binary, all others are whole numbers of at most
`Numeral.digitLimit` digits; `NaN` and the infinities have their names.  Of fields
with one name the last counts.  Containers stand inside one another up to a given
depth; a text that goes deeper is refused at that point, whatever follows.
-/

namespace PullRelay.Json

open PullRelay.Text

/-- Blanks between the parts of a document. -/
def isSpace (c : Char) : Bool := c == ' ' || c == '\t' || c == '\n' || c == '\r'

/-- What follows the blanks. -/
def skip (cs : List Char) : List Char := cs.dropWhile isSpace

def words : List (String × Value) :=
  [("null", .null), ("true", .bool true), ("false", .bool false), ("NaN", .real .nan),
    ("Infinity", .real (.infinite false)), ("-Infinity", .real (.infinite true))]

/-- What follows a word. -/
def afterWord? (word : String) (cs : List Char) : Option (List Char) :=
  if word.toList.isPrefixOf cs then some (cs.drop word.length) else none

def readWord? (cs : List Char) : Option (Value × List Char) :=
  words.findSome? fun w ↦ (afterWord? w.1 cs).map fun rest ↦ (w.2, rest)

def isDigit (c : Char) : Bool := (asciiDigit? c).isSome

/-- The run of digits in front, and what follows it. -/
def spanDigits (cs : List Char) : List Char × List Char :=
  (cs.takeWhile isDigit, cs.dropWhile isDigit)

/-- The digits before the point: a zero alone, or digits that start with another one. -/
def readWhole? (cs : List Char) : Option (List Char × List Char) :=
  match cs with
  | [] => none
  | c :: rest =>
    if c = '0' then some (['0'], rest) else if isDigit c then some (spanDigits cs) else none

/-- The digits after a point; none if there is no point with digits after it. -/
def readFraction (cs : List Char) : List Char × List Char :=
  match cs with
  | '.' :: rest =>
    match spanDigits rest with
    | ([], _) => ([], cs)
    | split => split
  | cs => ([], cs)

def readExponent (cs : List Char) : Option Int × List Char :=
  match cs with
  | c :: rest =>
    if c = 'e' ∨ c = 'E' then
      let signed := Numeral.takeSign rest
      match spanDigits signed.2 with
      | ([], _) => (none, cs)
      | (ds, rest) =>
        let n : Int := Numeral.ofDigits (ds.filterMap asciiDigit?)
        (some (if signed.1 then -n else n), rest)
    else (none, cs)
  | [] => (none, [])

def readNumber? (cs : List Char) : Option (Value × List Char) := do
  let (negative, cs) := Numeral.takeMinus cs
  let (whole, rest) ← readWhole? cs
  let (fraction, rest) := readFraction rest
  let (exponent, rest) := readExponent rest
  let n := Numeral.ofDigits ((whole ++ fraction).filterMap asciiDigit?)
  if fraction.isEmpty && exponent.isNone then
    if Numeral.digitLimit < whole.length then none
    else some (.int (if negative then -(n : Int) else n), rest)
  else some (.real (.ofDecimal negative n (exponent.getD 0 - fraction.length)), rest)

/-- Why a text is no document. -/
inductive Fault where
  | malformed
  /-- Too many containers inside one another; the innermost one. -/
  | tooDeep (container : Kind)
deriving DecidableEq, Repr

/-- The number of containers that may stand inside one another.  It depends on how much
of the stack is in use where a document is read; so much is left to a transport that is
asked by a command. -/
def depthLimit : Nat := 980

/-- What was read, unless nothing was. -/
def orMalformed {α : Type} : Option α → Except Fault α
  | some a => .ok a
  | none => .error .malformed

mutual

/-- The value in front.  At most `depth` containers may be opened inside one another,
and the fuel has to be longer than the text twice over. -/
def readValue : (fuel depth : Nat) → List Char → Except Fault (Value × List Char)
  | 0, _, _ => .error .malformed
  | _ + 1, _, [] => .error .malformed
  | fuel + 1, depth, c :: rest =>
    if c = '"' then (orMalformed (readText? rest)).map fun r ↦ (.text r.1, r.2)
    else if c = '[' then
      match depth with
      | 0 => .error (.tooDeep .list)
      | depth + 1 =>
        match skip rest with
        | ']' :: rest => .ok (.list [], rest)
        | rest => (readItems fuel depth rest).map fun r ↦ (.list r.1, r.2)
    else if c = '\x7b' then
      match depth with
      | 0 => .error (.tooDeep .object)
      | depth + 1 =>
        match skip rest with
        | '\x7d' :: rest => .ok (.object [], rest)
        | rest =>
          (readFields fuel depth rest).map fun r ↦ (.object (Value.collectFields r.1), r.2)
    else orMalformed ((readWord? (c :: rest)).orElse fun _ ↦ readNumber? (c :: rest))

/-- The items up to the closing bracket, of which there is at least one. -/
def readItems : (fuel depth : Nat) → List Char → Except Fault (List Value × List Char)
  | 0, _, _ => .error .malformed
  | fuel + 1, depth, cs =>
    match readValue fuel depth cs with
    | .error f => .error f
    | .ok (v, rest) =>
      match skip rest with
      | ']' :: rest => .ok ([v], rest)
      | ',' :: rest => (readItems fuel depth (skip rest)).map fun r ↦ (v :: r.1, r.2)
      | _ => .error .malformed

/-- The fields up to the closing brace, of which there is at least one. -/
def readFields :
    (fuel depth : Nat) → List Char → Except Fault (List (String × Value) × List Char)
  | 0, _, _ => .error .malformed
  | fuel + 1, depth, cs =>
    match cs with
    | '"' :: rest =>
      match readText? rest with
      | none => .error .malformed
      | some (name, rest) =>
        match skip rest with
        | ':' :: rest =>
          match readValue fuel depth (skip rest) with
          | .error f => .error f
          | .ok (v, rest) =>
            match skip rest with
            | '\x7d' :: rest => .ok ([(name, v)], rest)
            | ',' :: rest =>
              (readFields fuel depth (skip rest)).map fun r ↦ ((name, v) :: r.1, r.2)
            | _ => .error .malformed
        | _ => .error .malformed
    | _ => .error .malformed

end

/-- The value of a document with no more than `depth` containers inside one another.  Of
two steps in a row one takes a character, so twice the length of the document is fuel
enough. -/
def readWithin (depth : Nat) (s : String) : Except Fault Value :=
  match readValue (2 * s.toList.length + 1) depth (skip s.toList) with
  | .ok (v, rest) => if (skip rest).isEmpty then .ok v else .error .malformed
  | .error f => .error f
end PullRelay.Json
