import PullRelay.Text.Casing.Table

/-!
# Upper and lower case

Full case mappings: one character may become several (`ß` in upper case is
`SS`), and a capital sigma becomes a final sigma where it ends a word.  Request
methods are compared in upper case, header names and transport names in lower
case.
-/

namespace PullRelay.Text

/-- Look a character up among the expansions first, then among the runs. -/
def mapCase (runs : List CaseRun) (expansions : List (Nat × List Nat)) (c : Char) : List Char :=
  match expansions.find? (·.1 == c.toNat) with
  | some e => e.2.map Char.ofNat
  | none =>
    match runs.find? (·.covers c.toNat) with
    | some r => [Char.ofNat (r.apply c.toNat)]
    | none => [c]

def upperChar (c : Char) : List Char := mapCase upperRuns upperExpansions c

def lowerChar (c : Char) : List Char := mapCase lowerRuns lowerExpansions c

def upper (s : String) : String := String.ofList (s.toList.flatMap upperChar)

/-- The nearest character that is not passed over has case. -/
def meetsCase (cs : List Char) : Bool :=
  match cs.dropWhile caseIgnorable.contains with
  | [] => false
  | c :: _ => cased.contains c

/-- A capital sigma between `before` (nearest character first) and `after` ends a word. -/
def endsWord (before after : List Char) : Bool := meetsCase before && !meetsCase after

/-- Lower case of the rest of a text, with what stands before it nearest first. -/
def lowerList (before : List Char) : List Char → List Char
  | [] => []
  | c :: after =>
    (if c = 'Σ' then [if endsWord before after then 'ς' else 'σ'] else lowerChar c)
      ++ lowerList (c :: before) after

def lower (s : String) : String := String.ofList (lowerList [] s.toList)

end PullRelay.Text
