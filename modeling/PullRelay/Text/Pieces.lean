/-!
# Cutting texts into pieces

A text is cut at every occurrence of a separator, or at the first one only.
`joinWith` puts the pieces together again.
-/

namespace PullRelay.Text

/-- The pieces between occurrences of `sep`; there is always at least one. -/
def splitAll (sep : Char) : List Char → List (List Char)
  | [] => [[]]
  | c :: rest =>
    if c = sep then [] :: splitAll sep rest
    else
      match splitAll sep rest with
      | [] => [[c]]
      | piece :: pieces => (c :: piece) :: pieces

/-- What stands before the first `sep`, and what stands after it if there is one. -/
def splitFirst (sep : Char) : List Char → List Char × Option (List Char)
  | [] => ([], none)
  | c :: rest =>
    if c = sep then ([], some rest)
    else
      let cut := splitFirst sep rest
      (c :: cut.1, cut.2)

def joinWith (sep : List Char) : List (List Char) → List Char
  | [] => []
  | [piece] => piece
  | piece :: pieces => piece ++ sep ++ joinWith sep pieces

/-- Every cut yields a piece. -/
theorem splitAll_ne_nil (sep : Char) (cs : List Char) : splitAll sep cs ≠ [] := by
  cases cs with
  | nil => simp [splitAll]
  | cons c rest =>
    unfold splitAll
    split
    · simp
    · split <;> simp

/-- Cutting loses nothing. -/
theorem joinWith_splitAll (sep : Char) (cs : List Char) :
    joinWith [sep] (splitAll sep cs) = cs := by
  induction cs with
  | nil => rfl
  | cons c rest ih =>
    unfold splitAll
    split
    next h =>
      cases hs : splitAll sep rest with
      | nil => exact absurd hs (splitAll_ne_nil sep rest)
      | cons piece pieces => rw [hs] at ih; simp [joinWith, ih, h]
    next h =>
      cases hs : splitAll sep rest with
      | nil => exact absurd hs (splitAll_ne_nil sep rest)
      | cons piece pieces =>
        rw [hs] at ih
        cases pieces <;> simp_all [joinWith]

end PullRelay.Text
