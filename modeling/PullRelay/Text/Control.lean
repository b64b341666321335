import PullRelay.Text.Digit

/-!
# Control sequences

An escape character, an opening bracket, parameters and a letter together are a
command to a terminal.  Reports of errors come without them, so that a text from
the server cannot steer the terminal it is shown on.
-/

namespace PullRelay.Text

/-- Starts a control sequence. -/
def escapeChar : Char := '\x1b'

/-- May stand between the bracket and the letter of a control sequence. -/
def isControlParameter (c : Char) : Bool := c == ';' || c == '?' || (asciiDigit? c).isSome

/-- What follows the control sequence in front, if there is one. -/
def afterControl? : List Char → Option (List Char)
  | c :: '[' :: rest =>
    if c = escapeChar then
      match rest.dropWhile isControlParameter with
      | letter :: rest => if isAsciiLetter letter then some rest else none
      | [] => none
    else none
  | _ => none

/-- A control sequence is not empty. -/
theorem length_lt_of_afterControl? {cs rest : List Char} (h : afterControl? cs = some rest) :
    rest.length < cs.length := by
  unfold afterControl? at h
  split at h
  next c more =>
    split at h
    · split at h
      next letter tail hd =>
        split at h
        · cases h
          have : (more.dropWhile isControlParameter).length ≤ more.length :=
            (List.dropWhile_suffix isControlParameter).length_le
          rw [hd] at this
          simp only [List.length_cons] at this ⊢
          omega
        · cases h
      · cases h
    · cases h
  · cases h

/-- A text without its control sequences.  What stands together only after that is
left alone. -/
def withoutControls (cs : List Char) : List Char :=
  match cs with
  | [] => []
  | c :: rest =>
    match h : afterControl? (c :: rest) with
    | some more =>
      have : more.length < rest.length + 1 := length_lt_of_afterControl? h
      withoutControls more
    | none => c :: withoutControls rest
termination_by cs.length
decreasing_by all_goals (simp only [List.length_cons]; omega)

/-- Only an escape character can begin a control sequence. -/
theorem withoutControls_cons_of_ne {c : Char} (h : c ≠ escapeChar) (rest : List Char) :
    withoutControls (c :: rest) = c :: withoutControls rest := by
  have hnone : afterControl? (c :: rest) = none := by
    unfold afterControl?
    split
    next heq =>
      obtain ⟨rfl, rfl⟩ := List.cons.inj heq
      exact if_neg h
    · rfl
  rw [withoutControls]
  split
  next hsome => rw [hnone] at hsome; cases hsome
  · rfl

end PullRelay.Text
