import PullRelay.Text.CharSet

/-!
# Blank characters and trimming

Surrounding blanks never matter in settings, log levels and repository names.
The blanks are the white space of the Unicode character database together with
the four ASCII information separators, 29 characters in all.
-/

namespace PullRelay.Text

/-- White space and the information separators `0x1C … 0x1F`. -/
def blanks : CharSet := ⟨[
    (0x09, 0x0D), (0x1C, 0x20), (0x85, 0x85), (0xA0, 0xA0), (0x1680, 0x1680), (0x2000, 0x200A),
    (0x2028, 0x2029), (0x202F, 0x202F), (0x205F, 0x205F), (0x3000, 0x3000)]⟩

/-- Stripped from both ends of a text. -/
def isBlank (c : Char) : Bool := blanks.contains c

/-- Unicode white space proper: a blank that is no information separator. -/
def isWhiteSpace (c : Char) : Bool := isBlank c && !(0x1C ≤ c.toNat && c.toNat ≤ 0x1F)

/-- Drop the longest prefix and the longest suffix of characters in `p`. -/
def trimList (p : Char → Bool) (cs : List Char) : List Char :=
  ((cs.dropWhile p).reverse.dropWhile p).reverse

/-- A text without the characters of `p` at its ends. -/
def trim (p : Char → Bool) (s : String) : String := String.ofList (trimList p s.toList)

def strip (s : String) : String := trim isBlank s

def trimEnd (p : Char → Bool) (s : String) : String :=
  String.ofList (s.toList.reverse.dropWhile p).reverse

@[simp] theorem trimList_nil (p : Char → Bool) : trimList p [] = [] := rfl

@[simp] theorem toList_trim (p : Char → Bool) (s : String) :
    (trim p s).toList = trimList p s.toList := by simp [trim]

@[simp] theorem toList_strip (s : String) : (strip s).toList = trimList isBlank s.toList := by
  simp [strip]

end PullRelay.Text
