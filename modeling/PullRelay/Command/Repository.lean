import PullRelay.Text.Blank
import PullRelay.Text.Digit
import PullRelay.Text.Pieces

/-!
# Names of repositories

A repository is named by its owner and its own name with a slash between them.
Both parts go into paths as they are, so they hold nothing that means anything
there.
-/

namespace PullRelay

open Text

structure RepositoryName where
  owner : String
  repo : String
deriving DecidableEq, Repr

namespace RepositoryName

/-- May stand in either part of a name: ASCII letters and digits, `_`, `.`, `-`. -/
def isNameChar (c : Char) : Bool := isAsciiAlphanumeric c || c == '_' || c == '.' || c == '-'

/-- A part of a name. -/
def isPart (cs : List Char) : Bool := !cs.isEmpty && cs.all isNameChar

/-- The name that a text gives, up to blanks around it. -/
def ofText? (s : String) : Option RepositoryName :=
  match splitFirst '/' (trimList isBlank s.toList) with
  | (owner, some repo) =>
    if isPart owner && isPart repo then some ⟨String.ofList owner, String.ofList repo⟩ else none
  | _ => none

/-- What a name has to look like. -/
def form : String := "<owner>/<repo>"

end RepositoryName

end PullRelay
