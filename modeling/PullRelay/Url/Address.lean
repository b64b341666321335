import PullRelay.Url.Host

/-!
# Addresses

An address is taken apart as far as is needed to find its query: scheme and
authority in front of the path, a fragment behind it.  Any text is an address,
unless its authority is one that cannot be used.
-/

namespace PullRelay.Url

open Text

/-- An address without the controls and blanks in front of it, and without line
breaks and tabs. -/
def cleaned (s : String) : List Char :=
  (s.toList.dropWhile (·.toNat ≤ 0x20)).filter fun c ↦ c != '\t' && c != '\n' && c != '\r'

def isSchemeChar (c : Char) : Bool := isAsciiAlphanumeric c || c == '+' || c == '-' || c == '.'

/-- What follows the scheme: letters and other characters up to a colon, if a
letter is the first of them. -/
def withoutScheme (cs : List Char) : List Char :=
  match splitFirst ':' cs with
  | (c :: scheme, some rest) =>
    if isAsciiLetter c && scheme.all isSchemeChar then rest else cs
  | _ => cs

def endsAuthority (c : Char) : Bool := c == '/' || c == '?' || c == '#'

def splitAuthority (cs : List Char) : List Char × List Char :=
  match cs with
  | '/' :: '/' :: rest =>
    (rest.takeWhile (!endsAuthority ·), rest.dropWhile (!endsAuthority ·))
  | cs => ([], cs)

/-- The query of an address; an address without one has the empty query. -/
def query (s : String) : Except HostFault (List Char) := do
  let split := splitAuthority (withoutScheme (cleaned s))
  checkAuthority split.1
  let path := (splitFirst '#' split.2).1
  return (splitFirst '?' path).2.getD []

end PullRelay.Url
