import PullRelay.Fault
import PullRelay.Text.Pieces

/-!
# Hosts

What an address names after its `//` may hold a host in brackets, which has to
be an address of version 6 or later, and must not hold characters that stand for
a delimiter under compatibility normalization.
-/

namespace PullRelay.Url

open Text

/-- A decimal number up to 255 without superfluous zeros. -/
def isOctet (cs : List Char) : Bool :=
  match cs.mapM asciiDigit? with
  | none | some [] => false
  | some (d :: ds) =>
    ds.length ≤ 2 && (d != 0 || ds.isEmpty) && Numeral.ofDigits (d :: ds) ≤ 255

/-- An address of version 4: four octets between points. -/
def isVersion4 (cs : List Char) : Bool :=
  let octets := splitAll '.' cs
  octets.length == 4 && octets.all isOctet

/-- A group of an address of version 6: one to four hexadecimal digits. -/
def isGroup (cs : List Char) : Bool :=
  1 ≤ cs.length && cs.length ≤ 4 && cs.all fun c ↦ (hexValue? c).isSome

/-- The number of groups in a run of them.  The last two may be written as an
address of version 4. -/
def countGroups? : List (List Char) → Option Nat
  | [] => some 0
  | [piece] => if isGroup piece then some 1 else if isVersion4 piece then some 2 else none
  | piece :: rest => if isGroup piece then (countGroups? rest).map (· + 1) else none

/-- What stands before the first `::`, and what stands after it if there is one. -/
def splitGap : List Char → List Char × Option (List Char)
  | [] => ([], none)
  | [c] => ([c], none)
  | c :: d :: rest =>
    if c = ':' ∧ d = ':' then ([], some rest)
    else
      let cut := splitGap (d :: rest)
      (c :: cut.1, cut.2)

/-- The number of groups between colons; an empty run has none of them. -/
def runLength? (run : List Char) : Option Nat :=
  if run.isEmpty then some 0 else countGroups? (splitAll ':' run)

/-- The same before a gap, where all groups are hexadecimal. -/
def plainRunLength? (run : List Char) : Option Nat :=
  if run.isEmpty || (splitAll ':' run).all isGroup then runLength? run else none

/-- Eight groups between colons, of which one or more in a row may be left out. -/
def isGroups (cs : List Char) : Bool :=
  match splitGap cs with
  | (run, none) => runLength? run == some 8
  | (left, some right) =>
    match plainRunLength? left, runLength? right with
    | some m, some n => m + n ≤ 7
    | _, _ => false

/-- An address of version 6, which may have a zone after a percent sign. -/
def isVersion6 (cs : List Char) : Bool :=
  match splitFirst '%' cs with
  | (address, none) => isGroups address
  | (address, some zone) => !zone.isEmpty && !zone.contains '%' && isGroups address

/-- A later version: its number in hexadecimal, a point, and something after it. -/
def isFutureVersion (cs : List Char) : Bool :=
  match splitFirst '.' cs with
  | (version, some (_ :: _)) => !version.isEmpty && version.all fun c ↦ (hexValue? c).isSome
  | _ => false

/-- A host among brackets has to be an address of version 6 or later. -/
def checkBracketed (host : List Char) : Except HostFault Unit :=
  match host with
  | 'v' :: rest => if isFutureVersion rest then .ok () else .error .badFutureVersion
  | host =>
    if isVersion4 host then .error .version4InBrackets
    else if isVersion6 host then .ok ()
    else .error (.notAnAddress (String.ofList host))

/-- What stands after the last `@`: the host, and a port if there is one. -/
def hostAndPort (authority : List Char) : List Char := (splitAll '@' authority).getLastD []

/-- May follow a host: nothing, or a port after a colon. -/
def isPortPart (cs : List Char) : Bool := cs.isEmpty || cs.head? == some ':'

/-- The host where brackets are expected.  Nothing stands in front of the opening
bracket, and only a port behind the closing one; without brackets it ends at a colon. -/
def expectBracketed (cs : List Char) : Except HostFault (List Char) :=
  match splitFirst '[' cs with
  | (_, none) => .ok (splitFirst ':' cs).1
  | (before, some inside) =>
    match splitFirst ']' inside with
    | (host, after) =>
      if before.isEmpty && isPortPart (after.getD []) then .ok host
      else .error .misplacedBrackets

/-- Brackets come in both kinds or not at all; if they do, even in front of the
host, the host has to be an address. -/
def checkBrackets (authority : List Char) : Except HostFault Unit :=
  match authority.contains '[', authority.contains ']' with
  | false, false => .ok ()
  | true, true => (expectBracketed (hostAndPort authority)).bind checkBracketed
  | _, _ => .error .misplacedBrackets

/-- The characters whose compatibility form holds one of `/`, `?`, `#`, `@`, `:`. -/
def delimiterForms : CharSet := ⟨[
    (0x2047, 0x2049), (0x2100, 0x2101), (0x2105, 0x2106), (0x2A74, 0x2A74), (0xFE13, 0xFE13),
    (0xFE16, 0xFE16), (0xFE55, 0xFE56), (0xFE5F, 0xFE5F), (0xFE6B, 0xFE6B), (0xFF03, 0xFF03),
    (0xFF0F, 0xFF0F), (0xFF1A, 0xFF1A), (0xFF1F, 0xFF20)]⟩

/-- An authority that can be used. -/
def checkAuthority (authority : List Char) : Except HostFault Unit := do
  checkBrackets authority
  if authority.any delimiterForms.contains then
    throw (.hiddenDelimiter (String.ofList authority))

end PullRelay.Url
