import PullRelay.Proofs.Except
import PullRelay.Proofs.Text.Pieces
import PullRelay.Url.Address

/-!
# Authorities that can be used

An address is refused for its authority alone, and the authority for its brackets or for a
character that stands for a delimiter (`Url.Usable`).  An authority without brackets, of
characters below `0x80`, is always fine (`Usable.of_plain`).
-/

namespace PullRelay.Url

open Text

/-- The authority of an address; an address without `//` has the empty one. -/
def authority (s : String) : List Char := (splitAuthority (withoutScheme (cleaned s))).1

/-- What stands after the last `@` of an authority with brackets, and the host in it.  The
closing bracket may be missing there, and both may stand in front of the `@` instead. -/
inductive HasHost : List Char → List Char → Prop
  | closed {host port} (h : ']' ∉ host) (hport : isPortPart port = true) :
      HasHost ('[' :: (host ++ ']' :: port)) host
  | unclosed {host} (h : ']' ∉ host) : HasHost ('[' :: host) host
  | bare {host} (h : '[' ∉ host) (hport : ':' ∉ host) : HasHost host host
  | bareBeforePort {host port} (h : '[' ∉ host ++ ':' :: port) (hport : ':' ∉ host) :
      HasHost (host ++ ':' :: port) host

theorem expectBracketed_of_notMem {cs : List Char} (h : '[' ∉ cs) :
    expectBracketed cs = .ok (splitFirst ':' cs).1 := by
  rw [expectBracketed, splitFirst_of_notMem h]

theorem expectBracketed_append {before : List Char} (h : '[' ∉ before) (inside : List Char) :
    expectBracketed (before ++ '[' :: inside) =
      if before.isEmpty && isPortPart ((splitFirst ']' inside).2.getD []) then
        .ok (splitFirst ']' inside).1
      else .error .misplacedBrackets := by
  rw [expectBracketed, splitFirst_append h]

theorem expectBracketed_of_hasHost {cs host : List Char} (h : HasHost cs host) :
    expectBracketed cs = .ok host := by
  have hnil : '[' ∉ ([] : List Char) := List.not_mem_nil
  cases h with
  | closed h hport =>
    rw [← List.nil_append ('[' :: _), expectBracketed_append hnil, splitFirst_append h]
    exact if_pos hport
  | unclosed h =>
    rw [← List.nil_append ('[' :: _), expectBracketed_append hnil, splitFirst_of_notMem h]
    rfl
  | bare h hport => rw [expectBracketed_of_notMem h, splitFirst_of_notMem hport]
  | bareBeforePort h hport => rw [expectBracketed_of_notMem h, splitFirst_append hport]

theorem hasHost_of_expectBracketed {cs host : List Char} (h : expectBracketed cs = .ok host) :
    HasHost cs host := by
  by_cases hopen : '[' ∈ cs
  · obtain ⟨before, inside, rfl, hbefore⟩ := List.eq_append_cons_of_mem hopen
    rw [expectBracketed_append hbefore] at h
    split at h
    next hok =>
      cases h
      rw [Bool.and_eq_true, List.isEmpty_iff] at hok
      obtain ⟨rfl, hport⟩ := hok
      by_cases hclose : ']' ∈ inside
      · obtain ⟨inner, port, rfl, hinner⟩ := List.eq_append_cons_of_mem hclose
        rw [splitFirst_append hinner] at hport ⊢
        exact .closed hinner hport
      · rw [splitFirst_of_notMem hclose]
        exact .unclosed hclose
    · cases h
  · rw [expectBracketed_of_notMem hopen] at h
    cases h
    by_cases hport : ':' ∈ cs
    · obtain ⟨inner, port, rfl, hinner⟩ := List.eq_append_cons_of_mem hport
      rw [splitFirst_append hinner]
      exact .bareBeforePort hopen hinner
    · rw [splitFirst_of_notMem hport]
      exact .bare hopen hport

/-- A host that may stand in brackets: an address of version 6, or of a later one. -/
def IsAddress : List Char → Prop
  | 'v' :: version => isFutureVersion version = true
  | host => isVersion4 host = false ∧ isVersion6 host = true

theorem checkBracketed_eq_ok_iff {host : List Char} :
    checkBracketed host = .ok () ↔ IsAddress host := by
  unfold checkBracketed IsAddress
  split
  · split <;> simp_all
  · split
    · simp_all
    · split <;> simp_all

/-- What an authority has to be for an address to be taken apart. -/
structure Usable (authority : List Char) : Prop where
  /-- Brackets come in both kinds or not at all. -/
  paired : '[' ∈ authority ↔ ']' ∈ authority
  address : '[' ∈ authority → ∃ host, HasHost (hostAndPort authority) host ∧ IsAddress host
  visible : ∀ c ∈ authority, delimiterForms.contains c = false

theorem checkBrackets_eq_ok_iff {authority : List Char} :
    checkBrackets authority = .ok () ↔
      ('[' ∈ authority ↔ ']' ∈ authority) ∧
      ('[' ∈ authority → ∃ host, HasHost (hostAndPort authority) host ∧ IsAddress host) := by
  unfold checkBrackets
  by_cases hopen : '[' ∈ authority <;> by_cases hclose : ']' ∈ authority
  · simp only [List.contains_iff_mem.mpr hopen, List.contains_iff_mem.mpr hclose, hopen, hclose,
      true_and, true_imp_iff]
    constructor
    · intro h
      obtain ⟨host, hhost, h⟩ := Except.exists_of_bind_eq_ok h
      exact ⟨host, hasHost_of_expectBracketed hhost, checkBracketed_eq_ok_iff.mp h⟩
    · rintro ⟨host, hhost, h⟩
      rw [expectBracketed_of_hasHost hhost]
      exact checkBracketed_eq_ok_iff.mpr h
  · simp [hopen, hclose]
  · simp [hopen, hclose]
  · simp [hopen, hclose]

theorem checkAuthority_eq_ok_iff {authority : List Char} :
    checkAuthority authority = .ok () ↔ Usable authority := by
  have hvisible : authority.any delimiterForms.contains = false ↔
      ∀ c ∈ authority, delimiterForms.contains c = false := by simp
  constructor
  · intro h
    obtain ⟨⟨⟩, hbrackets, h⟩ := Except.exists_of_bind_eq_ok h
    obtain ⟨paired, address⟩ := checkBrackets_eq_ok_iff.mp hbrackets
    split at h
    · cases h
    next hnone => exact ⟨paired, address, hvisible.mp (Bool.eq_false_iff.mpr hnone)⟩
  · rintro ⟨paired, address, visible⟩
    rw [checkAuthority, checkBrackets_eq_ok_iff.mpr ⟨paired, address⟩, hvisible.mpr visible]
    rfl

theorem Usable.of_plain {authority : List Char} (h : ∀ c ∈ authority, c.toNat < 0x80)
    (hopen : '[' ∉ authority) (hclose : ']' ∉ authority) : Usable authority where
  paired := ⟨fun hmem ↦ absurd hmem hopen, fun hmem ↦ absurd hmem hclose⟩
  address hmem := absurd hmem hopen
  visible c hc := by
    rw [Bool.eq_false_iff, ne_eq, CharSet.contains_iff]
    rintro ⟨range, hrange, hlow, -⟩
    have hlowest : ∀ range ∈ delimiterForms.ranges, 0x80 ≤ range.1 := by decide
    exact absurd (h c hc) (Nat.not_lt.mpr (Nat.le_trans (hlowest range hrange) hlow))

theorem query_of_usable {s : String} {authority rest : List Char}
    (hsplit : splitAuthority (withoutScheme (cleaned s)) = (authority, rest))
    (h : Usable authority) :
    Url.query s = .ok ((splitFirst '?' (splitFirst '#' rest).1).2.getD []) := by
  rw [Url.query, hsplit, checkAuthority_eq_ok_iff.mpr h]
  rfl

/-- An address has a query, even if an empty one, if its authority can be used. -/
theorem exists_query_iff {s : String} :
    (∃ query, Url.query s = .ok query) ↔ Usable (authority s) := by
  constructor
  · rintro ⟨query, h⟩
    obtain ⟨⟨⟩, hcheck, -⟩ := Except.exists_of_bind_eq_ok h
    exact checkAuthority_eq_ok_iff.mp hcheck
  · intro h
    exact ⟨_, query_of_usable rfl h⟩

end PullRelay.Url
