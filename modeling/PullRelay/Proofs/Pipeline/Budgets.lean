import PullRelay.Proofs.Pipeline.Loops

/-!
# What is left of a budget

A loop looks at its budget only where it would go on.  `Pagination.ahead?` and
`Retry.start?` say where that is, without a budget: the state in which so many pages have
been read and a further one is named, and the state in which so many attempts have failed
and a further one is worth making.  If there is no such state past the budget, a larger
one makes no difference (`Pagination.follow_eq_of_ahead?`, `Retry.Attempts.of_start?`).  If
there is one, the loop goes as far and then stops (`Pagination.follow_of_ahead?`,
`Retry.attempt_of_start?`).
-/

namespace PullRelay

variable {σ ι : Type}

namespace Pagination

/-- Read a page and stage its items: the page that follows and the state, if the page is
good and names one. -/
def next? (inner : Work σ ι) (page : Int) (s : State σ ι) : Option (Int × State σ ι) :=
  match inner page s with
  | (.returned result, s₁) =>
    match result.apply s₁, result.error, result.cursor? with
    | (.returned _, s₂), none, some next => some (next, s₂)
    | _, _, _ => none
  | _ => none

/-- The page that follows so many, and the state in which it is asked for. -/
def ahead? (inner : Work σ ι) : Nat → Int → State σ ι → Option (Int × State σ ι)
  | 0, page, s => some (page, s)
  | n + 1, page, s => (next? inner page s).bind fun x ↦ ahead? inner n x.1 x.2

variable {inner : Work σ ι} {atBound : Result σ ι → Action σ ι (Result σ ι)} {page : Int}
  {s : State σ ι}

theorem next?_eq_some_iff {x : Int × State σ ι} :
    next? inner page s = some x ↔ ∃ result s₁, inner page s = (.returned result, s₁) ∧
      result.apply s₁ = (.returned (), x.2) ∧ result.error = none ∧
      result.cursor? = some x.1 := by
  constructor
  · intro h
    unfold next? at h
    split at h
    next result s₁ hinner =>
      split at h
      next s₂ next ha he hn =>
        cases h
        exact ⟨result, s₁, hinner, ha, he, hn⟩
      · cases h
    · cases h
  · rintro ⟨result, s₁, hinner, ha, he, hn⟩
    simp only [next?, hinner, ha, he, hn]

/-- A page that is named is read in the first place. -/
theorem ahead?_succ_of_next? {next : Int} {s₂ : State σ ι}
    (h : next? inner page s = some (next, s₂)) (n : Nat) :
    ahead? inner (n + 1) page s = ahead? inner n next s₂ := by
  rw [ahead?, h]
  rfl

/-- A pagination that does not go past a number of pages goes the same way with any budget
for so many. -/
theorem Follows.of_ahead?_eq_none {atBound' : Result σ ι → Action σ ι (Result σ ι)}
    {n further further' : Nat} {s' : State σ ι} {ending : Ending (Result σ ι)}
    (h : Follows inner atBound further page s ending s') (hn : n ≤ further) (hn' : n ≤ further')
    (hahead : ahead? inner (n + 1) page s = none) :
    Follows inner atBound' further' page s ending s' := by
  induction h generalizing n further' with
  | raised h => exact .raised h
  | unfinished h => exact .unfinished h
  | applyRaised h ha => exact .applyRaised h ha
  | applyUnfinished h ha => exact .applyUnfinished h ha
  | settled h ha stop => exact .settled h ha stop
  | bound h ha he hcursor _ =>
    obtain rfl := Nat.le_zero.mp hn
    rw [ahead?_succ_of_next? (next?_eq_some_iff.mpr ⟨_, _, h, ha, he, hcursor⟩)] at hahead
    cases hahead
  | more h ha he hcursor _ ih =>
    rw [ahead?_succ_of_next? (next?_eq_some_iff.mpr ⟨_, _, h, ha, he, hcursor⟩)] at hahead
    cases n with
    | zero => cases hahead
    | succ n =>
      obtain ⟨further', rfl⟩ := Nat.exists_eq_add_of_le' hn'
      exact .more h ha he hcursor (ih (Nat.le_of_succ_le_succ hn) (Nat.le_add_left ..) hahead)

theorem follow_eq_of_ahead? {atBound' : Result σ ι → Action σ ι (Result σ ι)}
    {n further further' : Nat} (hn : n ≤ further) (hn' : n ≤ further')
    (hahead : ahead? inner (n + 1) page s = none) :
    follow inner atBound' further' page s = follow inner atBound further page s := by
  rcases h : follow inner atBound further page s with ⟨ending, s'⟩
  exact ((follow_eq_iff.mp h).of_ahead?_eq_none hn hn' hahead).follow_eq

/-- A pagination that goes past its budget stops there. -/
theorem follow_of_ahead? {further : Nat} {x : Int × State σ ι}
    (h : ahead? inner (further + 1) page s = some x)
    (atBound : Result σ ι → Action σ ι (Result σ ι)) :
    ∃ result, follow inner atBound further page s = atBound result x.2 := by
  induction further generalizing page s with
  | zero =>
    obtain ⟨y, hy, hx⟩ := Option.bind_eq_some_iff.mp h
    obtain rfl := Option.some.inj hx
    obtain ⟨result, s₁, hinner, ha, he, hn⟩ := next?_eq_some_iff.mp hy
    refine ⟨result, ?_⟩
    simp only [follow_of_applied hinner ha, he, hn]
  | succ further ih =>
    obtain ⟨y, hy, hx⟩ := Option.bind_eq_some_iff.mp h
    obtain ⟨_, s₁, hinner, ha, he, hn⟩ := next?_eq_some_iff.mp hy
    obtain ⟨result, hrest⟩ := ih hx
    refine ⟨result, ?_⟩
    simp only [follow_of_applied hinner ha, he, hn, hrest]

end Pagination

namespace Retry

/-- Make an attempt: the state after the pause, if the attempt fails and another one is
worth making. -/
def again? (r : Retry) (inner : Work σ ι) (page : Int) (savepoint : Nat) (s : State σ ι) :
    Option (State σ ι) :=
  match inner page (s.cut savepoint) with
  | (.returned result, s₁) =>
    if result.error.any r.accepts then some (s₁.record (.slept r.delay)) else none
  | _ => none

/-- The state in which an attempt starts after so many others. -/
def start? (r : Retry) (inner : Work σ ι) (page : Int) (savepoint : Nat) :
    Nat → State σ ι → Option (State σ ι)
  | 0, s => some s
  | n + 1, s => (again? r inner page savepoint s).bind (start? r inner page savepoint n)

variable {r : Retry} {inner inner' : Work σ ι} {page : Int} {savepoint : Nat} {s : State σ ι}

theorem again?_eq_some_iff {st : State σ ι} :
    r.again? inner page savepoint s = some st ↔ ∃ result e s₁,
      inner page (s.cut savepoint) = (.returned result, s₁) ∧ result.error = some e ∧
      r.accepts e = true ∧ s₁.record (.slept r.delay) = st := by
  constructor
  · intro h
    unfold again? at h
    split at h
    next result s₁ hinner =>
      split at h
      next hany =>
        obtain ⟨e, he, ha⟩ := (Option.any_eq_true _ _).mp hany
        exact ⟨result, e, s₁, hinner, he, ha, Option.some.inj h⟩
      · cases h
    · cases h
  · rintro ⟨result, e, s₁, hinner, he, ha, rfl⟩
    simp [again?, hinner, he, ha]

/-- After an attempt that is worth another one come those after the other. -/
theorem start?_succ_of_again? {st : State σ ι} (h : r.again? inner page savepoint s = some st)
    (n : Nat) : r.start? inner page savepoint (n + 1) s = r.start? inner page savepoint n st := by
  rw [start?, h]
  rfl

/-- A retry goes the same way with work that is the same where its attempts start, and with
more attempts if it does not use up those that it has. -/
theorem Attempts.of_start? {further further' : Nat} {errors : List Failure} {s' : State σ ι}
    {ending : Ending (Result σ ι)} (h : r.Attempts inner page savepoint further errors s ending s')
    (hwork : ∀ n ≤ further, ∀ st, r.start? inner page savepoint n s = some st →
      inner' page (st.cut savepoint) = inner page (st.cut savepoint))
    (hbudget : further' = further ∨
      further ≤ further' ∧ r.start? inner page savepoint (further + 1) s = none) (k : Nat) :
    ({ r with further := k } : Retry).Attempts inner' page savepoint further' errors s
      ending s' := by
  induction h generalizing further' with
  | @raised _ _ s _ _ h => exact .raised ((hwork 0 (Nat.zero_le _) s rfl).trans h)
  | @unfinished _ _ s _ h => exact .unfinished ((hwork 0 (Nat.zero_le _) s rfl).trans h)
  | @settled _ _ s _ _ h stop => exact .settled ((hwork 0 (Nat.zero_le _) s rfl).trans h) stop
  | @exhausted _ s _ _ _ h he ha =>
    have hagain := again?_eq_some_iff.mpr ⟨_, _, _, h, he, ha, rfl⟩
    rcases hbudget with rfl | ⟨-, hstart⟩
    · exact .exhausted ((hwork 0 (Nat.zero_le _) s rfl).trans h) he ha
    · rw [start?_succ_of_again? hagain] at hstart
      cases hstart
  | @again further _ s _ _ _ _ _ h he ha _ ih =>
    have hagain := again?_eq_some_iff.mpr ⟨_, _, _, h, he, ha, rfl⟩
    rw [start?_succ_of_again? hagain] at hbudget
    obtain ⟨further', rfl⟩ : ∃ m, further' = m + 1 :=
      Nat.exists_eq_add_of_le' (by rcases hbudget with rfl | ⟨hle, -⟩ <;> omega)
    refine .again ((hwork 0 (Nat.zero_le _) s rfl).trans h) he ha
      (ih (fun n hn st hst ↦ ?_) (hbudget.imp Nat.succ.inj (And.imp_left Nat.le_of_succ_le_succ)))
    refine hwork (n + 1) (Nat.succ_le_succ hn) st ?_
    rwa [start?_succ_of_again? hagain]

/-- The attempts after so many others are those from where they start. -/
theorem attempt_of_start? {n k : Nat} {st : State σ ι}
    (h : r.start? inner page savepoint n s = some st) (errors : List Failure) :
    ∃ errors', r.attempt inner page savepoint (k + n) errors s =
      r.attempt inner page savepoint k errors' st := by
  induction n generalizing s errors with
  | zero =>
    obtain rfl := Option.some.inj h
    exact ⟨errors, rfl⟩
  | succ n ih =>
    obtain ⟨s₂, hagain, hrest⟩ := Option.bind_eq_some_iff.mp h
    obtain ⟨result, e, s₁, hinner, he, ha, rfl⟩ := again?_eq_some_iff.mp hagain
    obtain ⟨errors', heq⟩ := ih hrest (errors ++ [e])
    refine ⟨errors', ?_⟩
    rw [← Nat.add_assoc, attempt_of_returned hinner]
    simpa [he, ha] using heq

/-- A retry after whose attempts another one is worth making has used them up: it fails with
all their failures. -/
theorem Attempts.of_start?_succ {further : Nat} {st : State σ ι}
    (h : r.start? inner page savepoint (further + 1) s = some st) (errors : List Failure) :
    ∃ result : Result σ ι, ∃ failures s', failures.length = further + 1 ∧
      r.Attempts inner page savepoint further errors s
        (.returned (result.failing (.exhausted (errors ++ failures)))) s' := by
  induction further generalizing s errors with
  | zero =>
    obtain ⟨s₂, hagain, -⟩ := Option.bind_eq_some_iff.mp h
    obtain ⟨result, e, s₁, hinner, he, ha, rfl⟩ := again?_eq_some_iff.mp hagain
    exact ⟨result, [e], _, rfl, .exhausted hinner he ha⟩
  | succ further ih =>
    obtain ⟨s₂, hagain, hrest⟩ := Option.bind_eq_some_iff.mp h
    obtain ⟨_, e, s₁, hinner, he, ha, rfl⟩ := again?_eq_some_iff.mp hagain
    obtain ⟨result, failures, s', hlength, hattempts⟩ := ih hrest (errors ++ [e])
    rw [List.append_assoc] at hattempts
    exact ⟨result, e :: failures, s', congrArg (· + 1) hlength, .again hinner he ha hattempts⟩

end Retry

end PullRelay
