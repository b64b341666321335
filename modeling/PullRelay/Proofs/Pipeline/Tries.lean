import Mathlib.Data.List.Chain
import PullRelay.Proofs.Pipeline.Staging

/-!
# The calls of a retry

A retry calls the work that it surrounds again and again, from the buffer that it found at
entry.  What it does is told by the list of these calls (`Retry.Tries`): each of them but the last
fails in a way that is worth another one and is followed by one pause, and the last one
decides what is returned.

If the last call succeeds or fails for good, its result is returned, and what it staged stays
in the buffer; if it fails as those before it, the failures of all calls are returned together,
and nothing stays (`Retry.around_returns_last`).  A failure for good is the one failing exit past
which the buffer may hold more than at entry (`Retry.around_restores_iff`).
-/

namespace PullRelay

variable {σ ι : Type}

namespace Retry

/-! ## Lists of calls -/

/-- A call of the work: where it started, what it returned, and what it left behind. -/
structure Try (σ ι : Type) where
  before : State σ ι
  result : Result σ ι
  after : State σ ι

/-- What the call staged. -/
def Try.staged (x : Try σ ι) : List ι := x.after.staged.drop x.before.staged.length

/-- The call failed in a way that is worth another one. -/
def GoesOnAfter (r : Retry) (x : Try σ ι) : Prop :=
  ∃ e, x.result.error = some e ∧ r.accepts e = true

/-- The calls of a retry from a state: those that are followed by another one, and the last. -/
structure Tries (r : Retry) (inner : Work σ ι) (page : Int) (s : State σ ι)
    (earlier : List (Try σ ι)) (last : Try σ ι) : Prop where
  /-- The first one starts where the retry does. -/
  first : ∀ x ∈ (earlier ++ [last]).head?, x.before = s
  /-- All are calls of the work for one page. -/
  returned : ∀ x ∈ earlier ++ [last], inner page x.before = (.returned x.result, x.after)
  /-- Each starts from the buffer at entry. -/
  restored : ∀ x ∈ earlier ++ [last], x.before.staged = s.staged
  /-- From one to the next there is a pause, and nothing else. -/
  paused : (earlier ++ [last]).IsChain fun x y ↦
    y.before.world = x.after.world.record (.slept r.delay)
  goesOn : ∀ x ∈ earlier, r.GoesOnAfter x

variable {r : Retry} {inner : Work σ ι} {page : Int} {s s' : State σ ι}

namespace Tries

/-- A single call. -/
theorem single {result : Result σ ι} (h : inner page s = (.returned result, s')) :
    r.Tries inner page s [] ⟨s, result, s'⟩ where
  first := by simp
  returned := by simpa using h
  restored := by simp
  paused := List.isChain_singleton _
  goesOn := by simp

variable {earlier : List (Try σ ι)} {last : Try σ ι}

/-- A call before others, which start after a pause and from the same buffer. -/
theorem cons {result : Result σ ι} {e : Failure} (h : inner page s = (.returned result, s'))
    (he : result.error = some e) (ha : r.accepts e = true)
    (rest : r.Tries inner page ⟨s'.world.record (.slept r.delay), s.staged⟩ earlier last) :
    r.Tries inner page s (⟨s, result, s'⟩ :: earlier) last where
  first := by simp
  returned := List.forall_mem_cons.mpr ⟨h, rest.returned⟩
  restored := List.forall_mem_cons.mpr ⟨rfl, rest.restored⟩
  paused := List.isChain_cons.mpr
    ⟨fun y hy ↦ congrArg State.world (rest.first y hy), rest.paused⟩
  goesOn := List.forall_mem_cons.mpr ⟨⟨e, he, ha⟩, rest.goesOn⟩

/-- The last call adds what it stages to the buffer at entry. -/
theorem staged_last (h : r.Tries inner page s earlier last) (happends : (inner page).Appends) :
    last.after.staged = s.staged ++ last.staged := by
  have hmem : last ∈ earlier ++ [last] := List.mem_append_right _ List.mem_cons_self
  have hstaged := happends last.before
  rw [h.returned last hmem] at hstaged
  rw [Try.staged, ← h.restored last hmem]
  exact (List.prefix_iff_eq_append.mp hstaged).symm

end Tries

/-- A cut after a call gives back the buffer that the call started from. -/
theorem staged_cut_of_appends (happends : (inner page).Appends) {savepoint : Nat}
    (hle : savepoint ≤ s.staged.length) {ending : Ending (Result σ ι)}
    (h : inner page (s.cut savepoint) = (ending, s')) :
    (s'.cut savepoint).staged = (s.cut savepoint).staged := by
  have hstaged := happends (s.cut savepoint)
  rw [h] at hstaged
  have hlength : (s.cut savepoint).staged.length = savepoint := by
    rw [State.staged_cut, List.length_take, Nat.min_eq_left hle]
  have hcut := State.staged_cut_of_isPrefix hstaged
  rwa [hlength] at hcut

/-- Attempts that return are a list of calls.  Unless the last one goes on, its result is
returned as it is; if it does, it has no attempts left, and the failures are returned. -/
theorem Attempts.exists_tries (happends : (inner page).Appends) {savepoint further : Nat}
    {errors : List Failure} {ending : Ending (Result σ ι)}
    (h : r.Attempts inner page savepoint further errors s ending s')
    (hle : savepoint ≤ s.staged.length) {result : Result σ ι}
    (hresult : ending = .returned result) :
    ∃ earlier last, r.Tries inner page (s.cut savepoint) earlier last ∧
      earlier.length ≤ further ∧
      (¬r.GoesOnAfter last → result = last.result ∧ s' = last.after) ∧
      (r.GoesOnAfter last → earlier.length = further ∧ ∃ failures,
        (earlier ++ [last]).map (·.result.error) = failures.map some ∧
        result = last.result.failing (.exhausted (errors ++ failures)) ∧
        s' = last.after.cut savepoint) := by
  induction h with
  | raised | unfinished => cases hresult
  | settled h stop =>
    cases hresult
    refine ⟨[], _, .single h, Nat.zero_le _, fun _ ↦ ⟨rfl, rfl⟩, ?_⟩
    rintro ⟨e, he, ha⟩
    exact absurd ha (Bool.eq_false_iff.mp (stop e he))
  | @exhausted _ _ _ _ e h he ha =>
    cases hresult
    refine ⟨[], _, .single h, Nat.le_refl 0, fun hend ↦ absurd ⟨e, he, ha⟩ hend, fun _ ↦ ?_⟩
    exact ⟨rfl, [e], congrArg (fun error ↦ [error]) he, rfl, rfl⟩
  | @again further _ s s₁ _ result₁ e _ h he ha _ ih =>
    -- The further attempts start past the savepoint as well, and are cut back to the same buffer.
    have hstaged := staged_cut_of_appends happends hle h
    have hle₁ : savepoint ≤ s₁.staged.length := by
      have hlength := congrArg List.length hstaged
      rw [State.staged_cut, State.staged_cut, List.length_take, List.length_take] at hlength
      omega
    obtain ⟨earlier, last, htries, hlength, hsettled, hexhausted⟩ := ih hle₁ hresult
    have hstart : (s₁.record (.slept r.delay)).cut savepoint =
        ⟨s₁.world.record (.slept r.delay), (s.cut savepoint).staged⟩ := by
      rw [← hstaged]
      rfl
    rw [hstart] at htries
    refine ⟨⟨s.cut savepoint, result₁, s₁⟩ :: earlier, last, htries.cons h he ha,
      Nat.succ_le_succ hlength, hsettled, fun hlast ↦ ?_⟩
    obtain ⟨hspent, failures, herrors, hresult₁, hs'⟩ := hexhausted hlast
    refine ⟨congrArg (· + 1) hspent, e :: failures, ?_, ?_, hs'⟩
    · rw [List.cons_append, List.map_cons, herrors, List.map_cons, he]
    · rw [hresult₁, List.append_assoc, List.singleton_append]

/-- A run that returns is a list of calls from the state at entry. -/
theorem exists_tries (happends : (inner page).Appends) {result : Result σ ι}
    (h : r.around inner page s = (.returned result, s')) :
    ∃ earlier last, r.Tries inner page s earlier last ∧ earlier.length ≤ r.further ∧
      (¬r.GoesOnAfter last → result = last.result ∧ s' = last.after) ∧
      (r.GoesOnAfter last → earlier.length = r.further ∧ ∃ failures,
        (earlier ++ [last]).map (·.result.error) = failures.map some ∧
        result = last.result.failing (.exhausted failures) ∧
        s' = last.after.cut s.staged.length) := by
  rw [around_apply, attempt_eq_iff] at h
  have hstart : s.cut s.staged.length = s := by simp [State.cut]
  have htries := h.exists_tries happends (Nat.le_refl _) rfl
  rwa [hstart] at htries

/-- Attempts of work that returns return. -/
theorem Attempts.exists_returned (hreturns : ∀ s, ∃ result s', inner page s = (.returned result, s'))
    {savepoint further : Nat} {errors : List Failure} {ending : Ending (Result σ ι)}
    (h : r.Attempts inner page savepoint further errors s ending s') :
    ∃ result, ending = .returned result := by
  have hne {s s' : State σ ι} {ending : Ending (Result σ ι)} (h : inner page s = (ending, s')) :
      ∃ result, ending = .returned result := by
    obtain ⟨result, s₁, hresult⟩ := hreturns s
    rw [h] at hresult
    exact ⟨result, (Prod.mk.inj hresult).1⟩
  induction h with
  | raised h | unfinished h | settled h _ => exact hne h
  | exhausted => exact ⟨_, rfl⟩
  | again _ _ _ _ ih => exact ih

end Retry

/-- Failures are numbered in order, each on a line of its own. -/
theorem Failure.numbered_eq (i : Nat) (errors : List Failure) :
    numbered i errors = String.join (errors.mapIdx fun j e ↦
      "\n" ++ toString (i + j) ++ ". [" ++ e.message ++ "]") := by
  induction errors generalizing i with
  | nil => rfl
  | cons e errors ih =>
    rw [numbered, ih, List.mapIdx_cons, String.join_cons]
    simp only [Nat.add_zero, Nat.add_assoc, Nat.add_comm 1]

/-- The failures of all attempts are counted, and then listed in order. -/
theorem Failure.message_exhausted (errors : List Failure) :
    (exhausted errors).message = "all " ++ toString errors.length ++
      " attempts of sending a request failed. See the errors:" ++
      String.join (errors.mapIdx fun i e ↦
        "\n" ++ toString (1 + i) ++ ". [" ++ e.message ++ "]") := by
  rw [← numbered_eq]
  rfl

/-! ## Runs of a retry -/

namespace Retry

/-- Around work that returns and only appends to the buffer, a retry with `n` attempts makes at
most `max 1 n` calls, all from the buffer at entry.  It stops at the first call that succeeds or
fails in a way that is not worth another one, returns its result and keeps what it staged.  If
there is none, it makes all `max 1 n` calls, returns their failures in order, and leaves the
buffer as it was at entry. -/
theorem around_returns_last {inner : Work σ ι} {page : Int}
    (hreturns : ∀ s, ∃ result s', inner page s = (.returned result, s'))
    (happends : (inner page).Appends) (n : Int) (delay : Binary64) (accepts : Failure → Bool)
    (s : State σ ι) :
    let r := ofAttempts n delay accepts
    ∃ earlier last, r.Tries inner page s earlier last ∧ r.delay = delay ∧
      ((earlier.length + 1 : Nat) : Int) ≤ max 1 n ∧
      (¬r.GoesOnAfter last →
        r.around inner page s = (.returned last.result, last.after) ∧
        last.after.staged = s.staged ++ last.staged) ∧
      (r.GoesOnAfter last → ((earlier.length + 1 : Nat) : Int) = max 1 n ∧ ∃ errors,
        (earlier ++ [last]).map (·.result.error) = errors.map some ∧
        r.around inner page s =
          (.returned (last.result.failing (.exhausted errors)), ⟨last.after.world, s.staged⟩) ∧
        (Failure.exhausted errors).message = "all " ++ toString (earlier.length + 1) ++
          " attempts of sending a request failed. See the errors:" ++
          String.join (errors.mapIdx fun i e ↦
            "\n" ++ toString (1 + i) ++ ". [" ++ e.message ++ "]")) := by
  intro r
  obtain ⟨ending, s', h⟩ := exists_attempts r inner page s.staged.length r.further [] s
  obtain ⟨result, rfl⟩ := h.exists_returned hreturns
  have hattempts : ((r.further + 1 : Nat) : Int) = max 1 n := attempts_ofAttempts n delay accepts
  have haround : r.around inner page s = (.returned result, s') := h.attempt_eq
  obtain ⟨earlier, last, htries, hlength, hsettled, hexhausted⟩ := exists_tries happends haround
  refine ⟨earlier, last, htries, rfl, by omega, fun hend ↦ ?_, fun hlast ↦ ?_⟩
  · obtain ⟨rfl, rfl⟩ := hsettled hend
    exact ⟨haround, htries.staged_last happends⟩
  · obtain ⟨hspent, errors, herrors, rfl, rfl⟩ := hexhausted hlast
    have hcount : errors.length = earlier.length + 1 := by
      simpa using (congrArg List.length herrors).symm
    have hrestored : last.after.cut s.staged.length = ⟨last.after.world, s.staged⟩ := by
      rw [State.cut, htries.staged_last happends, List.take_left]
    refine ⟨by omega, errors, herrors, by rw [haround, hrestored], ?_⟩
    rw [Failure.message_exhausted, hcount]

/-- Work that fails at its first call, and stages a row at each. -/
def wavering : Work Nat String := fun _ s ↦
  (.returned { error := if s.world.machine = 0 then some (.transport "reset") else none },
    { world := { s.world with machine := s.world.machine + 1 }, staged := s.staged ++ ["row"] })

/-- The second call ends the retry, and one row is staged. -/
theorem wavering_around_returns_last :
    (∀ s, ∃ result s', wavering noPage s = (.returned result, s')) ∧
    (wavering noPage).Appends ∧
    let r := ofAttempts 3 (.zero false) Failure.isRetryable
    let s : State Nat String := { world := { machine := 0 }, staged := ["kept"] }
    (∃ earlier last, r.Tries wavering noPage s earlier last ∧
      ((earlier.length + 1 : Nat) : Int) ≤ 3 ∧
      (¬r.GoesOnAfter last → r.around wavering noPage s = (.returned last.result, last.after))) ∧
    (r.around wavering noPage s).2.staged = ["kept", "row"] := by
  have hreturns (s : State Nat String) : ∃ result s', wavering noPage s = (.returned result, s') :=
    ⟨_, _, rfl⟩
  have happends : (wavering noPage).Appends := fun _ ↦ List.prefix_append _ _
  obtain ⟨earlier, last, htries, -, hlength, hends, -⟩ :=
    around_returns_last hreturns happends 3 (.zero false) Failure.isRetryable
      { world := { machine := 0 }, staged := ["kept"] }
  exact ⟨hreturns, happends, ⟨earlier, last, htries, hlength, fun h ↦ (hends h).1⟩,
    by decide +kernel⟩

/-- A retry that returns a failure leaves the buffer as it was at entry if its attempts are used
up, or if the last one staged nothing, and not otherwise: what an attempt staged that
fails for good stays. -/
theorem around_restores_iff {inner : Work σ ι} {page : Int} (happends : (inner page).Appends)
    (r : Retry) {s s' : State σ ι} {result : Result σ ι} {e : Failure}
    (h : r.around inner page s = (.returned result, s')) (he : result.error = some e) :
    ∃ earlier last, r.Tries inner page s earlier last ∧
      (s'.staged = s.staged ↔ r.GoesOnAfter last ∨ last.staged = []) ∧
      (¬r.GoesOnAfter last → last.result.error = some e ∧ r.accepts e = false ∧
        s'.staged = s.staged ++ last.staged) := by
  obtain ⟨earlier, last, htries, -, hsettled, hexhausted⟩ := exists_tries happends h
  have hstaged := htries.staged_last happends
  refine ⟨earlier, last, htries, ?_, fun hend ↦ ?_⟩
  · by_cases hlast : r.GoesOnAfter last
    · obtain ⟨-, _, -, -, rfl⟩ := hexhausted hlast
      simp [hlast, hstaged]
    · obtain ⟨-, rfl⟩ := hsettled hlast
      simp [hlast, hstaged]
  · obtain ⟨rfl, rfl⟩ := hsettled hend
    exact ⟨he, Bool.eq_false_iff.mpr fun ha ↦ hend ⟨e, he, ha⟩, hstaged⟩

/-- Pages of which the first one is good and the second one cannot be read. -/
def halfRead : Work Rehearsal.Machine Value :=
  Pagination.around 0 ⟨Pagination.defaultLimit⟩ (Rehearsal.Script.pages
    [[.yields 200 (some 2) none [.text "a"]],
      [.yields 200 none (some (.malformed "bad row")) []]]).unit

/-- A buffer that holds a row already. -/
def beforeHalfRead : State Rehearsal.Machine Value where
  world := { machine := {} }
  staged := [.text "kept"]

theorem appends_halfRead : (halfRead noPage).Appends :=
  (Pagination.appends_around (Rehearsal.Script.appends_unit _) 0 _).run noPage

/-- The retry returns the failure of the second page, and the buffer holds the first one. -/
theorem exists_halfRead_around : ∃ result s',
    (ofAttempts 3 .nan Failure.isRetryable).around halfRead noPage beforeHalfRead =
      (.returned result, s') ∧
    result.error = some (.malformed "bad row") ∧
    s'.staged = beforeHalfRead.staged ++ [.text "a"] := by
  obtain ⟨result, s', h, he, hstaged⟩ : ∃ result s',
      halfRead noPage (beforeHalfRead.cut 1) = (.returned result, s') ∧
      result.error = some (.malformed "bad row") ∧
      s'.staged = beforeHalfRead.staged ++ [.text "a"] :=
    ⟨_, _, (Pagination.Follows.more rfl rfl rfl rfl (.settled rfl rfl fun _ ↦ rfl)).follow_eq,
      rfl, rfl⟩
  have stop (e : Failure) (h : result.error = some e) : e.isRetryable = false := by
    rw [he] at h
    cases h
    rfl
  exact ⟨result, s', (Attempts.settled h stop).attempt_eq, he, hstaged⟩

theorem halfRead_around_restores_iff :
    (halfRead noPage).Appends ∧
    let r := ofAttempts 3 .nan Failure.isRetryable
    ∃ result s', r.around halfRead noPage beforeHalfRead = (.returned result, s') ∧
      result.error = some (.malformed "bad row") ∧
      ∃ earlier last, r.Tries halfRead noPage beforeHalfRead earlier last ∧
        (s'.staged = beforeHalfRead.staged ↔ r.GoesOnAfter last ∨ last.staged = []) ∧
        (¬r.GoesOnAfter last → s'.staged = beforeHalfRead.staged ++ last.staged) := by
  obtain ⟨result, s', h, he, -⟩ := exists_halfRead_around
  obtain ⟨earlier, last, htries, hiff, hends⟩ := around_restores_iff appends_halfRead _ h he
  exact ⟨appends_halfRead, result, s', h, he, earlier, last, htries, hiff,
    fun hlast ↦ (hends hlast).2.2⟩

/-- The first page stays in the buffer, although the retry returns a failure. -/
theorem halfRead_not_restored :
    (halfRead noPage).Appends ∧ ∃ result s',
      (ofAttempts 3 .nan Failure.isRetryable).around halfRead noPage beforeHalfRead =
        (.returned result, s') ∧
      result.error = some (.malformed "bad row") ∧ s'.staged ≠ beforeHalfRead.staged := by
  obtain ⟨result, s', h, he, hstaged⟩ := exists_halfRead_around
  refine ⟨appends_halfRead, result, s', h, he, fun hrestored ↦ ?_⟩
  rw [hstaged] at hrestored
  exact absurd (List.append_right_eq_self.mp hrestored) (List.cons_ne_nil _ _)

end Retry

end PullRelay
