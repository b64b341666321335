import PullRelay.Proofs.Client.Effort
import PullRelay.Proofs.Listing.Calls

/-!
# Calls with other budgets

A call that uses up its attempts fails with all their failures (`Client.run_of_usesUp`), and one
that goes past its bound on pages fails with the bound (`Client.run_of_goesPast`).  All other
calls do not notice their budgets: with larger ones they do the same, and without a bound on
pages they do what they would do with one that they do not go past
(`Client.run_of_larger_budgets`).  That a call is short of a budget is said of what it does, not
of what its caller sees: a probe that raises something else takes the place of either failure.

A call whose last attempt succeeds at its last page reaches both of its bounds, but goes past
neither.
-/

namespace PullRelay

variable {σ : Type}

namespace Client

variable {t : Transport σ} {s : Settings} {fuel : Nat} {op : Operation} {w : World σ}

/-- A call that uses up its attempts fails with all their failures. -/
theorem run_of_usesUp (h : UsesUp t s fuel op w) :
    ∃ failures, failures.length = s.retry.attempts ∧
      ((unwatched t s).run fuel op w).1 = .raised (.exhausted failures) := by
  obtain ⟨st, hst⟩ := Option.isSome_iff_exists.mp h
  obtain ⟨result, failures, s', hlength, hattempts⟩ := Retry.Attempts.of_start?_succ hst []
  refine ⟨failures, hlength, ?_⟩
  rw [run_of_failed (c := unwatched t s) hattempts.attempt_eq rfl]
  rfl

/-- A call that goes past its bound fails with it. -/
theorem run_of_goesPast {m : Nat} (hm : s.maxPages = some (m + 1))
    (h : GoesPast t s fuel op w (m + 1)) :
    ((unwatched t s).run fuel op w).1 = .raised (.pageLimit (.int (m + 1 : Nat))) := by
  obtain ⟨n, hn, hpage⟩ := h
  obtain ⟨x, hx⟩ := Option.isSome_iff_exists.mp hpage
  obtain ⟨ending, haround, hend⟩ := around_of_page? hn (by rw [Settings.furtherPages, hm]; rfl) hx
  rw [hm] at hend
  obtain ⟨r, rfl, he⟩ := hend
  rw [run_of_failed haround he]

/-- Calls do the same if their chains do. -/
theorem run_congr {c c' : Client σ} {fuel' : Nat}
    (h : c'.chain.around fuel' (c'.unit op.call) noPage { world := w } =
      c.chain.around fuel (c.unit op.call) noPage { world := w })
    (hroom : c'.room = c.room) : c'.run fuel' op w = c.run fuel op w := by
  simp only [run, execute, action, Action.bind_apply, h, hroom]

/-- Calls of clients from settings do the same if they do without a watch, and the watches
are the same. -/
theorem standard_run_congr {s' : Settings} {fuel' : Nat}
    (h : (unwatched t s').chain.around fuel' ((unwatched t s').unit op.call) noPage
        { world := w } =
      (unwatched t s).chain.around fuel ((unwatched t s).unit op.call) noPage { world := w })
    (hwatch : s'.watch t = s.watch t) (hroom : s'.room = s.room) :
    (standard t s').run fuel' op w = (standard t s).run fuel op w := by
  refine run_congr ?_ hroom
  show (s'.watch t).around ((unwatched t s').chain.around fuel' ((unwatched t s').unit op.call))
    noPage _ =
      (s.watch t).around ((unwatched t s).chain.around fuel ((unwatched t s).unit op.call)) noPage _
  rw [hwatch, QuotaWatch.around, QuotaWatch.around, Action.andFinally, Action.andFinally, h]

end Client

/-- The settings with other budgets. -/
def Settings.withBudgets (s : Settings) (attempts : Int) (pages : Option Nat) : Settings :=
  { s with retryAttempts := attempts, maxPages := pages }

/-- With a higher bound on pages, or with none, no fewer of them may be read. -/
theorem Settings.furtherPages_le_withBudgets {s : Settings} {pages : Option Nat} {fuel fuel' : Nat}
    (hmore : ∀ M', pages = some M' → ∃ M, s.maxPages = some M ∧ M ≤ M')
    (hfuel : s.furtherPages fuel ≤ fuel') (attempts : Int) :
    s.furtherPages fuel ≤ (s.withBudgets attempts pages).furtherPages fuel' := by
  cases pages with
  | none => exact hfuel
  | some M' =>
    obtain ⟨M, hM, hlimit⟩ := hmore M' rfl
    simp only [furtherPages, withBudgets, hM]
    exact Nat.sub_le_sub_right hlimit 1

namespace Client

/-- A call goes the same way with other budgets if it stays within both. -/
theorem run_withBudgets {attempts : Int} {pages : Option Nat} {fuel' k : Nat}
    (hattempts : attempts = s.retryAttempts ∨
      s.retryAttempts ≤ attempts ∧ ¬UsesUp t s fuel op w)
    (hk : k ≤ s.furtherPages fuel) (hk' : k ≤ (s.withBudgets attempts pages).furtherPages fuel')
    (hpages : ¬GoesPast t s fuel op w (k + 1)) :
    (standard t (s.withBudgets attempts pages)).run fuel' op w =
      (standard t s).run fuel op w := by
  refine standard_run_congr ?_ rfl rfl
  rcases h : (unwatched t s).chain.around fuel ((unwatched t s).unit op.call) noPage
    { world := w } with ⟨ending, st⟩
  rw [around_unwatched, Retry.attempt_eq_iff] at h ⊢
  refine h.of_start? (fun n hn st hst ↦ ?_) ?_ (s.withBudgets attempts pages).retry.further
  · have hahead : Pagination.ahead? ((unwatched t s).unit op.call) (k + 1) firstPage (st.cut 0) =
        none := by
      refine Option.eq_none_iff_forall_ne_some.mpr fun x hx ↦ hpages ?_
      refine ⟨n, Nat.lt_succ_of_le hn, Option.isSome_iff_exists.mpr ⟨x, ?_⟩⟩
      exact Option.bind_eq_some_iff.mpr ⟨st, hst, hx⟩
    rw [Settings.pagination_around, Settings.pagination_around]
    exact Pagination.follow_eq_of_ahead? hk hk' hahead
  · rcases hattempts with rfl | ⟨hle, hunspent⟩
    · exact .inl rfl
    · refine .inr ⟨?_, Option.not_isSome_iff_eq_none.mp hunspent⟩
      show (s.retryAttempts - 1).toNat ≤ (attempts - 1).toNat
      omega

/-- A call that ends stays within the pages that may be read, if it does not reach its bound. -/
theorem not_goesPast_of_ends (hbound : s.maxPages ≠ some 0)
    (hpages : ∀ M, s.maxPages = some M → ¬GoesPast t s fuel op w M)
    (hends : ((standard t s).run fuel op w).1 ≠ .unfinished) :
    ¬GoesPast t s fuel op w (s.furtherPages fuel + 1) := by
  cases hm : s.maxPages with
  | some M =>
    have hM : M ≠ 0 := by
      rintro rfl
      exact hbound hm
    simpa only [Settings.furtherPages, hm, Nat.sub_add_cancel (Nat.pos_of_ne_zero hM)]
      using hpages M hm
  | none =>
    rintro ⟨n, hn, hpage⟩
    obtain ⟨x, hx⟩ := Option.isSome_iff_exists.mp hpage
    obtain ⟨ending, haround, hend⟩ := around_of_page? hn rfl hx
    rw [hm] at hend
    subst hend
    have hwatched : (standard t s).chain.around fuel ((standard t s).unit op.call) noPage _ = _ :=
      (s.watch t).around_of_unfinished haround
    rw [run_of_unfinished hwatched] at hends
    exact hends rfl

/-- A call that ends, and that neither uses up its attempts nor goes past its bound on pages,
does the same with more attempts, and with a higher bound or none.  A call without a bound that
ends does the same with one that none of its attempts goes past. -/
theorem run_of_larger_budgets {c : Client σ} (hc : Client.ofSettings t s = .ok c) (op : Operation)
    (fuel : Nat) (w : World σ) (hends : (c.run fuel op w).1 ≠ .unfinished) :
    (¬UsesUp t s fuel op w → (∀ M, s.maxPages = some M → ¬GoesPast t s fuel op w M) →
      ∀ (attempts : Int) (pages : Option Nat), s.retryAttempts ≤ attempts →
        (∀ M', pages = some M' → ∃ M, s.maxPages = some M ∧ M ≤ M') →
        ∃ c', Client.ofSettings t (s.withBudgets attempts pages) = .ok c' ∧
          ∃ enough, ∀ fuel', enough ≤ fuel' → c'.run fuel' op w = c.run fuel op w) ∧
    (s.maxPages = none → ∀ M, M ≠ 0 → ¬GoesPast t s fuel op w M →
      ∃ c', Client.ofSettings t (s.withBudgets s.retryAttempts (some M)) = .ok c' ∧
        ∀ fuel', c'.run fuel' op w = c.run fuel op w) := by
  obtain ⟨hdelay, hbound, rfl⟩ := Client.ofSettings_eq_ok_iff.mp hc
  refine ⟨fun hunspent hpages attempts pages hle hmore ↦ ?_, fun hnone M hM hpages ↦ ?_⟩
  · have hwithin := not_goesPast_of_ends hbound hpages hends
    have hbound' : pages ≠ some 0 := by
      rintro rfl
      obtain ⟨M, hM, hzero⟩ := hmore 0 rfl
      exact hbound (Nat.le_zero.mp hzero ▸ hM)
    refine ⟨_, Client.ofSettings_eq_ok_iff.mpr ⟨hdelay, hbound', rfl⟩, s.furtherPages fuel,
      fun fuel' hfuel ↦ ?_⟩
    have hmost := Settings.furtherPages_le_withBudgets hmore hfuel attempts
    exact run_withBudgets (.inr ⟨hle, hunspent⟩) (Nat.le_refl _) hmost hwithin
  · have hwithin := not_goesPast_of_ends hbound (by simp [hnone]) hends
    have hfuel : s.furtherPages fuel = fuel := by rw [Settings.furtherPages, hnone]
    rw [hfuel] at hwithin
    refine ⟨_, Client.ofSettings_eq_ok_iff.mpr ⟨hdelay, fun h ↦ hM (Option.some.inj h), rfl⟩,
      fun fuel' ↦ ?_⟩
    -- Neither the fuel nor the new bound is reached, so the smaller of them is a budget for both.
    refine run_withBudgets (k := min fuel (M - 1)) (.inl rfl) ?_ (Nat.min_le_right ..) ?_
    · rw [hfuel]
      exact Nat.min_le_left ..
    · rcases Nat.le_total fuel (M - 1) with hle | hle
      · rwa [Nat.min_eq_left hle]
      · rwa [Nat.min_eq_right hle, Nat.sub_add_cancel (Nat.pos_of_ne_zero hM)]

end Client

theorem Ending.ne_unfinished {α : Type} {ending : Ending α} (h : ending.isFinished = true) :
    ending ≠ .unfinished := by
  rintro rfl
  cases h

/-- Settings for two attempts of two pages each. -/
def Settings.twoPages : Settings := { retryAttempts := 2, maxPages := some 2 }

/-- Settings for two attempts without a bound on pages. -/
def Settings.allPages : Settings := { retryAttempts := 2, maxPages := none }

/-- The second attempt of two succeeds at the second page of two. -/
theorem Client.flaky_run_of_larger_budgets :
    ((Client.standard .flaky .twoPages).run 0 .firstComments { machine := 0 }).2.machine = 5 ∧
    (∃ c', Client.ofSettings .flaky (Settings.twoPages.withBudgets 7 none) = .ok c' ∧
      ∃ enough, ∀ fuel', enough ≤ fuel' → c'.run fuel' .firstComments { machine := 0 } =
        (Client.standard .flaky .twoPages).run 0 .firstComments { machine := 0 }) ∧
    ∃ c', Client.ofSettings .flaky (Settings.allPages.withBudgets 2 (some 2)) = .ok c' ∧
      ∀ fuel', c'.run fuel' .firstComments { machine := 0 } =
        (Client.standard .flaky .allPages).run 5 .firstComments { machine := 0 } := by
  have hbounded : Client.ofSettings .flaky .twoPages = .ok (Client.standard .flaky .twoPages) :=
    Client.ofSettings_eq_ok_iff.mpr ⟨by decide, by decide, rfl⟩
  have hunbounded : Client.ofSettings .flaky .allPages = .ok (Client.standard .flaky .allPages) :=
    Client.ofSettings_eq_ok_iff.mpr ⟨by decide, by decide, rfl⟩
  refine ⟨by decide +kernel, ?_, ?_⟩
  · refine (Client.run_of_larger_budgets hbounded .firstComments 0 { machine := 0 } ?_).1
      (by decide +kernel) ?_ 7 none (by decide) nofun
    · exact Ending.ne_unfinished (by decide +kernel)
    · rintro M ⟨⟩
      decide +kernel
  · refine (Client.run_of_larger_budgets hunbounded .firstComments 5 { machine := 0 } ?_).2
      rfl 2 (by decide) (by decide +kernel)
    exact Ending.ne_unfinished (by decide +kernel)

end PullRelay
