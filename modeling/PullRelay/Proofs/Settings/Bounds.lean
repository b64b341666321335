import Mathlib.Algebra.Order.Field.Power
import Mathlib.Algebra.Order.Ring.Rat
import Mathlib.Tactic.Positivity
import PullRelay.Proofs.Pipeline.Additions
import PullRelay.Proofs.Settings.Numbers

/-!
# Bounds of the settings

Settings that are read have a page size from one on, a bound on pages from one on if there is
one, and neither a pause nor a timeout below zero.  That is not to say that both are at least
zero: a variable may hold `nan`, which is not below zero and not above it either, and is let
through (`Settings.bounds_of_ofEnv`).  A retry pauses for as long as the settings say, whatever
that is.
-/

namespace PullRelay

/-- The number is zero or above it.  What is no number is not. -/
def Binary64.IsNonneg : Binary64 → Prop
  | .nan => False
  | .infinite negative => negative = false
  | .finite negative s e => 0 ≤ (if negative then -1 else 1) * ((s : ℚ) * 2 ^ e)

/-- What is not below zero is at least zero, or no number. -/
theorem Binary64.isNonneg_iff {x : Binary64} : x.IsNonneg ↔ ¬x.IsNegative ∧ x ≠ .nan := by
  cases x with
  | nan => simp [IsNonneg]
  | infinite negative =>
    cases negative with
    | false => exact ⟨fun _ ↦ ⟨nofun, nofun⟩, fun _ ↦ rfl⟩
    | true => exact ⟨nofun, fun h ↦ absurd .infinite h.1⟩
  | finite negative s e =>
    have hvalue : (0 : ℚ) ≤ (s : ℚ) * 2 ^ e := by positivity
    cases negative with
    | false =>
      refine ⟨fun _ ↦ ⟨nofun, nofun⟩, fun _ ↦ ?_⟩
      simpa only [IsNonneg, Bool.false_eq_true, if_false, one_mul] using hvalue
    | true =>
      -- Zero with a minus is zero.
      have hiff : IsNonneg (.finite true s e) ↔ s = 0 := by
        have hpower : (2 : ℚ) ^ e ≠ 0 := by positivity
        simp only [IsNonneg, if_true, neg_one_mul, neg_nonneg]
        rw [hvalue.ge_iff_eq', mul_eq_zero, or_iff_left hpower, Nat.cast_eq_zero]
      rw [hiff]
      refine ⟨?_, fun h ↦ Nat.eq_zero_of_not_pos fun hs ↦ h.1 (.finite hs)⟩
      rintro rfl
      exact ⟨fun h ↦ by cases h; omega, nofun⟩

theorem Binary64.ofRatio_ne_nan {negative : Bool} {num den : Nat} :
    ofRatio negative num den ≠ .nan := by
  unfold ofRatio zero
  dsimp only
  repeat' split
  all_goals exact nofun

/-- Ratios without a minus are zero or above it. -/
theorem Binary64.isNonneg_ofRatio {num den : Nat} : (ofRatio false num den).IsNonneg := by
  refine isNonneg_iff.mpr ⟨?_, ofRatio_ne_nan⟩
  unfold ofRatio zero
  dsimp only
  repeat' split
  all_goals exact nofun

theorem Binary64.ofDecimal_ne_nan {negative : Bool} {digits : Nat} {exponent : Int} :
    ofDecimal negative digits exponent ≠ .nan := by
  unfold ofDecimal
  repeat' split
  all_goals first | exact ofRatio_ne_nan | exact nofun

namespace Numeral

variable {s : String} {x y : Binary64}

theorem SpellsReal.eq (h : SpellsReal s x) (h' : SpellsReal s y) : x = y :=
  Option.some.inj ((readReal?_eq_some_iff.mpr h).symm.trans (readReal?_eq_some_iff.mpr h'))

/-- The text is `nan`, in letters of either case and with or without a sign. -/
def NamesNaN (s : String) : Prop := ∃ negative cs, Holds s negative cs ∧ IsNamed "nan" cs

/-- No other numeral stands for what is no number. -/
theorem spellsReal_nan_iff : SpellsReal s .nan ↔ NamesNaN s := by
  constructor
  · rintro ⟨negative, cs, hholds, hreal⟩
    cases hreal with
    | nan h => exact ⟨negative, cs, hholds, h⟩
    | decimal h =>
      generalize hx : Binary64.nan = x at h
      cases h with
      | mk => exact absurd hx.symm Binary64.ofDecimal_ne_nan
  · rintro ⟨negative, cs, hholds, h⟩
    exact ⟨negative, cs, hholds, .nan h⟩

end Numeral

namespace Environment

variable {env : Environment} {name : String}

/-- The variable holds what is no number, and says so. -/
def HoldsNaN (env : Environment) (name : String) : Prop :=
  ∃ given, env.Holds name given ∧ Numeral.NamesNaN given

/-- A whole number that is let through is within its bound, if the default is. -/
theorem Gives.le {default least n : Int} (h : env.Gives Numeral.SpellsInt name default n)
    (hgood : ¬env.IsBad (name, .whole (some least))) (hdefault : least ≤ default) : least ≤ n := by
  rcases h with ⟨given, hgiven, hspells⟩ | ⟨-, rfl⟩
  · rw [hgiven.isBad_iff, not_not] at hgood
    obtain ⟨m, hm, hleast⟩ := hgood
    cases (Numeral.readInt_eq_ok_iff.mpr hm).symm.trans (Numeral.readInt_eq_ok_iff.mpr hspells)
    exact hleast least rfl
  · exact hdefault

section Real

variable {default x : Binary64} (h : env.Gives Numeral.SpellsReal name default x)
  (hdefault : default.IsNonneg)
include h hdefault

/-- Nothing but its name gives what is no number. -/
theorem Gives.eq_nan_iff : x = .nan ↔ env.HoldsNaN name := by
  constructor
  · rintro rfl
    rcases h with ⟨given, hgiven, hspells⟩ | ⟨-, rfl⟩
    · exact ⟨given, hgiven, Numeral.spellsReal_nan_iff.mp hspells⟩
    · exact hdefault.elim
  · rintro ⟨given, hgiven, hnan⟩
    rcases h with ⟨given', hgiven', hspells⟩ | ⟨hnone, -⟩
    · cases hgiven.eq hgiven'
      exact hspells.eq (Numeral.spellsReal_nan_iff.mpr hnan)
    · exact absurd hgiven (hnone given)

/-- A real number that is let through is at least zero, unless it is none. -/
theorem Gives.isNonneg_iff (hgood : ¬env.IsBad (name, .real)) :
    x.IsNonneg ↔ ¬env.HoldsNaN name := by
  have hnegative : ¬x.IsNegative := by
    rcases h with ⟨given, hgiven, hspells⟩ | ⟨-, rfl⟩
    · rw [hgiven.isBad_iff, not_not] at hgood
      obtain ⟨y, hy, hnegative⟩ := hgood
      rwa [hspells.eq hy]
    · exact (Binary64.isNonneg_iff.mp hdefault).1
  rw [Binary64.isNonneg_iff, ← h.eq_nan_iff hdefault]
  exact ⟨And.right, fun hne ↦ ⟨hnegative, hne⟩⟩

end Real

end Environment

/-- If the event is a pause, it is one of this length. -/
def Event.PausesFor (delay : Binary64) (e : Event) : Prop := ∀ d ∈ e.pause?, d = delay

/-- Settings that are read are within their bounds, unless a variable holds `nan`: then the
pause, or the timeout, is no number.  The retry of these settings pauses for as long as they say,
around any work that makes no other pauses, and so does every call of their client. -/
theorem Settings.bounds_of_ofEnv {env : Environment} {s : Settings} (h : ofEnv env = .ok s) :
    1 ≤ s.perPage ∧ (∀ n ∈ s.maxPages, 1 ≤ n) ∧
    (s.retryDelay.IsNonneg ↔ ¬env.HoldsNaN "PR_BOT_RETRY_DELAY_S") ∧
    (s.retryDelay = .nan ↔ env.HoldsNaN "PR_BOT_RETRY_DELAY_S") ∧
    (s.timeout.IsNonneg ↔ ¬env.HoldsNaN "PR_BOT_HTTP_TIMEOUT_S") ∧
    (s.timeout = .nan ↔ env.HoldsNaN "PR_BOT_HTTP_TIMEOUT_S") ∧
    ∀ {σ : Type} (t : Transport σ), ∃ c q r p, Client.ofEnv t env = .ok c ∧
      c.chain = [.quota q, .retry r, .pagination p] ∧
      (∀ {ι : Type} (inner : Work σ ι), inner.Adds (Event.PausesFor s.retryDelay) →
        (r.around inner).Adds (Event.PausesFor s.retryDelay)) ∧
      ∀ fuel op (w : World σ), w.Extends (Event.PausesFor s.retryDelay) (c.run fuel op w).2 := by
  have hreads := reads_ofEnv env
  rw [h] at hreads
  cases hreads with
  | ok hgood hfollows =>
    refine ⟨hfollows.perPage.le (hgood _ (by simp [numbers])) (by decide), ?_,
      hfollows.retryDelay.isNonneg_iff Binary64.isNonneg_ofRatio (hgood _ (by simp [numbers])),
      hfollows.retryDelay.eq_nan_iff Binary64.isNonneg_ofRatio,
      hfollows.timeout.isNonneg_iff Binary64.isNonneg_ofRatio (hgood _ (by simp [numbers])),
      hfollows.timeout.eq_nan_iff Binary64.isNonneg_ofRatio, fun {σ} t ↦ ?_⟩
    · obtain ⟨n, -, hmaxPages⟩ := hfollows.maxPages
      rw [hmaxPages]
      split
      · nofun
      · rintro _ ⟨⟩
        omega
    · have hpause : Event.PausesFor s.retryDelay (.slept s.retryDelay) := by
        rintro _ ⟨⟩
        rfl
      refine ⟨Client.standard t s, s.watch t, s.retry, s.pagination,
        by rw [Client.ofEnv_eq, h]; rfl, rfl, fun inner hinner ↦ ?_, fun fuel op w ↦ ?_⟩
      · exact Retry.adds_around hinner hpause
      · exact Client.extends_standard_run (fun _ ↦ nofun) nofun hpause (fun _ ↦ nofun) fuel w

/-- A timeout that is no number, with blanks and a sign. -/
def untimed : Environment :=
  [("PR_BOT_RETRY_DELAY_S", " 0.5 "), ("PR_BOT_HTTP_TIMEOUT_S", " -NaN"), ("PR_BOT_MAX_PAGES", "0")]

/-- The timeout is let through, and everything else is within its bounds. -/
theorem Settings.untimed_bounds_of_ofEnv : ∃ s, ofEnv untimed = .ok s ∧ 1 ≤ s.perPage ∧
    s.maxPages = none ∧ s.retryDelay.IsNonneg ∧ untimed.HoldsNaN "PR_BOT_HTTP_TIMEOUT_S" ∧
    ¬s.timeout.IsNonneg := by
  cases hs : ofEnv untimed with
  | error fault =>
    have hisOk : (ofEnv untimed).isOk = true := by decide +kernel
    rw [hs] at hisOk
    cases hisOk
  | ok s =>
    have hread {α : Type} (f : Settings → α) : (ofEnv untimed).toOption.map f = some (f s) := by
      rw [hs]
      rfl
    have hpages : s.maxPages = none := Option.some.inj ((hread maxPages).symm.trans (by decide))
    have hdelay : some s.retryDelay ≠ some .nan := by
      rw [← hread retryDelay]
      decide +kernel
    have htimeout : s.timeout = .nan := Option.some.inj ((hread timeout).symm.trans (by decide))
    obtain ⟨hperPage, -, hdelayIff, hdelayNaN, htimeoutIff, htimeoutNaN, -⟩ := bounds_of_ofEnv hs
    refine ⟨s, rfl, hperPage, hpages, hdelayIff.mpr ?_, htimeoutNaN.mp htimeout, ?_⟩
    · exact fun hnan ↦ hdelay (congrArg some (hdelayNaN.mpr hnan))
    · exact fun hnonneg ↦ htimeoutIff.mp hnonneg (htimeoutNaN.mp htimeout)

/-- A pause of `nan` seconds is let through, and it is not at least zero. -/
theorem Settings.ofEnv_not_bounded : ¬∀ (env : Environment) (s : Settings), ofEnv env = .ok s →
    1 ≤ s.perPage ∧ (∀ n ∈ s.maxPages, 1 ≤ n) ∧ s.retryDelay.IsNonneg ∧ s.timeout.IsNonneg := by
  intro h
  have hdelay : (ofEnv [("PR_BOT_RETRY_DELAY_S", "nan")]).toOption.map retryDelay = some .nan := by
    decide +kernel
  cases hs : ofEnv [("PR_BOT_RETRY_DELAY_S", "nan")] with
  | error fault =>
    rw [hs] at hdelay
    cases hdelay
  | ok s =>
    rw [hs] at hdelay
    have hnonneg := (h _ s hs).2.2.1
    rw [show s.retryDelay = .nan from Option.some.inj hdelay] at hnonneg
    exact hnonneg

end PullRelay
