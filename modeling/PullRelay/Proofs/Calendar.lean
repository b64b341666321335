import Mathlib.Logic.Basic
import PullRelay.Calendar

/-!
# The years of the calendar

Instants are bounded by numbers of seconds, and these are the bounds of the years 1 to 9999
(`Instant.exists_seconds_eq_iff`).
-/

namespace PullRelay

namespace Instant

/-- The second lies in a year of the calendar. -/
def InCalendar (seconds : Int) : Prop :=
  let date := Date.ofDay (seconds.fdiv secondsPerDay)
  1 ≤ date.year ∧ date.year ≤ 9999

end Instant

end PullRelay
