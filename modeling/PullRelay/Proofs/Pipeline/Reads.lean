import Mathlib.Logic.Function.Iterate
import PullRelay.Proofs.Pipeline.Staging

/-!
# The reads of a pagination

A pagination reads one page after the other, and applies the result of each read before it
makes the next one.  What it does is told by the list of its reads (`Pagination.Reads`): the
first one is of the first page, each of the others is of the page that the read before it
named and starts in the state that applying this one left behind, and all but the last are
good and name a further page.

Nothing but the last read and the bound decide how the pagination ends
(`Pagination.around_reads_each_once`): at the first read that fails or names no further page
it ends with the result of that read, at the bound it fails with the page limit, and in both
cases nothing is left to apply.  Where results are all that stages items, the buffer holds
the items of all pages in the order of the reads.
-/

namespace PullRelay

variable {σ ι : Type}

/-- A cursor names the page that follows unless it is zero. -/
theorem Result.cursor?_eq_some_iff {r : Result σ ι} {next : Int} :
    r.cursor? = some next ↔ r.next = some next ∧ next ≠ 0 := by
  rw [cursor?, Option.filter_eq_some_iff, bne_iff_ne]

/-- Calling the work leaves the buffer alone.  Applying what it returns adds to the buffer. -/
structure Work.StagesWhenApplied (work : Work σ ι) : Prop where
  calls : ∀ {page s result s'}, work page s = (.returned result, s') → s'.staged = s.staged
  applies : work.Returns fun r ↦ r.apply.Appends

namespace Pagination

/-! ## Lists of reads -/

/-- A read: the page and the state in which the work is called, what it returns, the state
that the call leaves behind, how applying the result ends, and the state after that. -/
structure Read (σ ι : Type) where
  page : Int
  before : State σ ι
  result : Result σ ι
  called : State σ ι
  outcome : Ending Unit
  after : State σ ι

/-- The items of the page: what applying its result adds to the buffer. -/
def Read.items (x : Read σ ι) : List ι := x.after.staged.drop x.called.staged.length

/-- The result has been applied, carries no error, and names a further page. -/
structure Read.GoesOn (x : Read σ ι) : Prop where
  applied : x.outcome = .returned ()
  good : x.result.error = none
  named : ∃ next, x.result.next = some next ∧ next ≠ 0

/-- The reads from a page and a state on: those that are followed by another one, and the
last.  A result is applied once, right after the call that returned it, and the next call is
made for the page that it names, in the state that applying it left behind. -/
inductive Reads (inner : Work σ ι) :
    (page : Int) → (s : State σ ι) → (earlier : List (Read σ ι)) → (last : Read σ ι) → Prop
  | single {page s result s₁ outcome s'} (h : inner page s = (.returned result, s₁))
      (ha : result.apply s₁ = (outcome, s')) :
      Reads inner page s [] ⟨page, s, result, s₁, outcome, s'⟩
  | cons {page s result s₁ s₂ next earlier last} (h : inner page s = (.returned result, s₁))
      (ha : result.apply s₁ = (.returned (), s₂)) (he : result.error = none)
      (hn : result.next = some next) (hz : next ≠ 0)
      (rest : Reads inner next s₂ earlier last) :
      Reads inner page s (⟨page, s, result, s₁, .returned (), s₂⟩ :: earlier) last

variable {inner : Work σ ι}

/-- Work that returns is read until a read does not go on, or until so many have gone on. -/
theorem exists_reads (hreturns : ∀ page s, ∃ result s', inner page s = (.returned result, s'))
    (further : Nat) (page : Int) (s : State σ ι) :
    ∃ earlier last, Reads inner page s earlier last ∧ earlier.length ≤ further ∧
      (last.GoesOn → earlier.length = further) := by
  induction further generalizing page s with
  | zero =>
    obtain ⟨result, s₁, h⟩ := hreturns page s
    exact ⟨[], _, .single h rfl, Nat.le_refl 0, fun _ ↦ rfl⟩
  | succ further ih =>
    obtain ⟨result, s₁, h⟩ := hreturns page s
    rcases ha : result.apply s₁ with ⟨outcome, s₂⟩
    by_cases hlast : (⟨page, s, result, s₁, outcome, s₂⟩ : Read σ ι).GoesOn
    · obtain ⟨happlied, he, next, hn, hz⟩ := hlast
      obtain rfl : outcome = .returned () := happlied
      obtain ⟨earlier, last, hreads, hlength, hspent⟩ := ih next s₂
      refine ⟨_ :: earlier, last, .cons h ha he hn hz hreads, Nat.succ_le_succ hlength, ?_⟩
      intro hlast
      exact congrArg (· + 1) (hspent hlast)
    · exact ⟨[], _, .single h ha, Nat.zero_le _, fun hgoesOn ↦ absurd hgoesOn hlast⟩

variable {page : Int} {s : State σ ι} {earlier : List (Read σ ι)} {last : Read σ ι}

/-- The last read is a call of the work, and its result is applied right after the call. -/
theorem Reads.called_last (h : Reads inner page s earlier last) :
    inner last.page last.before = (.returned last.result, last.called) ∧
      last.result.apply last.called = (last.outcome, last.after) := by
  induction h with
  | single h ha => exact ⟨h, ha⟩
  | cons _ _ _ _ _ _ ih => exact ih

/-! ## What comes of them -/

/-- The pages that may be read after the first one.  Where there is no bound, the fuel says
how many. -/
def further (p : Pagination) (fuel : Nat) : Nat :=
  match p.bound? with
  | some n => n - 1
  | none => fuel

/-- How a pagination ends whose reads are these. -/
inductive Ends (p : Pagination) (fuel : Nat) (earlier : List (Read σ ι)) (last : Read σ ι) :
    Ending (Result σ ι) → Prop
  /-- The last page fails, or names no further one: its result, with nothing left to apply. -/
  | settled (hle : earlier.length ≤ p.further fuel) (happlied : last.outcome = .returned ())
      (hstop : ¬last.GoesOn) :
      Ends p fuel earlier last (.returned { last.result with apply := pure () })
  /-- The last page is the last one allowed, and names a further one. -/
  | limited {n} (hn : p.bound? = some n) (hspent : earlier.length = n - 1) (hlast : last.GoesOn) :
      Ends p fuel earlier last
        (.returned { last.result with apply := pure (), error := some (.pageLimit p.limit) })
  /-- There is no bound, and the fuel is used up. -/
  | spent (hn : p.bound? = none) (hspent : earlier.length = fuel) (hlast : last.GoesOn) :
      Ends p fuel earlier last .unfinished
  /-- Applying the last result raises something. -/
  | raised {f} (hle : earlier.length ≤ p.further fuel) (hraised : last.outcome = .raised f) :
      Ends p fuel earlier last (.raised f)
  | unfinished (hle : earlier.length ≤ p.further fuel) (hunfinished : last.outcome = .unfinished) :
      Ends p fuel earlier last .unfinished

/-- All reads there can be end somehow. -/
theorem exists_ends (p : Pagination) {fuel : Nat} (hle : earlier.length ≤ p.further fuel)
    (hspent : last.GoesOn → earlier.length = p.further fuel) :
    ∃ ending, p.Ends fuel earlier last ending := by
  by_cases hlast : last.GoesOn
  · have hspent := hspent hlast
    rcases hn : p.bound? with _ | n
    · rw [further, hn] at hspent
      exact ⟨_, .spent hn hspent hlast⟩
    · rw [further, hn] at hspent
      exact ⟨_, .limited hn hspent hlast⟩
  · rcases houtcome : last.outcome with _ | f | _
    · exact ⟨_, .settled hle houtcome hlast⟩
    · exact ⟨_, .raised hle houtcome⟩
    · exact ⟨_, .unfinished hle houtcome⟩

/-- A pagination goes through the reads that go on, and has as many fewer pages left. -/
theorem Reads.follow_eq (h : Reads inner page s earlier last)
    (atBound : Result σ ι → Action σ ι (Result σ ι)) (left : Nat) :
    follow inner atBound (earlier.length + left) page s =
      follow inner atBound left last.page last.before := by
  induction h with
  | single => rw [List.length_nil, Nat.zero_add]
  | @cons _ _ result _ _ next _ _ h ha he hn hz _ ih =>
    have hcursor : result.cursor? = some next := Result.cursor?_eq_some_iff.mpr ⟨hn, hz⟩
    rw [List.length_cons, Nat.add_right_comm, follow_of_applied h ha, he, hcursor]
    exact ih

/-- What is done where a page names a further one that may not be read. -/
def atBound (p : Pagination) (result : Result σ ι) : Action σ ι (Result σ ι) :=
  match p.bound? with
  | some _ => pure (result.settled.failing (.pageLimit p.limit))
  | none => Action.giveUp

theorem atBound_of_bounded {p : Pagination} {n : Nat} (hn : p.bound? = some n) :
    p.atBound = fun result : Result σ ι ↦ pure (result.settled.failing (.pageLimit p.limit)) := by
  funext result
  rw [atBound, hn]

theorem atBound_of_unbounded {p : Pagination} (hn : p.bound? = none) :
    p.atBound = fun _ : Result σ ι ↦ Action.giveUp := by
  funext result
  rw [atBound, hn]

theorem around_eq_follow (p : Pagination) (fuel : Nat) (inner : Work σ ι) (page : Int) :
    p.around fuel inner page = follow inner p.atBound (p.further fuel) firstPage := by
  unfold around further
  cases hn : p.bound? with
  | some n => rw [atBound_of_bounded hn]
  | none => rw [atBound_of_unbounded hn]

/-- A pagination that gets to its last read ends as the rest of it ends. -/
theorem Reads.around_eq (h : Reads inner firstPage s earlier last) {p : Pagination}
    {fuel left : Nat} (hleft : p.further fuel = earlier.length + left)
    {ending : Ending (Result σ ι)} {s' : State σ ι}
    (hlast : Follows inner p.atBound left last.page last.before ending s') (page : Int) :
    p.around fuel inner page s = (ending, s') := by
  rw [around_eq_follow, hleft, h.follow_eq, hlast.follow_eq]

/-- Where the last page allowed names a further one, the bound decides. -/
theorem Reads.around_of_goesOn (h : Reads inner firstPage s earlier last) {p : Pagination}
    {fuel : Nat} (hspent : p.further fuel = earlier.length) (hlast : last.GoesOn)
    {ending : Ending (Result σ ι)} {s' : State σ ι}
    (hbound : p.atBound last.result last.after = (ending, s')) (page : Int) :
    p.around fuel inner page s = (ending, s') := by
  obtain ⟨hcall, happly⟩ := h.called_last
  obtain ⟨happlied, he, next, hnext⟩ := hlast
  rw [happlied] at happly
  have hcursor : last.result.cursor? = some next := Result.cursor?_eq_some_iff.mpr hnext
  have hleft : p.further fuel = earlier.length + 0 := hspent
  exact h.around_eq hleft (.bound hcall happly he hcursor hbound) page

/-- The reads of a pagination and its bound decide how it ends. -/
theorem Reads.around_of_ends (h : Reads inner firstPage s earlier last) {p : Pagination}
    {fuel : Nat} {ending : Ending (Result σ ι)} (hends : p.Ends fuel earlier last ending)
    (page : Int) : p.around fuel inner page s = (ending, last.after) := by
  obtain ⟨hcall, happly⟩ := h.called_last
  have hleft (hle : earlier.length ≤ p.further fuel) := Nat.exists_eq_add_of_le hle
  cases hends with
  | settled hle happlied hstop =>
    obtain ⟨left, hleft⟩ := hleft hle
    rw [happlied] at happly
    refine h.around_eq hleft (.settled hcall happly fun he ↦ ?_) page
    refine Option.eq_none_iff_forall_ne_some.mpr fun next hnext ↦ hstop ⟨happlied, he, next, ?_⟩
    exact Result.cursor?_eq_some_iff.mp hnext
  | limited hn hspent hlast =>
    refine h.around_of_goesOn ?_ hlast ?_ page
    · rw [further, hn, hspent]
    · rw [atBound_of_bounded hn]
      rfl
  | spent hn hspent hlast =>
    refine h.around_of_goesOn ?_ hlast ?_ page
    · rw [further, hn, hspent]
    · rw [atBound_of_unbounded hn]
      rfl
  | raised hle hraised =>
    obtain ⟨left, hleft⟩ := hleft hle
    rw [hraised] at happly
    exact h.around_eq hleft (.applyRaised hcall happly) page
  | unfinished hle hunfinished =>
    obtain ⟨left, hleft⟩ := hleft hle
    rw [hunfinished] at happly
    exact h.around_eq hleft (.applyUnfinished hcall happly) page

/-- What a pagination returns has nothing left to apply. -/
theorem Ends.apply_eq {p : Pagination} {fuel : Nat} {result : Result σ ι}
    (h : p.Ends fuel earlier last (.returned result)) : result.apply = pure () := by
  cases h with
  | settled | limited => rfl

/-- The buffer holds what was there at entry, and the items of all pages after that, in the
order of the reads. -/
theorem Reads.staged (h : Reads inner page s earlier last) (hstages : inner.StagesWhenApplied) :
    last.after.staged = s.staged ++ (earlier ++ [last]).flatMap Read.items := by
  have happlied {page : Int} {s s₁ s₂ : State σ ι} {result : Result σ ι} {outcome : Ending Unit}
      (h : inner page s = (.returned result, s₁)) (ha : result.apply s₁ = (outcome, s₂)) :
      s₂.staged = s.staged ++ Read.items ⟨page, s, result, s₁, outcome, s₂⟩ := by
    have hadded := hstages.applies h s₁
    rw [ha] at hadded
    rw [Read.items, ← hstages.calls h]
    exact (List.prefix_iff_eq_append.mp hadded).symm
  induction h with
  | single h ha => simpa using happlied h ha
  | cons h ha he hn hz _ ih =>
    rw [ih, happlied h ha, List.cons_append, List.flatMap_cons, List.append_assoc]

/-! ## Runs of a pagination -/

/-- Around work that returns, a pagination reads the first page, whatever page it is run for,
and then the pages that are named one by the other, each result applied once and before the next
call.  Its reads and its bound decide how it ends, and what it returns may be applied again any
number of times.  If results stage items and nothing else does, the items of all pages stand in
the buffer, in order and after those that were there at entry. -/
theorem around_reads_each_once {inner : Work σ ι}
    (hreturns : ∀ page s, ∃ result s', inner page s = (.returned result, s'))
    (p : Pagination) (fuel : Nat) (s : State σ ι) :
    (∃ earlier last ending, Reads inner firstPage s earlier last ∧
      p.Ends fuel earlier last ending) ∧
    ∀ earlier last ending, Reads inner firstPage s earlier last →
      p.Ends fuel earlier last ending →
      (∀ page, p.around fuel inner page s = (ending, last.after)) ∧
      (∀ result, ending = .returned result → ∀ n t, (fun t ↦ (result.apply t).2)^[n] t = t) ∧
      (inner.StagesWhenApplied →
        last.after.staged = s.staged ++ (earlier ++ [last]).flatMap Read.items) := by
  constructor
  · obtain ⟨earlier, last, hreads, hle, hspent⟩ :=
      exists_reads hreturns (p.further fuel) firstPage s
    obtain ⟨ending, hends⟩ := p.exists_ends hle hspent
    exact ⟨earlier, last, ending, hreads, hends⟩
  · intro earlier last ending hreads hends
    refine ⟨hreads.around_of_ends hends, ?_, hreads.staged⟩
    rintro result rfl n t
    rw [hends.apply_eq]
    exact Function.iterate_fixed rfl n

/-- Work that answers each page with its number, and names the page after it. -/
def counting : Work Nat Int := fun page s ↦
  (.returned { apply := Action.stage [page], status := 200, next := some (page + 1) },
    { s with world := { s.world with machine := s.world.machine + 1 } })

/-- Three pages may be read, and their numbers stand after what was staged before. -/
theorem counting_reads_each_once :
    (∀ page s, ∃ result s', counting page s = (.returned result, s')) ∧
    counting.StagesWhenApplied ∧
    let s : State Nat Int := { world := { machine := 0 }, staged := [0] }
    (∃ earlier last ending, Reads counting firstPage s earlier last ∧
      (atMost 3).Ends 0 earlier last ending ∧
      (∀ page, (atMost 3).around 0 counting page s = (ending, last.after)) ∧
      last.after.staged = [0] ++ (earlier ++ [last]).flatMap Read.items) ∧
    ((atMost 3).around 0 counting 7 s).2.staged = [0, 1, 2, 3] := by
  have hreturns (page : Int) (s : State Nat Int) :
      ∃ result s', counting page s = (.returned result, s') := ⟨_, _, rfl⟩
  have hstages : counting.StagesWhenApplied := by
    constructor
    · rintro page s result s' ⟨⟩
      rfl
    · rintro page s result s' ⟨⟩
      exact Action.appends_stage [page]
  obtain ⟨⟨earlier, last, ending, hreads, hends⟩, hruns⟩ :=
    around_reads_each_once hreturns (atMost 3) 0 { world := { machine := 0 }, staged := [0] }
  obtain ⟨haround, -, hstaged⟩ := hruns earlier last ending hreads hends
  exact ⟨hreturns, hstages, ⟨earlier, last, ending, hreads, hends, haround, hstaged hstages⟩,
    by decide +kernel⟩

end Pagination

end PullRelay
