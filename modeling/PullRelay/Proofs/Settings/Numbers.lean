import PullRelay.Proofs.Command.Conclusions
import PullRelay.Proofs.Number.Reals
import PullRelay.Proofs.Settings.Blanks
import PullRelay.Rehearsal

/-!
# Numbers in the environment

Six variables hold numbers (`Settings.numbers`).  They are read one after the other, and the
first one that holds something else is reported by its name; without such a variable there are
settings (`Settings.reads_ofEnv`).  A client can be built from all settings that are read, for
the checks of its layers ask for no more than those of the variables
(`Client.ofEnv_reads_numbers`).
-/

namespace PullRelay

/-! ## What a variable may hold -/

/-- The number is below zero.  A zero is not, whatever its sign. -/
inductive Binary64.IsNegative : Binary64 → Prop
  | infinite : IsNegative (.infinite true)
  | finite {s e} (h : 0 < s) : IsNegative (.finite true s e)

/-- The whole part of a whole number is zero just if the number is. -/
theorem Binary64.wholePart_pos_iff {s : Nat} {e : Int} (h : isWhole s e = true) :
    0 < wholePart s e ↔ 0 < s := by
  unfold wholePart
  split
  · exact Nat.mul_pos_iff_of_pos_right (Nat.pow_pos (by decide))
  next he =>
    have hdvd : Nat.pow 2 (-e).toNat ∣ s := by
      have hmod : s % Nat.pow 2 (-e).toNat = 0 := by simpa [isWhole, he] using h
      exact Nat.dvd_of_mod_eq_zero hmod
    rw [Nat.div_pos_iff]
    refine ⟨fun hpos ↦ Nat.lt_of_lt_of_le hpos.1 hpos.2, fun hs ↦ ?_⟩
    exact ⟨Nat.pow_pos (by decide), Nat.le_of_dvd hs hdvd⟩

theorem Binary64.belowInt_zero_iff {x : Binary64} : x.belowInt 0 = true ↔ x.IsNegative := by
  cases x with
  | nan => exact ⟨nofun, nofun⟩
  | infinite negative =>
    cases negative with
    | false => exact ⟨nofun, nofun⟩
    | true => exact ⟨fun _ ↦ .infinite, fun _ ↦ rfl⟩
  | finite negative s e =>
    cases negative with
    | false =>
      have hnot : ¬(wholePart s e : Int) < 0 := by omega
      refine ⟨fun h ↦ absurd ?_ hnot, nofun⟩
      simpa only [belowInt, decide_eq_true_iff] using h
    | true =>
      have hiff : belowInt (.finite true s e) 0 = true ↔ 0 < s := by
        dsimp only [belowInt]
        by_cases h : isWhole s e = true
        · rw [if_pos h, decide_eq_true_iff, ← wholePart_pos_iff h]
          omega
        · have hs : 0 < s := by
            refine Nat.pos_of_ne_zero ?_
            rintro rfl
            simp [isWhole] at h
          rw [if_neg h, decide_eq_true_iff]
          omega
      rw [hiff]
      refine ⟨.finite, ?_⟩
      rintro ⟨⟩
      assumption

/-- The kinds of numbers in the environment. -/
inductive NumberKind where
  /-- A whole number, not below a bound if there is one. -/
  | whole (least? : Option Int)
  /-- A real number, not below zero. -/
  | real

/-- The texts that are accepted. -/
def NumberKind.Accepts : NumberKind → String → Prop
  | .whole least?, given => ∃ n, Numeral.SpellsInt given n ∧ ∀ least ∈ least?, least ≤ n
  | .real, given => ∃ x, Numeral.SpellsReal given x ∧ ¬x.IsNegative

namespace Environment

/-- The variable holds this text, which is not empty, apart from blanks around it. -/
def Holds (env : Environment) (name given : String) : Prop :=
  given ≠ "" ∧ ∃ raw, env.lookup name = some raw ∧ Text.strip raw = given

/-- The variable holds something that is not accepted. -/
def IsBad (env : Environment) (v : String × NumberKind) : Prop :=
  ∃ given, env.Holds v.1 given ∧ ¬v.2.Accepts given

/-- The variable holds what spells the number, or it holds nothing and the number is the
default. -/
def Gives {α : Type} (env : Environment) (spells : String → α → Prop) (name : String)
    (default a : α) : Prop :=
  (∃ given, env.Holds name given ∧ spells given a) ∨ (∀ given, ¬env.Holds name given) ∧ a = default

theorem stripped?_eq_some_iff {env : Environment} {name given : String} :
    env.stripped? name = some given ↔ env.Holds name given := by
  rw [stripped?_eq, Option.filter_eq_some_iff, Option.map_eq_some_iff, Holds, and_comm]
  simp

end Environment

/-- The fault is one of a value, and its wording begins with the name. -/
def Fault.Names (fault : Fault) (name : String) : Prop :=
  fault.family = .value ∧ ∃ rest, fault.message = name ++ rest

section Names

variable (name given : String)

theorem Fault.names_settingNotInteger : (settingNotInteger name given).Names name :=
  ⟨rfl, _, String.append_assoc ..⟩

theorem Fault.names_settingNotNumber : (settingNotNumber name given).Names name :=
  ⟨rfl, _, String.append_assoc ..⟩

theorem Fault.names_settingBelow (least : Int) : (settingBelow name least given).Names name := by
  refine ⟨rfl, " must be >= " ++ toString least ++ ", got " ++ Text.quoted given, ?_⟩
  unfold message
  dsimp only
  simp only [String.append_assoc]

end Names

/-! ## Reading in order -/

/-- How variables are read one after the other: if none of them is bad, `P` is true of what is
read, and otherwise the first bad one is named. -/
inductive Environment.Reads (env : Environment) {α : Type} (P : α → Prop)
    (vs : List (String × NumberKind)) : Except Fault α → Prop
  | ok {a} (hgood : ∀ v ∈ vs, ¬env.IsBad v) (h : P a) : Reads env P vs (.ok a)
  | error {before v after fault} (hvs : vs = before ++ v :: after)
      (hgood : ∀ u ∈ before, ¬env.IsBad u) (hbad : env.IsBad v) (hnames : fault.Names v.1) :
      Reads env P vs (.error fault)

namespace Environment

variable {env : Environment} {name : String}

theorem Reads.bind {α β : Type} {P : α → Prop} {Q : β → Prop} {v : String × NumberKind}
    {vs : List (String × NumberKind)} {x : Except Fault α} {f : α → Except Fault β}
    (hx : env.Reads P [v] x) (hf : ∀ a, P a → env.Reads Q vs (f a)) :
    env.Reads Q (v :: vs) (x >>= f) := by
  cases hx with
  | @ok a hgood h =>
    have hv := hgood v List.mem_cons_self
    rcases hfa : f a with fault | b
    all_goals
      have hrest := hf a h
      rw [hfa] at hrest
      rw [show (.ok a >>= f) = _ from hfa]
    · cases hrest with
      | error hvs hgood hbad hnames =>
        exact .error (congrArg (v :: ·) hvs) (List.forall_mem_cons.mpr ⟨hv, hgood⟩) hbad hnames
    · cases hrest with
      | ok hgood h => exact .ok (List.forall_mem_cons.mpr ⟨hv, hgood⟩) h
  | @error before u after fault hvs hgood hbad hnames =>
    have hall : v :: vs = before ++ u :: (after ++ vs) := by
      rw [← List.cons_append, ← List.append_assoc, ← hvs]
      rfl
    exact .error hall hgood hbad hnames

section Variable

variable {kind : NumberKind} {given : String}

theorem Holds.eq {given' : String} (h : env.Holds name given) (h' : env.Holds name given') :
    given = given' :=
  Option.some.inj ((stripped?_eq_some_iff.mpr h).symm.trans (stripped?_eq_some_iff.mpr h'))

theorem Holds.isBad_iff (h : env.Holds name given) :
    env.IsBad (name, kind) ↔ ¬kind.Accepts given := by
  refine ⟨fun ⟨given', h', hbad⟩ ↦ ?_, fun hbad ↦ ⟨given, h, hbad⟩⟩
  rw [h.eq h']
  exact hbad

/-- A variable that holds nothing is not bad, and gives the default. -/
theorem reads_default {α : Type} {P : α → Prop} {default : α} (hnone : env.stripped? name = none)
    (h : (∀ given, ¬env.Holds name given) → P default) :
    env.Reads P [(name, kind)] (.ok default) := by
  have hholds (given) : ¬env.Holds name given := by
    rw [← stripped?_eq_some_iff, hnone]
    nofun
  refine .ok ?_ (h hholds)
  intro v hv ⟨given, hgiven, _⟩
  cases List.mem_singleton.mp hv
  exact hholds given hgiven

/-- A variable that holds what is accepted is not bad. -/
theorem Holds.reads_ok {α : Type} {P : α → Prop} {a : α} (hgiven : env.Holds name given)
    (haccepts : kind.Accepts given) (h : P a) : env.Reads P [(name, kind)] (.ok a) := by
  refine .ok ?_ h
  intro v hv
  cases List.mem_singleton.mp hv
  rw [hgiven.isBad_iff, not_not]
  exact haccepts

/-- A variable that holds anything else is reported. -/
theorem Holds.reads_error {α : Type} {P : α → Prop} {fault : Fault}
    (hgiven : env.Holds name given) (haccepts : ¬kind.Accepts given) (hnames : fault.Names name) :
    env.Reads P [(name, kind)] (.error fault) :=
  .error (List.nil_append _).symm (by simp) (hgiven.isBad_iff.mpr haccepts) hnames

end Variable

theorem reads_whole {default : Int} {least? : Option Int}
    (hdefault : ∀ least ∈ least?, least ≤ default) :
    env.Reads (fun n ↦ env.Gives Numeral.SpellsInt name default n ∧ ∀ least ∈ least?, least ≤ n)
      [(name, .whole least?)] (env.whole name default least?) := by
  unfold whole
  split
  next hnone => exact reads_default hnone fun hholds ↦ ⟨.inr ⟨hholds, rfl⟩, hdefault⟩
  next given hgiven =>
    have hholds := stripped?_eq_some_iff.mp hgiven
    cases hread : Numeral.readInt given with
    | error _ =>
      refine hholds.reads_error ?_ ?_
      · rintro ⟨n, hn, -⟩
        cases hread.symm.trans (Numeral.readInt_eq_ok_iff.mpr hn)
      · exact Fault.names_settingNotInteger name given
    | ok n =>
      have hspells := Numeral.readInt_eq_ok_iff.mp hread
      cases least? with
      | none => exact hholds.reads_ok ⟨n, hspells, nofun⟩ ⟨.inl ⟨given, hholds, hspells⟩, nofun⟩
      | some least =>
        dsimp only
        split
        next hbelow =>
          refine hholds.reads_error ?_ ?_
          · rintro ⟨m, hm, hleast⟩
            cases hread.symm.trans (Numeral.readInt_eq_ok_iff.mpr hm)
            exact absurd (hleast least rfl) (Int.not_le.mpr hbelow)
          · exact Fault.names_settingBelow name given least
        next hleast =>
          have hbound : ∀ least' ∈ some least, least' ≤ n := by
            rintro _ ⟨⟩
            exact Int.not_lt.mp hleast
          exact hholds.reads_ok ⟨n, hspells, hbound⟩ ⟨.inl ⟨given, hholds, hspells⟩, hbound⟩

/-- A number is what is read. -/
theorem Gives.whole_eq {default n : Int} (h : env.Gives Numeral.SpellsInt name default n) :
    env.whole name default none = .ok n := by
  unfold whole
  rcases h with ⟨given, hgiven, hspells⟩ | ⟨hnone, rfl⟩
  · simp only [stripped?_eq_some_iff.mpr hgiven, Numeral.readInt_eq_ok_iff.mpr hspells]
  · have hstripped : env.stripped? name = none :=
      Option.eq_none_iff_forall_ne_some.mpr fun given hgiven ↦
        hnone given (stripped?_eq_some_iff.mp hgiven)
    simp only [hstripped]

theorem reads_real {default : Binary64} :
    env.Reads (env.Gives Numeral.SpellsReal name default)
      [(name, .real)] (env.real name default) := by
  unfold real
  split
  next hnone => exact reads_default hnone fun hholds ↦ .inr ⟨hholds, rfl⟩
  next given hgiven =>
    have hholds := stripped?_eq_some_iff.mp hgiven
    split
    next hread =>
      refine hholds.reads_error ?_ ?_
      · rintro ⟨x, hx, -⟩
        cases hread.symm.trans (Numeral.readReal?_eq_some_iff.mpr hx)
      · exact Fault.names_settingNotNumber name given
    next x hread =>
      have hspells := Numeral.readReal?_eq_some_iff.mp hread
      split
      next hbelow =>
        refine hholds.reads_error ?_ ?_
        · rintro ⟨y, hy, hnegative⟩
          cases hread.symm.trans (Numeral.readReal?_eq_some_iff.mpr hy)
          exact hnegative (Binary64.belowInt_zero_iff.mp hbelow)
        · exact Fault.names_settingBelow name given 0
      next hbelow =>
        rw [Binary64.belowInt_zero_iff] at hbelow
        exact hholds.reads_ok ⟨x, hspells, hbelow⟩ (.inl ⟨given, hholds, hspells⟩)

end Environment

/-! ## Settings -/

/-- The variables that hold numbers, in the order in which they are read. -/
def Settings.numbers : List (String × NumberKind) :=
  [("PR_BOT_MAX_PAGES", .whole (some 0)), ("PR_BOT_RETRY_ATTEMPTS", .whole none),
    ("PR_BOT_RETRY_DELAY_S", .real), ("PR_BOT_RATE_LIMIT_THRESHOLD", .whole none),
    ("PR_BOT_PER_PAGE", .whole (some 1)), ("PR_BOT_HTTP_TIMEOUT_S", .real)]

/-- The numbers among the settings are those of the environment.  A bound of zero pages is
none. -/
structure Settings.Follows (s : Settings) (env : Environment) : Prop where
  maxPages : ∃ n : Nat, env.Gives Numeral.SpellsInt "PR_BOT_MAX_PAGES" 100 n ∧
    s.maxPages = if n = 0 then none else some n
  retryAttempts : env.Gives Numeral.SpellsInt "PR_BOT_RETRY_ATTEMPTS" 3 s.retryAttempts
  retryDelay : env.Gives Numeral.SpellsReal "PR_BOT_RETRY_DELAY_S" (.ofRatio false 2 1) s.retryDelay
  rateLimitThreshold :
    env.Gives Numeral.SpellsInt "PR_BOT_RATE_LIMIT_THRESHOLD" 100 s.rateLimitThreshold
  perPage : env.Gives Numeral.SpellsInt "PR_BOT_PER_PAGE" 100 s.perPage
  timeout : env.Gives Numeral.SpellsReal "PR_BOT_HTTP_TIMEOUT_S" (.ofRatio false 15 1) s.timeout

/-- Settings are read number by number. -/
theorem Settings.reads_ofEnv (env : Environment) :
    env.Reads (Settings.Follows · env) numbers (ofEnv env) := by
  unfold ofEnv numbers
  refine (Environment.reads_whole (by decide)).bind fun maxPages hmaxPages ↦
    (Environment.reads_whole (by decide)).bind fun attempts hattempts ↦
    Environment.reads_real.bind fun delay hdelay ↦
    (Environment.reads_whole (by decide)).bind fun threshold hthreshold ↦
    (Environment.reads_whole (by decide)).bind fun perPage hperPage ↦
    Environment.reads_real.bind fun timeout htimeout ↦ .ok (by simp) ?_
  obtain ⟨n, rfl⟩ := Int.eq_ofNat_of_zero_le (hmaxPages.2 0 rfl)
  refine ⟨⟨n, hmaxPages.1, ?_⟩, hattempts.1, hdelay, hthreshold.1, hperPage.1, htimeout⟩
  dsimp only
  split
  next hzero => rw [if_pos (by omega)]
  next hzero => rw [if_neg (by omega), Int.toNat_natCast]

theorem Settings.pagination_eq {s : Settings} {n : Nat}
    (h : s.maxPages = if n = 0 then none else some n) :
    s.pagination = if n = 0 then .unbounded else .atMost n := by
  rw [pagination, maxPagesValue, h]
  by_cases hn : n = 0 <;> simp [hn, Pagination.unbounded, Pagination.atMost]

/-- Settings are refused just if a variable is bad, and then the first bad one is named.  From all
other settings a client is built, whose chain watches the quota with the threshold, makes at
least one attempt with the pause between two of them, and reads as many pages as are allowed;
a bound of zero pages is none. -/
theorem Client.ofEnv_reads_numbers {σ : Type} (t : Transport σ) (env : Environment) :
    ((∃ fault, Settings.ofEnv env = .error fault) ↔ ∃ v ∈ Settings.numbers, env.IsBad v) ∧
    (∀ fault, Settings.ofEnv env = .error fault → ∃ before name kind after,
      Settings.numbers = before ++ (name, kind) :: after ∧ (∀ v ∈ before, ¬env.IsBad v) ∧
      env.IsBad (name, kind) ∧ fault.family = .value ∧ ∃ rest, fault.message = name ++ rest) ∧
    ∀ s, Settings.ofEnv env = .ok s → ∃ c : Client σ, Client.ofEnv t env = .ok c ∧
      ∃ (threshold attempts : Int) (delay : Binary64) (pages : Nat) (retry : Retry),
        env.Gives Numeral.SpellsInt "PR_BOT_RATE_LIMIT_THRESHOLD" 100 threshold ∧
        env.Gives Numeral.SpellsInt "PR_BOT_RETRY_ATTEMPTS" 3 attempts ∧
        env.Gives Numeral.SpellsReal "PR_BOT_RETRY_DELAY_S" (.ofRatio false 2 1) delay ∧
        env.Gives Numeral.SpellsInt "PR_BOT_MAX_PAGES" 100 pages ∧
        (retry.attempts : Int) = max 1 attempts ∧ retry.delay = delay ∧
        retry.accepts = Failure.isRetryable ∧
        c.chain = [.quota ⟨QuotaSnapshot.fetch t "core", threshold⟩, .retry retry,
          .pagination (if pages = 0 then .unbounded else .atMost pages)] := by
  have hreads := Settings.reads_ofEnv env
  refine ⟨?_, fun fault hfault ↦ ?_, fun s hs ↦ ?_⟩
  · cases hs : Settings.ofEnv env with
    | error fault =>
      rw [hs] at hreads
      cases hreads with
      | @error before v after _ hvs hgood hbad hnames =>
        exact ⟨fun _ ↦ ⟨v, by simp [hvs], hbad⟩, fun _ ↦ ⟨fault, rfl⟩⟩
    | ok s =>
      rw [hs] at hreads
      cases hreads with
      | ok hgood _ => exact ⟨nofun, fun ⟨v, hv, hbad⟩ ↦ absurd hbad (hgood v hv)⟩
  · rw [hfault] at hreads
    cases hreads with
    | @error before v after _ hvs hgood hbad hnames =>
      exact ⟨before, v.1, v.2, after, hvs, hgood, hbad, hnames⟩
  · rw [hs] at hreads
    cases hreads with
    | ok _ hfollows =>
      obtain ⟨pages, hpages, hmaxPages⟩ := hfollows.maxPages
      refine ⟨Client.standard t s, by rw [Client.ofEnv_eq, hs]; rfl, s.rateLimitThreshold,
        s.retryAttempts, s.retryDelay, pages, s.retry, hfollows.rateLimitThreshold,
        hfollows.retryAttempts, hfollows.retryDelay, hpages, Retry.attempts_ofAttempts .., rfl, rfl,
        ?_⟩
      rw [← Settings.pagination_eq hmaxPages]
      rfl

/-- Two variables are bad, and the first one in the order of reading is named. -/
def twoBad : Environment := [("PR_BOT_RETRY_ATTEMPTS", "many"), ("PR_BOT_MAX_PAGES", " -1 ")]

/-- No variable is bad. -/
def lenient : Environment :=
  [("PR_BOT_RETRY_ATTEMPTS", " -5"), ("PR_BOT_MAX_PAGES", "+0_0"), ("PR_BOT_RETRY_DELAY_S", "-0")]

/-- One environment is refused, and one makes a client of a single attempt without a bound. -/
theorem Client.twoBad_lenient_reads_numbers :
    (∃ fault rest, Settings.ofEnv twoBad = .error fault ∧
      fault.message = "PR_BOT_MAX_PAGES" ++ rest) ∧
    ∃ (c : Client Rehearsal.Machine) (retry : Retry),
      Client.ofEnv Rehearsal.transport lenient = .ok c ∧ retry.attempts = 1 ∧
      c.chain = [.quota ⟨QuotaSnapshot.fetch Rehearsal.transport "core", 100⟩, .retry retry,
        .pagination .unbounded] := by
  constructor
  · obtain ⟨hiff, hnamed, -⟩ := ofEnv_reads_numbers Rehearsal.transport twoBad
    have hbad : twoBad.IsBad ("PR_BOT_MAX_PAGES", .whole (some 0)) := by
      refine ⟨"-1", ⟨by decide, " -1 ", by decide +kernel, by decide +kernel⟩, ?_⟩
      rintro ⟨n, hn, hleast⟩
      have hread : Numeral.readInt "-1" = .ok (-1) := by decide +kernel
      cases hread.symm.trans (Numeral.readInt_eq_ok_iff.mpr hn)
      exact absurd (hleast 0 rfl) (by decide)
    obtain ⟨fault, hfault⟩ := hiff.mpr ⟨_, List.mem_cons_self, hbad⟩
    obtain ⟨before, name, kind, after, hnumbers, hgood, -, -, rest, hmessage⟩ := hnamed fault hfault
    cases before with
    | nil =>
      obtain ⟨hname, -⟩ := List.cons.inj hnumbers
      cases hname
      exact ⟨fault, rest, hfault, hmessage⟩
    | cons v before =>
      obtain ⟨rfl, -⟩ := List.cons.inj hnumbers
      exact absurd hbad (hgood _ List.mem_cons_self)
  · obtain ⟨-, -, hbuilt⟩ := ofEnv_reads_numbers Rehearsal.transport lenient
    have hisOk : (Settings.ofEnv lenient).isOk = true := by decide +kernel
    cases hs : Settings.ofEnv lenient with
    | error fault =>
      rw [hs] at hisOk
      cases hisOk
    | ok s =>
      obtain ⟨c, hc, threshold, attempts, delay, pages, retry, hthreshold, hattempts, -, hpages,
        hretry, -, -, hchain⟩ := hbuilt s hs
      have hthreshold' : lenient.whole "PR_BOT_RATE_LIMIT_THRESHOLD" 100 none = .ok 100 := by rfl
      have hattempts' : lenient.whole "PR_BOT_RETRY_ATTEMPTS" 3 none = .ok (-5) := by rfl
      have hpages' : lenient.whole "PR_BOT_MAX_PAGES" 100 none = .ok 0 := by rfl
      cases hthreshold'.symm.trans hthreshold.whole_eq
      cases hattempts'.symm.trans hattempts.whole_eq
      obtain rfl : pages = 0 := by
        have hzero := Except.ok.inj (hpages'.symm.trans hpages.whole_eq)
        omega
      exact ⟨c, retry, hc, by omega, hchain⟩

end PullRelay
