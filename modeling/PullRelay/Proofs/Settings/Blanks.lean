import PullRelay.Proofs.Except
import PullRelay.Proofs.Text.Pieces
import PullRelay.Settings

/-!
# Blanks in the environment

Blanks around a value do not matter to the settings.  A variable that holds nothing but blanks
counts as unset where a number is read, but not in three other places: as the transport and as
the address it is taken for the empty text, and as the first of the two tokens it stands in the
way of the second one (`Settings.ofEnv_eq_masked`).  So trimming the environment leaves the
settings as they are just if there is no such variable (`Settings.ofEnv_trimmed_iff`).
-/

namespace PullRelay

namespace Environment

/-- The environment with the blanks around each value taken away. -/
def trimmed (env : Environment) : Environment := env.map fun v ↦ (v.1, Text.strip v.2)

/-- The environment without a variable. -/
def without (env : Environment) (name : String) : Environment := env.filter (·.1 != name)

/-- The variable holds blanks, and nothing else. -/
def isBlank (env : Environment) (name : String) : Bool :=
  (env.get? name).any fun given ↦ (Text.strip given).isEmpty

/-- The blanks of the variable are taken for a setting. -/
def Masks (env : Environment) (name : String) : Prop :=
  env.isBlank name = true ∧
    (name = "PR_BOT_GITHUB_TRANSPORT" ∨ name = "PR_BOT_GITHUB_API_URL" ∨
      name = "PR_BOT_GITHUB_TOKEN" ∧ ∃ shared, env.stripped? "GITHUB_TOKEN" = some shared)

variable {env env' : Environment} {name : String}

theorem lookup_trimmed (env : Environment) (name : String) :
    env.trimmed.lookup name = (env.lookup name).map Text.strip := by
  induction env with
  | nil => rfl
  | cons v env ih =>
    obtain ⟨key, given⟩ := v
    unfold trimmed at ih ⊢
    simp only [List.map_cons, List.lookup_cons]
    cases name == key <;> simp [ih]

theorem lookup_without (env : Environment) (name other : String) :
    (env.without name).lookup other = if other = name then none else env.lookup other := by
  induction env with
  | nil => simp [without]
  | cons v env ih =>
    obtain ⟨key, given⟩ := v
    unfold without at ih ⊢
    by_cases hkey : key = name
    · rw [List.filter_cons_of_neg (by simpa using hkey), ih, List.lookup_cons, hkey]
      by_cases hother : other = name
      · rw [if_pos hother, if_pos hother]
      · rw [if_neg hother, if_neg hother, beq_eq_false_iff_ne.mpr hother]
    · rw [List.filter_cons_of_pos (by simpa using hkey), List.lookup_cons, List.lookup_cons, ih]
      by_cases hother : other = key
      · simp [hother, hkey]
      · simp [beq_eq_false_iff_ne.mpr hother]

/-- Empty values and missing ones are alike once blanks are taken away. -/
theorem stripped?_eq (env : Environment) (name : String) :
    env.stripped? name = ((env.lookup name).map Text.strip).filter (!·.isEmpty) := by
  unfold stripped? get?
  cases env.lookup name with
  | none => rfl
  | some given =>
    by_cases h : given.isEmpty = true
    · obtain rfl := String.isEmpty_iff.mp h
      rfl
    · simp [Option.filter, h]

theorem get?_trimmed (env : Environment) (name : String) :
    env.trimmed.get? name = env.stripped? name := by
  rw [get?, lookup_trimmed, stripped?_eq]

@[simp] theorem stripped?_trimmed (env : Environment) (name : String) :
    env.trimmed.stripped? name = env.stripped? name := by
  have htwice : Text.strip ∘ Text.strip = Text.strip := funext Text.strip_strip
  rw [stripped?_eq, stripped?_eq, lookup_trimmed, Option.map_map, htwice]

/-- No value is blank once blanks are taken away. -/
theorem isBlank_trimmed (env : Environment) (name : String) :
    env.trimmed.isBlank name = false := by
  rw [isBlank, get?_trimmed, stripped?_eq]
  cases env.lookup name with
  | none => rfl
  | some given =>
    by_cases h : Text.strip given = ""
    · simp [h]
    · simp [h, Option.filter]

theorem stripped?_of_isBlank (h : env.isBlank name = true) : env.stripped? name = none := by
  unfold isBlank at h
  unfold stripped?
  cases hgiven : env.get? name with
  | none => rfl
  | some given =>
    rw [hgiven] at h
    have hblank : Text.strip given = "" := by simpa using h
    simp [hblank, Option.filter]

section Without

variable {given : String} (hgiven : env.lookup name = some given)
  (hblank : Text.strip given = "")

include hgiven hblank in
/-- A blank value is missed by nobody who takes blanks away. -/
theorem stripped?_without (other : String) :
    (env.without name).stripped? other = env.stripped? other := by
  rw [stripped?_eq, stripped?_eq, lookup_without]
  by_cases h : other = name
  · simp [h, hgiven, hblank, Option.filter]
  · rw [if_neg h]

theorem isBlank_without (env : Environment) (name other : String) :
    (env.without name).isBlank other = true ↔ other ≠ name ∧ env.isBlank other = true := by
  unfold isBlank get?
  rw [lookup_without]
  by_cases h : other = name
  · simp [h]
  · simp [h]

end Without

/-- Numbers are read from what is left without blanks. -/
theorem whole_congr (h : env.stripped? name = env'.stripped? name) (default : Int)
    (least? : Option Int) : env.whole name default least? = env'.whole name default least? := by
  rw [whole, whole, h]

theorem real_congr (h : env.stripped? name = env'.stripped? name) (default : Binary64) :
    env.real name default = env'.real name default := by
  rw [real, real, h]

end Environment

/-! ## Settings -/

open Environment

/-- The settings with the empty text where blanks are taken for a setting, and without a token
if blanks are taken for one. -/
def Settings.masked (blank : String → Bool) (s : Settings) : Settings where
  transport := if blank "PR_BOT_GITHUB_TRANSPORT" then "" else s.transport
  apiUrl := if blank "PR_BOT_GITHUB_API_URL" then "" else s.apiUrl
  retryAttempts := s.retryAttempts
  retryDelay := s.retryDelay
  rateLimitThreshold := s.rateLimitThreshold
  maxPages := s.maxPages
  perPage := s.perPage
  timeout := s.timeout
  room := s.room
  token := if blank "PR_BOT_GITHUB_TOKEN" then {} else s.token

section Reading

variable {env env' : Environment}

theorem strip_transport : Text.strip "in_memory" = "in_memory" := by decide +kernel

theorem strip_apiUrl : Text.strip "https://api.github.com" = "https://api.github.com" := by
  decide +kernel

/-- What is read of a text with a default: what is left of it without blanks, or the default.
But blanks are taken for the empty text. -/
theorem strip_getD (env : Environment) (name : String) {default : String}
    (hdefault : Text.strip default = default) :
    Text.strip ((env.get? name).getD default) =
      if env.isBlank name then "" else (env.stripped? name).getD default := by
  unfold isBlank stripped?
  cases env.get? name with
  | none => exact hdefault
  | some given =>
    by_cases h : Text.strip given = ""
    · simp [h]
    · simp [h, Option.filter]

/-- The first token counts if anything is left of it without blanks, and the second one if the
first one is not there.  But blanks are taken for no token. -/
theorem Token.ofEnv_eq (env : Environment) : Token.ofEnv env =
    if env.isBlank "PR_BOT_GITHUB_TOKEN" then {}
    else ⟨(env.stripped? "PR_BOT_GITHUB_TOKEN").orElse fun _ ↦ env.stripped? "GITHUB_TOKEN"⟩ := by
  rw [stripped?_eq env "GITHUB_TOKEN"]
  unfold ofEnv isBlank stripped?
  dsimp only
  cases env.get? "PR_BOT_GITHUB_TOKEN" with
  | none => rfl
  | some given =>
    by_cases h : Text.strip given = ""
    · simp [h]
    · simp [h, Option.filter]

/-- Environments that are alike without blanks have the same settings, but for what is masked in
one of them. -/
theorem Settings.ofEnv_eq_masked (hstripped : ∀ name, env.stripped? name = env'.stripped? name)
    (hblank : ∀ name, env'.isBlank name = false) :
    ofEnv env = (ofEnv env').map (masked env.isBlank) := by
  have hwhole (name default least?) := whole_congr (hstripped name) default least?
  have hreal (name default) := real_congr (hstripped name) default
  have htext (name : String) {default : String} (hdefault : Text.strip default = default) :
      Text.strip ((env.get? name).getD default) =
        if env.isBlank name then "" else Text.strip ((env'.get? name).getD default) := by
    rw [strip_getD env name hdefault, strip_getD env' name hdefault, hstripped, hblank]
    rfl
  have hlower (b : Bool) (s : String) :
      Text.lower (if b then "" else s) = if b then "" else Text.lower s := by
    cases b <;> rfl
  have htoken : Token.ofEnv env =
      if env.isBlank "PR_BOT_GITHUB_TOKEN" then {} else Token.ofEnv env' := by
    rw [Token.ofEnv_eq env, Token.ofEnv_eq env', hstripped, hstripped, hblank]
    rfl
  simp only [ofEnv, Except.map_bind, hwhole, hreal]
  refine bind_congr fun maxPages ↦ bind_congr fun attempts ↦ bind_congr fun delay ↦
    bind_congr fun threshold ↦ bind_congr fun perPage ↦ bind_congr fun timeout ↦ ?_
  have htransport := htext "PR_BOT_GITHUB_TRANSPORT" strip_transport
  have hapiUrl := htext "PR_BOT_GITHUB_API_URL" strip_apiUrl
  simp only [htransport, hapiUrl, hlower, htoken]
  rfl

/-- Where the texts among the settings come from. -/
theorem Settings.texts_of_ofEnv {s : Settings} (h : ofEnv env = .ok s) :
    s.transport = Text.lower (Text.strip ((env.get? "PR_BOT_GITHUB_TRANSPORT").getD "in_memory")) ∧
    s.apiUrl = Text.strip ((env.get? "PR_BOT_GITHUB_API_URL").getD "https://api.github.com") ∧
    s.token = Token.ofEnv env := by
  unfold ofEnv at h
  obtain ⟨_, -, h⟩ := Except.exists_of_bind_eq_ok h
  obtain ⟨_, -, h⟩ := Except.exists_of_bind_eq_ok h
  obtain ⟨_, -, h⟩ := Except.exists_of_bind_eq_ok h
  obtain ⟨_, -, h⟩ := Except.exists_of_bind_eq_ok h
  obtain ⟨_, -, h⟩ := Except.exists_of_bind_eq_ok h
  obtain ⟨_, -, h⟩ := Except.exists_of_bind_eq_ok h
  obtain rfl := Except.ok.inj h
  exact ⟨rfl, rfl, rfl⟩

/-- Masking more variables makes a difference just if one of them masks something. -/
theorem Settings.masked_eq_iff {s : Settings} (hs : ofEnv env.trimmed = .ok s)
    {blank : String → Bool} (hblank : ∀ name, blank name = true → env.isBlank name = true) :
    masked env.isBlank s = masked blank s ↔ ∀ name, env.Masks name → blank name = true := by
  obtain ⟨htransport, hapiUrl, htoken⟩ := texts_of_ofEnv hs
  rw [get?_trimmed] at htransport hapiUrl
  rw [Token.ofEnv_eq, isBlank_trimmed, stripped?_trimmed, stripped?_trimmed] at htoken
  constructor
  · rintro h name ⟨hname, hmasks⟩
    by_contra hnot
    rcases hmasks with rfl | rfl | ⟨rfl, shared, hshared⟩
    · have hfield := congrArg transport h
      rw [stripped?_of_isBlank hname] at htransport
      simp only [masked, hname, if_true, hnot, htransport] at hfield
      exact absurd hfield (by decide +kernel)
    · have hfield := congrArg apiUrl h
      rw [stripped?_of_isBlank hname] at hapiUrl
      simp only [masked, hname, if_true, hnot, hapiUrl] at hfield
      exact absurd hfield (by decide +kernel)
    · have hfield := congrArg token h
      rw [stripped?_of_isBlank hname, hshared] at htoken
      simp [masked, hname, hnot, htoken] at hfield
  · intro h
    have hflag {name : String} (hmasks : env.isBlank name = true → env.Masks name) :
        env.isBlank name = blank name := by
      rw [Bool.eq_iff_iff]
      exact ⟨fun hname ↦ h name (hmasks hname), hblank name⟩
    have htransport' := hflag fun hname ↦ ⟨hname, .inl rfl⟩
    have hapiUrl' := hflag fun hname ↦ ⟨hname, .inr (.inl rfl)⟩
    have htoken' : (if env.isBlank "PR_BOT_GITHUB_TOKEN" then {} else s.token) =
        if blank "PR_BOT_GITHUB_TOKEN" then {} else s.token := by
      cases hshared : env.stripped? "GITHUB_TOKEN" with
      | some shared => rw [hflag fun hname ↦ ⟨hname, .inr (.inr ⟨rfl, shared, hshared⟩)⟩]
      | none =>
        by_cases hname : env.isBlank "PR_BOT_GITHUB_TOKEN" = true
        · rw [stripped?_of_isBlank hname, hshared] at htoken
          have hnone : s.token = {} := htoken
          simp [hnone]
        · have hnot : blank "PR_BOT_GITHUB_TOKEN" = false :=
            Bool.eq_false_iff.mpr fun hb ↦ hname (hblank _ hb)
          simp [hname, hnot]
    simp only [masked, htransport', hapiUrl', htoken']

end Reading

/-- Trimming the environment leaves the settings as they are, or what is wrong with them, just
if nothing is masked or something is wrong with a number.  What is masked is empty, and all else
is read from the trimmed environment.

In the same way, a blank value is as good as none unless it masks something. -/
theorem Settings.ofEnv_trimmed_iff (env : Environment) :
    (ofEnv env.trimmed = ofEnv env ↔
      (∃ fault, ofEnv env = .error fault) ∨ ∀ name, ¬env.Masks name) ∧
    ofEnv env = (ofEnv env.trimmed).map (masked env.isBlank) ∧
    ∀ name given, env.lookup name = some given → Text.strip given = "" →
      (ofEnv (env.without name) = ofEnv env ↔
        (∃ fault, ofEnv env = .error fault) ∨ ¬env.Masks name) := by
  have hmasked := ofEnv_eq_masked (fun name ↦ (env.stripped?_trimmed name).symm)
    env.isBlank_trimmed
  refine ⟨?_, hmasked, fun name given hgiven hblank ↦ ?_⟩
  · rw [hmasked]
    cases hs : ofEnv env.trimmed with
    | error fault => simp [Except.map]
    | ok s =>
      have hnone : masked (fun _ ↦ false) s = s := rfl
      have hiff : masked env.isBlank s = masked (fun _ ↦ false) s ↔ _ := masked_eq_iff hs (by simp)
      rw [hnone] at hiff
      simpa [Except.map, eq_comm] using hiff
  · have hstripped (other : String) :
        (env.without name).stripped? other = env.trimmed.stripped? other := by
      rw [stripped?_without hgiven hblank, stripped?_trimmed]
    rw [ofEnv_eq_masked hstripped env.isBlank_trimmed, hmasked]
    cases hs : ofEnv env.trimmed with
    | error fault => simp [Except.map]
    | ok s =>
      have hiff : masked env.isBlank s = masked (env.without name).isBlank s ↔ _ :=
        masked_eq_iff hs fun other hother ↦ ((isBlank_without env name other).mp hother).2
      simp only [isBlank_without] at hiff
      have hsame : masked (env.without name).isBlank s = masked env.isBlank s ↔
          ¬env.Masks name := by
        rw [eq_comm, hiff]
        constructor
        · exact fun h hmasks ↦ (h name hmasks).1 rfl
        · refine fun hnot other hmasks ↦ ⟨?_, hmasks.1⟩
          rintro rfl
          exact hnot hmasks
      simpa [Except.map] using hsame

/-- An environment with blanks in many places, of which the first token alone is masked. -/
def spaced : Environment :=
  [("PR_BOT_MAX_PAGES", " 7 "), ("PR_BOT_PER_PAGE", "  "), ("PR_BOT_GITHUB_TRANSPORT", " API "),
    ("PR_BOT_GITHUB_TOKEN", "   "), ("GITHUB_TOKEN", "ghp_sharedtoken")]

/-- The blank page size is as good as none, but the blank token is not. -/
theorem Settings.spaced_ofEnv_trimmed_iff :
    spaced.lookup "PR_BOT_PER_PAGE" = some "  " ∧ Text.strip "  " = "" ∧
    spaced.lookup "PR_BOT_GITHUB_TOKEN" = some "   " ∧ Text.strip "   " = "" ∧
    ofEnv (spaced.without "PR_BOT_PER_PAGE") = ofEnv spaced ∧
    ofEnv (spaced.without "PR_BOT_GITHUB_TOKEN") ≠ ofEnv spaced ∧
    ofEnv spaced.trimmed ≠ ofEnv spaced := by
  have hok : ¬∃ fault, ofEnv spaced = .error fault := by
    rintro ⟨fault, hfault⟩
    have hisOk : (ofEnv spaced).isOk = true := by decide +kernel
    rw [hfault] at hisOk
    cases hisOk
  have hpage : ¬spaced.Masks "PR_BOT_PER_PAGE" := by
    rintro ⟨-, hname⟩
    exact absurd hname (by simp)
  have htoken : spaced.Masks "PR_BOT_GITHUB_TOKEN" :=
    ⟨by decide +kernel, .inr (.inr ⟨rfl, "ghp_sharedtoken", by decide +kernel⟩)⟩
  obtain ⟨htrimmed, -, hwithout⟩ := ofEnv_trimmed_iff spaced
  refine ⟨by decide +kernel, by decide +kernel, by decide +kernel, by decide +kernel, ?_, ?_, ?_⟩
  · exact (hwithout _ "  " (by decide +kernel) (by decide +kernel)).mpr (.inr hpage)
  · rw [ne_eq, hwithout _ "   " (by decide +kernel) (by decide +kernel)]
    exact fun h ↦ h.elim hok (· htoken)
  · rw [ne_eq, htrimmed]
    exact fun h ↦ h.elim hok (· _ htoken)

/-- A blank token stands in the way of a shared one. -/
theorem Settings.ofEnv_trimmed_ne : ¬∀ env : Environment, ofEnv env.trimmed = ofEnv env := by
  intro h
  have htoken := congrArg (fun r ↦ r.toOption.bind (·.token.secret?)) (h spaced)
  exact absurd htoken (by decide +kernel)

end PullRelay
