import PullRelay.Room
import PullRelay.Text.Casing

/-!
# Settings

Everything a client can be configured with, read from the environment.  A
variable that is missing, empty or blank leaves its setting at the default;
otherwise blanks around the value do not matter.  Of several bad numbers the
first in the order of reading is reported.
-/

namespace PullRelay

/-- Names and values of the environment. -/
abbrev Environment := List (String × String)

namespace Environment

/-- The value of a variable, unless it is missing or empty. -/
def get? (env : Environment) (name : String) : Option String :=
  (env.lookup name).filter (!·.isEmpty)

/-- The value of a variable without surrounding blanks, unless nothing is left. -/
def stripped? (env : Environment) (name : String) : Option String :=
  ((env.get? name).map Text.strip).filter (!·.isEmpty)

/-- A whole number, not below `least?` if there is such a bound. -/
def whole (env : Environment) (name : String) (default : Int) (least? : Option Int) :
    Except Fault Int :=
  match env.stripped? name with
  | none => .ok default
  | some given =>
    match Numeral.readInt given, least? with
    | .error _, _ => .error (.settingNotInteger name given)
    | .ok n, none => .ok n
    | .ok n, some least => if n < least then .error (.settingBelow name least given) else .ok n

/-- A real number that is not negative. -/
def real (env : Environment) (name : String) (default : Binary64) : Except Fault Binary64 :=
  match env.stripped? name with
  | none => .ok default
  | some given =>
    match Numeral.readReal? given with
    | none => .error (.settingNotNumber name given)
    | some x => if x.belowInt 0 then .error (.settingBelow name 0 given) else .ok x

end Environment

/-- A secret that requests are signed with, if there is one. -/
structure Token where
  secret? : Option String := none
deriving DecidableEq, Repr

namespace Token

/-- The token of the environment: the first of two variables that is not empty,
without surrounding blanks. -/
def ofEnv (env : Environment) : Token :=
  let given := (env.get? "PR_BOT_GITHUB_TOKEN").orElse fun _ ↦ env.lookup "GITHUB_TOKEN"
  ⟨(given.map Text.strip).filter (!·.isEmpty)⟩

/-- What may be shown of a token: the four characters at either end, if it has
more than eight. -/
def redacted (t : Token) : String :=
  match t.secret? with
  | none => "unset"
  | some secret =>
    let cs := secret.toList
    if cs.length ≤ 8 then "***"
    else String.ofList (cs.take 4) ++ "..." ++ String.ofList (cs.drop (cs.length - 4))

end Token

structure Settings where
  transport : String := "in_memory"
  apiUrl : String := "https://api.github.com"
  retryAttempts : Int := 3
  retryDelay : Binary64 := .ofRatio false 2 1
  rateLimitThreshold : Int := 100
  /-- The bound on pages; none for no bound. -/
  maxPages : Option Nat := some 100
  perPage : Int := 100
  timeout : Binary64 := .ofRatio false 15 1
  token : Token := {}
  /-- Not configured, but given by where the settings are used. -/
  room : Room := {}

namespace Settings

def ofEnv (env : Environment) : Except Fault Settings := do
  let defaults : Settings := {}
  let maxPages ← env.whole "PR_BOT_MAX_PAGES" 100 (some 0)
  let retryAttempts ← env.whole "PR_BOT_RETRY_ATTEMPTS" defaults.retryAttempts none
  let retryDelay ← env.real "PR_BOT_RETRY_DELAY_S" defaults.retryDelay
  let rateLimitThreshold ←
    env.whole "PR_BOT_RATE_LIMIT_THRESHOLD" defaults.rateLimitThreshold none
  let perPage ← env.whole "PR_BOT_PER_PAGE" defaults.perPage (some 1)
  let timeout ← env.real "PR_BOT_HTTP_TIMEOUT_S" defaults.timeout
  let transport := (env.get? "PR_BOT_GITHUB_TRANSPORT").getD defaults.transport
  let apiUrl := (env.get? "PR_BOT_GITHUB_API_URL").getD defaults.apiUrl
  return {
    transport := Text.lower (Text.strip transport)
    apiUrl := Text.strip apiUrl
    retryAttempts, retryDelay, rateLimitThreshold, perPage, timeout
    maxPages := if maxPages = 0 then none else some maxPages.toNat
    token := Token.ofEnv env }

def maxPagesValue (s : Settings) : Value :=
  match s.maxPages with
  | some n => .int n
  | none => .null

/-- The settings as an object, with the token redacted. -/
def redacted (s : Settings) : List (String × Value) :=
  [("transport", .text s.transport),
    ("api_url", .text s.apiUrl),
    ("retry_attempts", .int s.retryAttempts),
    ("retry_delay_s", .real s.retryDelay),
    ("rate_limit_threshold", .int s.rateLimitThreshold),
    ("max_pages", s.maxPagesValue),
    ("per_page", .int s.perPage),
    ("timeout_s", .real s.timeout),
    ("token", .text s.token.redacted)]

end Settings

end PullRelay
