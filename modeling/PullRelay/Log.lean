import PullRelay.Quota.Snapshot
import PullRelay.Text.Casing
import PullRelay.Text.Blank

/-!
# Log messages

Messages have a numeric level; those below the configured level are dropped.
A level may be given by one of eight names in letters of either case.  The
pipeline itself logs two things, both about the quota (`Notice`).
-/

namespace PullRelay.Log

/-- The levels that have names to configure them by. -/
def levelNames : List (String × Int) :=
  [("CRITICAL", 50), ("FATAL", 50), ("ERROR", 40), ("WARN", 30), ("WARNING", 30), ("INFO", 20),
    ("DEBUG", 10), ("NOTSET", 0)]

/-- The level of a name, up to case and surrounding blanks. -/
def levelOfName (given : String) : Except Fault Int :=
  match levelNames.find? (·.1 == Text.upper (Text.strip given)) with
  | some found => .ok found.2
  | none => .error (.unknownLogLevel given)

def defaultLevel : String := "WARNING"

/-- How a level is written in front of a message. -/
def levelText (level : Int) : String :=
  if level = 50 then "CRITICAL"
  else if level = 40 then "ERROR"
  else if level = 30 then "WARNING"
  else if level = 20 then "INFO"
  else if level = 10 then "DEBUG"
  else if level = 0 then "NOTSET"
  else "Level " ++ toString level

structure Message where
  logger : String
  level : Int
  text : String
deriving DecidableEq, Repr

namespace Message

/-- Shown when the configured level is `threshold`; levels from 0 down never are. -/
def isShown (threshold : Int) (m : Message) : Bool := 0 < m.level && threshold ≤ m.level

/-- The name of a logger in its messages; the logger without a name is the root. -/
def loggerText (m : Message) : String := if m.logger.isEmpty then "root" else m.logger

/-- A message as a line, after the time at which it was logged. -/
def line (time : Instant) (m : Message) : String :=
  time.plain ++ " - " ++ m.loggerText ++ " - " ++ levelText m.level ++ " - " ++ m.text ++ "\n"

end Message

/-- The lines of the messages that are shown. -/
def render (time : Instant) (threshold : Int) (messages : List Message) : String :=
  String.join ((messages.filter (·.isShown threshold)).map (·.line time))

/-- What the pipeline logs. -/
inductive Notice where
  /-- The quota could not be read. -/
  | probeFailed (reason : String)
  /-- Fewer requests remain than the threshold. -/
  | quotaLow (snapshot : QuotaSnapshot)

namespace Notice

def level : Notice → Int
  | .probeFailed _ => 40
  | .quotaLow _ => 30

def text : Notice → String
  | .probeFailed reason => "failed to load rate limits " ++ reason
  | .quotaLow snapshot =>
    "reaching limit for GH API calls. " ++ toString snapshot.remaining ++ "/"
      ++ toString snapshot.limit ++ " left. resetting at [" ++ snapshot.resetAt.plain ++ "]"

def logger : String := "pr_bot.github.quota"

def message (n : Notice) : Message := ⟨logger, n.level, n.text⟩

end Notice

end PullRelay.Log
