import PullRelay.Command.Run
import PullRelay.Transport.Api
import PullRelay.Transport.Routes

/-!
# The program

Reads the command line and the environment, runs a command, and prints what it
comes to.  The program holds no connection of its own: over the network every
request fails, and without it no route is known.
-/

namespace PullRelay.Program

def environmentNames : List String :=
  ["PR_BOT_GITHUB_TRANSPORT", "PR_BOT_GITHUB_API_URL", "PR_BOT_RETRY_ATTEMPTS",
    "PR_BOT_RETRY_DELAY_S", "PR_BOT_RATE_LIMIT_THRESHOLD", "PR_BOT_MAX_PAGES", "PR_BOT_PER_PAGE",
    "PR_BOT_HTTP_TIMEOUT_S", "PR_BOT_GITHUB_TOKEN", "GITHUB_TOKEN"]

def readEnvironment : IO Environment :=
  environmentNames.filterMapM fun name ↦ do
    return (← IO.getEnv name).map fun given ↦ (name, given)

/-- No connection is there. -/
def offline : Session Unit := fun _ s ↦ (.disconnected "no network is available", s)

/-- The pages that are followed where no bound is set. -/
def pageFuel : Nat := 1000000

/-- Run a command over the transport of the settings. -/
def runCommand (env : Environment) (c : Command) : Conclusion × List Event :=
  match (Settings.ofEnv env).toOption.bind Settings.api? with
  | some api =>
    let final := c.run pageFuel (api.transport offline) env { machine := () }
    (final.1, final.2.trace)
  | none =>
    let final := c.run pageFuel Routes.transport env { machine := {} }
    (final.1, final.2.trace)

/-- Report that something passed through a command. -/
def reportEscaped (c : Conclusion) : IO Unit :=
  match c with
  | .escaped f => IO.eprint (Conclusion.errorLine f.message)
  | .unfinished => IO.eprint (Conclusion.errorLine "the list of pages does not end")
  | _ => return ()

/-- Run the program: the exit code is 2 for a command line that cannot be read. -/
def run (args : List String) : IO UInt32 := do
  match CommandLine.parse args with
  | .error f =>
    IO.eprint (Conclusion.errorLine f.message)
    return 2
  | .ok .help =>
    IO.println "Usage: [--log-level LEVEL] COMMAND [ARGUMENTS]"
    IO.println ("Commands: " ++ ", ".intercalate (CommandLine.commands.map (·.1)))
    return 0
  | .ok (.command threshold c) =>
    let (conclusion, trace) := runCommand (← readEnvironment) c
    IO.eprint (conclusion.errorOutput Instant.epoch threshold trace)
    reportEscaped conclusion
    IO.print conclusion.document
    return (conclusion.exitCode?.getD 1).toUInt32

end PullRelay.Program

def main (args : List String) : IO UInt32 := PullRelay.Program.run args
