import PullRelay.Client.Basic
import PullRelay.Command.Arguments
import PullRelay.Json.Printer
import PullRelay.Text.Control

/-!
# Running commands

A command prints one document, or says why it does not.  Settings that cannot be
used and failures of the pipeline are reported in one line each; anything else
passes through, as does a document for which there is no room.
-/

namespace PullRelay

inductive Conclusion where
  | printed (document : Value)
  /-- A failure of the pipeline stopped it. -/
  | stopped (failure : Failure)
  /-- The settings cannot be used. -/
  | misconfigured (fault : Fault)
  /-- Something passed through it. -/
  | escaped (failure : Failure)
  | unfinished

namespace Conclusion

/-- What a raised failure ends a command as. -/
def ofFailure (f : Failure) : Conclusion := if f.isPipeline then .stopped f else .escaped f

/-- How the ending of an operation ends a command. -/
def ofEnding : Ending Answer → Conclusion
  | .returned a => .printed a.value
  | .raised f => ofFailure f
  | .unfinished => .unfinished

/-- What there is no room to print passes through. -/
def emitted (room : Nat) : Conclusion → Conclusion
  | .printed v =>
    match Json.checkPrint room v with
    | .ok _ => .printed v
    | .error f => .escaped (.fault f)
  | c => c

/-- The exit code, unless something passed through. -/
def exitCode? : Conclusion → Option Nat
  | .printed _ => some 0
  | .stopped _ => some 1
  | .misconfigured _ => some 2
  | .escaped _ | .unfinished => none

def document : Conclusion → String
  | .printed v => Json.print v ++ "\n"
  | _ => ""

/-- A line that reports something, without control sequences. -/
def errorLine (message : String) : String :=
  String.ofList (Text.withoutControls ("Error: " ++ message ++ "\n").toList)

def report : Conclusion → String
  | .stopped f => errorLine f.message
  | .misconfigured f => errorLine f.message
  | _ => ""

end Conclusion

def Query.operation (q : Query) (r : RepositoryName) (number : Int) : Except Failure Operation :=
  match q with
  | .files => .ok (.pullRequestFiles r.owner r.repo (.int number))
  | .pull => .ok (.pullRequest r.owner r.repo (.int number))
  | .reviews => .ok (.pullRequestReviews r.owner r.repo (.int number))
  | .comments =>
    (Issue.ofFields [("owner", .text r.owner), ("repo_name", .text r.repo),
      ("number", .int number)]).map .issueComments

namespace Command

variable {σ : Type}

/-- Run something with the client of the environment, in the room that is left. -/
def withClient (room : Room) (t : Transport σ) (env : Environment)
    (use : Client σ → World σ → Conclusion × World σ) (w : World σ) : Conclusion × World σ :=
  match Client.ofEnv t env with
  | .ok client => use { client with room } w
  | .error f => (.misconfigured f, w)

/-- Run a command up to its document. -/
def reach (room : Room) (fuel : Nat) (t : Transport σ) (env : Environment) (c : Command)
    (w : World σ) : Conclusion × World σ :=
  match c with
  | .config =>
    match Settings.ofEnv env with
    | .ok s => (.printed (.object s.redacted), w)
    | .error f => (.escaped (.fault f), w)
  | .rateLimit =>
    withClient room t env (fun client w ↦
      match client.quota w with
      | (.ok q, w) => (.printed (.object q.fields), w)
      | (.error f, w) => (.ofFailure f, w)) w
  | .read query repository number =>
    match query.operation repository number with
    | .error f => (.escaped f, w)
    | .ok op =>
      withClient room t env (fun client w ↦
        let final := client.run fuel op w
        (.ofEnding final.1, final.2)) w

def run (fuel : Nat) (t : Transport σ) (env : Environment) (c : Command) (w : World σ)
    (room : Room := {}) : Conclusion × World σ :=
  let final := c.reach room fuel t env w
  (final.1.emitted room.document, final.2)

end Command

/-- The messages logged in a trace. -/
def Log.messagesOf (trace : List Event) : List Log.Message :=
  trace.filterMap fun
    | .logged notice => some notice.message
    | _ => none

/-- What goes to the error output: the log above a threshold, then what is reported. -/
def Conclusion.errorOutput (time : Instant) (threshold : Int) (c : Conclusion)
    (trace : List Event) : String :=
  Log.render time threshold (Log.messagesOf trace) ++ c.report

end PullRelay
