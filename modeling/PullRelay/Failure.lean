import PullRelay.Fault
import PullRelay.Moment.Basic

/-!
# Failures

What can end a unit of work other than well.  The first group belongs to the
pipeline: failures of transport and server, exhausted retries, the page bound,
malformed payloads and failed quota probes.  The others come from outside and
pass through the pipeline untouched unless a layer says otherwise.
-/

namespace PullRelay

/-- What is wrong with one field of a record. -/
inductive Problem where
  | missing
  | notText
  | tooShort (least : Nat)
  | notInteger
  | integerText
  | integerTooLong
  | fraction
  | notFinite
  | below (least : Int)
  | notMoment
  | badMoment (fault : Moment.Fault)
  /-- A text that is no date either. -/
  | badMomentText (fault : Moment.Fault)
  | notAmong (choices : List String)
  | notAllowed
  | frozen
deriving DecidableEq, Repr

namespace Problem

def code : Problem → String
  | .missing => "missing"
  | .notText => "string_type"
  | .tooShort _ => "string_too_short"
  | .notInteger => "int_type"
  | .integerText => "int_parsing"
  | .integerTooLong => "int_parsing_size"
  | .fraction => "int_from_float"
  | .notFinite => "finite_number"
  | .below _ => "greater_than_equal"
  | .notMoment => "datetime_type"
  | .badMoment _ => "datetime_parsing"
  | .badMomentText _ => "datetime_from_date_parsing"
  | .notAmong _ => "literal_error"
  | .notAllowed => "extra_forbidden"
  | .frozen => "frozen_instance"

/-- Choices in quotes, with commas and an `or` before the last. -/
def listChoices : List String → String
  | [] => ""
  | [c] => "'" ++ c ++ "'"
  | [c, d] => "'" ++ c ++ "' or '" ++ d ++ "'"
  | c :: rest => "'" ++ c ++ "', " ++ listChoices rest

def message : Problem → String
  | .missing => "Field required"
  | .notText => "Input should be a valid string"
  | .tooShort least =>
    "String should have at least " ++ toString least ++ " character"
      ++ if least = 1 then "" else "s"
  | .notInteger => "Input should be a valid integer"
  | .integerText => "Input should be a valid integer, unable to parse string as an integer"
  | .integerTooLong => "Unable to parse input string as an integer, exceeded maximum size"
  | .fraction => "Input should be a valid integer, got a number with a fractional part"
  | .notFinite => "Input should be a finite number"
  | .below least => "Input should be greater than or equal to " ++ toString least
  | .notMoment => "Input should be a valid datetime"
  | .badMoment fault => "Input should be a valid datetime, " ++ fault.message
  | .badMomentText fault => "Input should be a valid datetime or date, " ++ fault.message
  | .notAmong choices => "Input should be " ++ listChoices choices
  | .notAllowed => "Extra inputs are not permitted"
  | .frozen => "Instance is frozen"

end Problem

/-- A failure of a unit of work. -/
inductive Failure where
  /-- A pipeline failure of no particular kind. -/
  | pipeline (text : String)
  /-- The request never produced a response. -/
  | transport (text : String)
  /-- The server answered with a failure status. -/
  | remote (status : Int) (detail : String)
  /-- Every attempt failed; the failures in the order of the attempts. -/
  | exhausted (errors : List Failure)
  /-- The server named a further page after the last one allowed. -/
  | pageLimit (bound : Value)
  /-- A response could not be converted. -/
  | malformed (text : String)
  /-- The quota could not be read. -/
  | probe (text : String)
  /-- A value that cannot be used. -/
  | fault (cause : Fault)
  /-- A record that is not valid, with the problem of each field. -/
  | invalid (record : String) (problems : List (String × Problem))
  /-- Raised by code outside the pipeline. -/
  | foreign (family : Family) (text : String)
  /-- Raised by code outside the pipeline, which may say whether to retry. -/
  | custom (text : String) (retryable : Option Value)

instance : Inhabited Failure := ⟨.pipeline ""⟩

namespace Failure

/-- Belongs to the pipeline itself. -/
def isPipeline : Failure → Bool
  | .pipeline _ | .transport _ | .remote .. | .exhausted _ | .pageLimit _ | .malformed _
  | .probe _ => true
  | _ => false

/-- Worth another attempt, by default: all but the pipeline's final verdicts and
what says of itself that it is not. -/
def isRetryable : Failure → Bool
  | .exhausted _ | .pageLimit _ | .malformed _ | .probe _ => false
  | .custom _ (some v) => v.isTruthy
  | _ => true

def status? : Failure → Option Int
  | .remote status _ => some status
  | _ => none

mutual

def message : Failure → String
  | .pipeline text | .transport text | .malformed text | .probe text => text
  | .remote status detail =>
    "server responded with " ++ toString status ++ " status"
      ++ if detail.isEmpty then "" else ": " ++ detail
  | .exhausted errors =>
    "all " ++ toString errors.length
      ++ " attempts of sending a request failed. See the errors:" ++ numbered 1 errors
  | .pageLimit bound =>
    "pagination limit exceeded: server reported more than " ++ bound.asText ++ " pages"
  | .fault cause => cause.message
  | .invalid record problems =>
    toString problems.length ++ " validation error" ++ (if problems.length = 1 then "" else "s")
      ++ " for " ++ record
  | .foreign .lookup text => Text.quoted text
  | .foreign _ text => text
  | .custom text _ => text

def numbered (i : Nat) : List Failure → String
  | [] => ""
  | e :: rest => "\n" ++ toString i ++ ". [" ++ e.message ++ "]" ++ numbered (i + 1) rest

end

@[simp] theorem isRetryable_exhausted (errors : List Failure) :
    (exhausted errors).isRetryable = false := rfl

@[simp] theorem isRetryable_pageLimit (bound : Value) :
    (pageLimit bound).isRetryable = false := rfl

end Failure

end PullRelay
