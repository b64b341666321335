import PullRelay.Fault

/-!
# Arguments of operations

A client is asked for an operation by its name, and its arguments are given by name as
well: all that the operation takes, and nothing else.
-/

namespace PullRelay.Operation

/-- What the operations take, by their names. -/
def parameters : List (String × List String) :=
  [("get_permission_level", ["owner", "repo", "user"]),
    ("get_pull_request", ["owner", "repo", "number"]),
    ("list_pull_request_files", ["owner", "repo", "number"]),
    ("list_pull_request_reviews", ["owner", "repo", "number"]),
    ("list_issue_comments", ["issue"]),
    ("create_issue_comment", ["issue", "body"]),
    ("edit_issue_comment", ["issue", "comment_id", "body"]),
    ("create_status", ["change", "status"]),
    ("add_pull_request_labels", ["change", "number", "labels"]),
    ("remove_pull_request_label", ["change", "number", "label"]),
    ("edit_pull_request", ["owner", "repo", "number", "changes"]),
    ("get_rate_limit", [])]

/-- The names that are not among others. -/
def lacking (names others : List String) : List String :=
  names.filter fun name ↦ !others.contains name

/-- Check the names of arguments.  One that is not taken is found before those that are
not given. -/
def checkArguments (name : String) (given : List String) : Except Fault Unit :=
  match Value.field? name parameters with
  | none => .error (.noMember Fault.clientName name)
  | some taken =>
    match lacking given taken with
    | extra :: _ => .error (.unexpectedArgument name extra)
    | [] =>
      match lacking taken given with
      | [] => .ok ()
      | names => .error (.missingArguments name names)

end PullRelay.Operation
