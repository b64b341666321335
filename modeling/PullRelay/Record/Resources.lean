import PullRelay.Quota.Snapshot
import PullRelay.Record.Change
import PullRelay.Room

/-!
# The resources of a repository

What a client is asked about and what it answers: issues and commits, changed
files, commit statuses and permissions.
-/

namespace PullRelay

open Record

def Record.textOf (name : String) (record : List (String × Value)) : String :=
  match Value.field? name record with
  | some (.text s) => s
  | _ => ""

def Record.wholeAt (name : String) (record : List (String × Value)) : Int :=
  match Value.field? name record with
  | some (.int n) => n
  | _ => 0

/-- A field of a row that the server sent, or a default. -/
def Record.rowField (row : List (String × Value)) (key : String) (default : Value) : Value :=
  (Value.field? key row).getD default

/-- The text of a field of a row, where there is room for it. -/
def Record.rowText (room : Nat) (row : List (String × Value)) (key default : String) :
    Except Fault String :=
  (rowField row key (.text default)).textWithin room

structure Issue where
  owner : String
  repo : String
  number : Int
deriving DecidableEq, Repr

namespace Issue

/-- Owner and repository are not empty, and numbers start at one. -/
def schema : Schema where
  name := "RepositoryIssue"
  fields := [⟨"owner", .text 1, none⟩, ⟨"repo_name", .text 1, none⟩,
    ⟨"number", .whole (some 1), none⟩]
  frozen := true

def ofFields (given : List (String × Value)) : Except Failure Issue :=
  (schema.build given).map fun r ↦ ⟨textOf "owner" r, textOf "repo_name" r, wholeAt "number" r⟩

end Issue

/-- A commit of a repository. -/
structure Change where
  owner : String
  repo : String
  hash : String
deriving DecidableEq, Repr

namespace Change

/-- None of the parts is empty. -/
def schema : Schema where
  name := "RepositoryChange"
  fields := [⟨"owner", .text 1, none⟩, ⟨"repo_name", .text 1, none⟩, ⟨"hash", .text 1, none⟩]
  frozen := true

def ofFields (given : List (String × Value)) : Except Failure Change :=
  (schema.build given).map fun r ↦ ⟨textOf "owner" r, textOf "repo_name" r, textOf "hash" r⟩

end Change

structure ChangedFile where
  name : String
  status : String
  additions : Int
  deletions : Int
deriving DecidableEq, Repr

namespace ChangedFile

/-- Only the name has to be given. -/
def schema : Schema where
  name := "ChangedFile"
  fields := [⟨"name", .text 0, none⟩, ⟨"status", .text 0, some (.text "")⟩,
    ⟨"additions", .whole none, some (.int 0)⟩, ⟨"deletions", .whole none, some (.int 0)⟩]
  frozen := true

/-- A count of lines in a row; whatever counts as false is none. -/
def count (row : List (String × Value)) (key : String) : Except Fault Int :=
  match rowField row key (.int 0) with
  | v => if v.isTruthy then v.toInt else .ok 0

/-- A row that the server sent, with texts of any size.  Texts are taken as they are
shown. -/
def ofRow (row : List (String × Value)) : Except Fault ChangedFile := do
  let additions ← count row "additions"
  let deletions ← count row "deletions"
  return {
    name := (rowField row "filename" (.text "")).asText
    status := (rowField row "status" (.text "")).asText
    additions, deletions }

/-- Read a row that the server sent.  What is wrong is found in the order of the
fields. -/
def read (room : Room) (row : List (String × Value)) : Except Fault ChangedFile := do
  let _ ← rowText room.file row "filename" ""
  let _ ← rowText room.file row "status" ""
  ofRow row

def fields (f : ChangedFile) : List (String × Value) :=
  [("name", .text f.name), ("status", .text f.status), ("additions", .int f.additions),
    ("deletions", .int f.deletions)]

end ChangedFile

/-- A status to set on a commit.  The fields are values, because they can be set
to anything after the status has been made. -/
structure CommitStatus where
  state : Value
  context : Value
  description : Value
  targetUrl : Value

namespace CommitStatus

def states : List String := ["error", "failure", "pending", "success"]

/-- State and context have to be given; other fields are refused. -/
def schema : Schema where
  name := "CommitStatus"
  fields := [⟨"state", .choice states, none⟩, ⟨"context", .text 1, none⟩,
    ⟨"description", .text 0, some (.text "")⟩, ⟨"target_url", .text 0, some (.text "")⟩]
  closed := true

def ofRecord (r : List (String × Value)) : CommitStatus where
  state := rowField r "state" .null
  context := rowField r "context" .null
  description := rowField r "description" .null
  targetUrl := rowField r "target_url" .null

/-- The status of a record as it stands, which has to have all fields. -/
def ofStanding (r : Standing) : Except Fault CommitStatus := do
  let state ← r.member schema.name "state"
  let context ← r.member schema.name "context"
  let description ← r.member schema.name "description"
  let targetUrl ← r.member schema.name "target_url"
  return { state, context, description, targetUrl }

def ofFields (given : List (String × Value)) : Except Failure CommitStatus :=
  (schema.build given).map ofRecord

/-- What is sent for a status: description and address only if there are any. -/
def payload (s : CommitStatus) : List (String × Value) :=
  [("state", s.state), ("context", s.context)]
    ++ (if s.description.isTruthy then [("description", s.description)] else [])
    ++ (if s.targetUrl.isTruthy then [("target_url", s.targetUrl)] else [])

end CommitStatus

/-- What a user may do in a repository. -/
structure PermissionLevel where
  user : String
  permission : String
deriving DecidableEq, Repr

namespace PermissionLevel

/-- Both parts have to be given. -/
def schema : Schema where
  name := "PermissionLevel"
  fields := [⟨"user", .text 0, none⟩, ⟨"permission", .text 0, none⟩]

/-- A row that the server sent, with texts of any size. -/
def ofRow (row : List (String × Value)) : PermissionLevel where
  user :=
    match Value.field? "user" row with
    | some (.object user) => (rowField user "login" (.text "")).asText
    | _ => ""
  permission := (rowField row "permission" (.text "none")).asText

/-- The name of the user of a row, where there is room for it. -/
def login (room : Nat) (row : List (String × Value)) : Except Fault String :=
  match Value.field? "user" row with
  | some (.object user) => rowText room user "login" ""
  | _ => .ok ""

/-- Read a row that the server sent.  What is wrong with the user is found first. -/
def read (room : Room) (row : List (String × Value)) : Except Fault PermissionLevel := do
  let _ ← login room.permission row
  let _ ← rowText room.permission row "permission" "none"
  return ofRow row

def fields (p : PermissionLevel) : List (String × Value) :=
  [("user", .text p.user), ("permission", .text p.permission)]

end PermissionLevel

/-- All parts of a snapshot have to be given, and it cannot be changed. -/
def QuotaSnapshot.schema : Record.Schema where
  name := "QuotaSnapshot"
  fields := [⟨"remaining", .whole none, none⟩, ⟨"limit", .whole none, none⟩,
    ⟨"reset_at", .moment, none⟩]
  frozen := true

end PullRelay
