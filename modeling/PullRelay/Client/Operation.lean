import PullRelay.Client.Call
import PullRelay.Record.Resources
import PullRelay.Url.Percent

/-!
# Operations

What a client can be asked to do in a repository, each with the call that does
it and the shape of its answer.  User names and labels are one segment of a path
each; all other parts of a path are written as they are.
-/

namespace PullRelay

/-- Something to do in a repository. -/
inductive Operation where
  | permissionLevel (owner repo user : String)
  | pullRequest (owner repo : String) (number : Value)
  | pullRequestFiles (owner repo : String) (number : Value)
  | pullRequestReviews (owner repo : String) (number : Value)
  | issueComments (issue : Issue)
  | createIssueComment (issue : Issue) (body : Value)
  | editIssueComment (issue : Issue) (comment body : Value)
  | createStatus (change : Change) (status : CommitStatus)
  | addLabels (change : Change) (number : Value) (labels : List Value)
  | removeLabel (change : Change) (number : Value) (label : String)
  | editPullRequest (owner repo : String) (number changes : Value)

/-- Something staged: a row as the server sent it, or a file. -/
inductive Item where
  | row (fields : List (String × Value))
  | file (file : ChangedFile)

/-- What an operation yields. -/
inductive Answer where
  | nothing
  | record (fields : List (String × Value))
  | rows (list : List (List (String × Value)))
  | files (list : List ChangedFile)
  | permission (level : PermissionLevel)

def Answer.value : Answer → Value
  | .nothing => .null
  | .record fields => .object fields
  | .rows list => .list (list.map .object)
  | .files list => .list (list.map fun f ↦ .object f.fields)
  | .permission level => .object level.fields

/-- A segment of a path, which has to be given as a text. -/
def Operation.segment : Value → Except Fault String
  | .text s => .ok s
  | _ => .error .notASegment

inductive Shape where
  | nothing
  | record
  | rows
  | files
  | permission
deriving DecidableEq, Repr

namespace Item

/-- The rows of a list; items that are no objects are passed over. -/
def rowsOf (payload : Value) : List (List (String × Value)) :=
  match payload with
  | .list items => items.filterMap Value.fields?
  | _ => []

/-- An object as the only row. -/
def single (payload : Value) : List Item :=
  match payload with
  | .object fields => [.row fields]
  | _ => []

def row? : Item → Option (List (String × Value))
  | .row fields => some fields
  | .file _ => none

def file? : Item → Option ChangedFile
  | .row _ => none
  | .file f => some f

end Item

namespace Shape

def read : Shape → Room → Value → Except Fault (List Item)
  | .nothing, _, _ => .ok []
  | .record, _, payload | .permission, _, payload => .ok (Item.single payload)
  | .rows, _, payload => .ok ((Item.rowsOf payload).map .row)
  | .files, room, payload =>
    (Item.rowsOf payload).mapM fun row ↦ (ChangedFile.read room row).map .file

/-- The record among items: the first of them, or one without fields. -/
def recordOf (items : List Item) : List (String × Value) := ((items.head?).bind Item.row?).getD []

/-- The answer that items make, with texts of any size. -/
def answer : Shape → List Item → Answer
  | .nothing, _ => .nothing
  | .record, items => .record (recordOf items)
  | .rows, items => .rows (items.filterMap Item.row?)
  | .files, items => .files (items.filterMap Item.file?)
  | .permission, items => .permission (PermissionLevel.ofRow (recordOf items))

/-- The answer that items make, where there is room for its texts.  Only the texts of a
permission are put together at this point. -/
def conclude (shape : Shape) (room : Room) (items : List Item) : Except Fault Answer :=
  match shape with
  | .permission => (PermissionLevel.read room (recordOf items)).map .permission
  | shape => .ok (shape.answer items)

end Shape

namespace Operation

/-- The shape of the answer to an operation. -/
def shape : Operation → Shape
  | .permissionLevel .. => .permission
  | .pullRequestFiles .. => .files
  | .pullRequestReviews .. | .issueComments .. | .addLabels .. => .rows
  | .removeLabel .. => .nothing
  | _ => .record

/-- The answer comes in pages. -/
def isPaginated : Operation → Bool
  | .pullRequestFiles .. | .pullRequestReviews .. | .issueComments .. => true
  | _ => false

def method : Operation → String
  | .createIssueComment .. | .createStatus .. | .addLabels .. => "POST"
  | .editIssueComment .. | .editPullRequest .. => "PATCH"
  | .removeLabel .. => "DELETE"
  | _ => "GET"

def repository (owner repo : String) : String := "/repos/" ++ owner ++ "/" ++ repo

def pull (owner repo : String) (number : Value) : String :=
  repository owner repo ++ "/pulls/" ++ number.asText

def issues (owner repo : String) : String := repository owner repo ++ "/issues/"

def path : Operation → String
  | .permissionLevel owner repo user =>
    repository owner repo ++ "/collaborators/" ++ Url.Percent.encode user ++ "/permission"
  | .pullRequest owner repo number | .editPullRequest owner repo number _ =>
    pull owner repo number
  | .pullRequestFiles owner repo number => pull owner repo number ++ "/files"
  | .pullRequestReviews owner repo number => pull owner repo number ++ "/reviews"
  | .issueComments issue | .createIssueComment issue _ =>
    issues issue.owner issue.repo ++ toString issue.number ++ "/comments"
  | .editIssueComment issue comment _ =>
    issues issue.owner issue.repo ++ "comments/" ++ comment.asText
  | .createStatus change _ =>
    repository change.owner change.repo ++ "/statuses/" ++ change.hash
  | .addLabels change number _ =>
    issues change.owner change.repo ++ number.asText ++ "/labels"
  | .removeLabel change number label =>
    issues change.owner change.repo ++ number.asText ++ "/labels/" ++ Url.Percent.encode label

def body : Operation → Value
  | .createIssueComment _ body | .editIssueComment _ _ body => .object [("body", body)]
  | .createStatus _ status => .object status.payload
  | .addLabels _ _ labels => .object [("labels", .list labels)]
  | .editPullRequest _ _ _ changes => changes
  | _ => .null

/-- The call that does an operation. -/
def call (op : Operation) : Call Item where
  method := op.method
  path := op.path
  body := op.body
  paginated := op.isPaginated
  read := op.shape.read

@[simp] theorem call_method (op : Operation) : op.call.method = op.method := rfl

@[simp] theorem call_path (op : Operation) : op.call.path = op.path := rfl

@[simp] theorem call_body (op : Operation) : op.call.body = op.body := rfl

@[simp] theorem call_paginated (op : Operation) : op.call.paginated = op.isPaginated := rfl

@[simp] theorem call_read (op : Operation) : op.call.read = op.shape.read := rfl

/-- Only what is read comes in pages. -/
theorem method_of_isPaginated {op : Operation} (h : op.isPaginated) : op.method = "GET" := by
  cases op <;> simp_all [isPaginated, method]

end Operation

end PullRelay
