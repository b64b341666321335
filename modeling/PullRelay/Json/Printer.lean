import PullRelay.Json.Text
import PullRelay.Room
import PullRelay.Text.Pieces

/-!
# Printing JSON

Documents are printed with one item or field a line, indented by two spaces a
level; fields come in the order of their names.  A value is printed only if there is
room for it.
-/

namespace PullRelay

/-- Named entries in the order of their names. -/
def Json.sortByName {α : Type} (entries : List (String × α)) : List (String × α) :=
  entries.mergeSort fun a b ↦ !decide (b.1 < a.1)

namespace Value

mutual

/-- The value with the fields of objects in the order of their names. -/
def sorted : Value → Value
  | .list items => .list (sortedItems items)
  | .object fields => .object (Json.sortByName (sortedFields fields))
  | v => v

def sortedItems : List Value → List Value
  | [] => []
  | v :: rest => v.sorted :: sortedItems rest

/-- The values of fields with their own fields in order. -/
def sortedFields : List (String × Value) → List (String × Value)
  | [] => []
  | (name, v) :: rest => (name, v.sorted) :: sortedFields rest

end

end Value

namespace Json

open PullRelay.Text

/-- The layout of binary numbers in documents. -/
def realLayout : Binary64.Layout := { nanText := "NaN", infinityText := "Infinity" }

/-- A line break and the indentation of a level. -/
def newline (level : Nat) : List Char := '\n' :: List.replicate (2 * level) ' '

/-- Entries on lines of their own between brackets. -/
def block (opening closing : Char) (level : Nat) (entries : List (List Char)) : List Char :=
  match entries with
  | [] => [opening, closing]
  | entries =>
    opening :: newline (level + 1) ++ joinWith (',' :: newline (level + 1)) entries
      ++ newline level ++ [closing]

def writeField (f : String × List Char) : List Char := writeText f.1 ++ ':' :: ' ' :: f.2

mutual

def write (level : Nat) : Value → List Char
  | .null => "null".toList
  | .bool true => "true".toList
  | .bool false => "false".toList
  | .int n => (toString n).toList
  | .real x => (realLayout.text x).toList
  | .text s => writeText s
  | .list items => block '[' ']' level (writeItems (level + 1) items)
  | .object fields =>
    block '\x7b' '\x7d' level ((sortByName (writeFields (level + 1) fields)).map writeField)

def writeItems (level : Nat) : List Value → List (List Char)
  | [] => []
  | v :: rest => write level v :: writeItems level rest

def writeFields (level : Nat) : List (String × Value) → List (String × List Char)
  | [] => []
  | (name, v) :: rest => (name, write level v) :: writeFields level rest

end

/-- A value as a document. -/
def print (v : Value) : String := String.ofList (write 0 v)

/-- A value can be printed: what is wrong is found in the order of the document. -/
def checkPrint (room : Nat) (v : Value) : Except PullRelay.Fault Unit :=
  v.sorted.check .printedTooDeeply room

end Json

end PullRelay
