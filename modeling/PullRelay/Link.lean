import PullRelay.Exchange
import PullRelay.Text.Casing
import PullRelay.Url.Address
import PullRelay.Url.Query

/-!
# Links to further pages

A server says in its `Link` header where the other pages of a list are.  Links
stand in pointed brackets, separated by commas, each with attributes after
semicolons; the one whose relation is `next` names the next page in the `page`
parameter of its address.
-/

namespace PullRelay

open Text

/-- A link: where it points, and its attributes in order. -/
structure Link where
  target : String
  attributes : List (String × String)
deriving DecidableEq, Repr

namespace Link

/-- Blanks and quotes around a link or an attribute do not matter. -/
def isPadding (c : Char) : Bool := c == ' ' || c == '\x27' || c == '"'

def opensTarget (cs : List Char) : Bool := (cs.dropWhile (· == ' ')).head? == some '<'

/-- Cut at each comma after which a bracket opens; comma, spaces and bracket go. -/
def cut : List Char → List (List Char)
  | [] => [[]]
  | c :: rest =>
    match cut rest with
    | [] => [[c]]
    | piece :: pieces =>
      if c = ',' ∧ opensTarget rest then [] :: (piece.dropWhile (· == ' ')).drop 1 :: pieces
      else (c :: piece) :: pieces

/-- An attribute: a name and a value around the only equals sign. -/
def attribute? (cs : List Char) : Option (String × String) :=
  match splitAll '=' cs with
  | [name, value] =>
    some (String.ofList (trimList isPadding name), String.ofList (trimList isPadding value))
  | _ => none

/-- The attributes up to the first piece that is none. -/
def attributesOf : List (List Char) → List (String × String)
  | [] => []
  | piece :: pieces =>
    match attribute? piece with
    | some a => a :: attributesOf pieces
    | none => []

def ofPiece (cs : List Char) : Link :=
  let parts := splitFirst ';' cs
  { target := String.ofList (trimList (fun c ↦ isPadding c || c == '<' || c == '>') parts.1)
    attributes := attributesOf ((parts.2.map (splitAll ';')).getD []) }

def parse (s : String) : List Link :=
  match trimList isPadding s.toList with
  | [] => []
  | cs => (cut cs).map ofPiece

/-- The value of an attribute; of a repeated one the last counts. -/
def value? (l : Link) (name : String) : Option String := l.attributes.reverse.lookup name

/-- The address of a link: its target, unless an attribute gives another one. -/
def address (l : Link) : String := (l.value? "url").getD l.target

/-- The relation of the page that follows. -/
def nextRelation : String := "next"

def isNext (l : Link) : Bool := l.value? "rel" == some nextRelation

/-- The page that a link points to: the first `page` parameter, if it is a whole
number. -/
def page (l : Link) : Except Fault (Option Int) := do
  let query ← (Url.query l.address).mapError .host
  return ((Url.parameters query).lookup "page").bind fun text ↦ (Numeral.readInt text).toOption

end Link

/-- The text of the first link header, under a name in letters of either case. -/
def Headers.linkText (h : Headers) : String :=
  match h.find? fun f ↦ Text.lower f.1 == "link" with
  | some f => f.2.asText
  | none => ""

@[simp] theorem Headers.linkText_nil : Headers.linkText [] = "" := rfl

/-- The page that follows, as far as the headers name one. -/
def Headers.nextPage (h : Headers) : Except Fault (Option Int) :=
  match (Link.parse h.linkText).find? Link.isNext with
  | some link => link.page
  | none => .ok none

end PullRelay
