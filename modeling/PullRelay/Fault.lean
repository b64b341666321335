import PullRelay.Value

/-!
# Faults

A `Fault` is the cause for which a value cannot be used where it stands: a text
that is no number, an option out of bounds, an instant outside the calendar.
Its wording is in `Fault.message` alone; its `family` says how callers may group
it with others, which decides what a pipeline turns into a failed page and what
passes through it.
-/

namespace PullRelay

/-- How faults are grouped by those who handle them. -/
inductive Family where
  /-- The right kind of value, but not an allowed one. -/
  | value
  /-- The wrong kind of value. -/
  | kind
  /-- Too large for its representation. -/
  | range
  /-- A field that is not there. -/
  | lookup
  /-- Refused by the operating system. -/
  | system
  /-- Asked for something that it does not have or does not allow. -/
  | member
  /-- An index past the ends of a list. -/
  | index
  /-- Nested too deeply. -/
  | depth
  /-- Anything else that goes wrong at run time. -/
  | runtime
deriving DecidableEq, Repr

/-- What is wrong with the host of an address. -/
inductive HostFault where
  /-- Only one kind of bracket, or something next to them. -/
  | misplacedBrackets
  | notAnAddress (host : String)
  | version4InBrackets
  | badFutureVersion
  | hiddenDelimiter (authority : String)
deriving DecidableEq, Repr

/-- Why a value cannot be used where it stands. -/
inductive Fault where
  | notInteger (text : String)
  | integerTooLong (digits : Nat)
  | integerFrom (kind : Kind)
  | integerFromNaN
  | integerFromInfinity
  | realTooLarge
  | notComparable (kind : Kind)
  | notIterable (kind : Kind)
  | notAnIndex
  | missingField (key : String)
  | negativeDelay (given : Value)
  | pageBoundTooSmall (given : Value)
  | notALayer (given : Value)
  | yearOutOfRange (year : Int)
  | instantTooLarge
  | instantUnrepresentable
  | settingNotInteger (name given : String)
  | settingNotNumber (name given : String)
  | settingBelow (name : String) (least : Int) (given : String)
  | unknownLogLevel (given : String)
  | unknownField (record field : String)
  | fixedField (record field : String)
  | unwritable (record name : String)
  | notAClass (kind : Kind)
  | notAFieldTable (kind : Kind)
  /-- Something that does not have what it is asked for. -/
  | noMember (owner member : String)
  /-- Something that cannot be told to do anything. -/
  | notCallable (kind : Kind)
  /-- Something that is looked up by name and has no names. -/
  | notNamed (kind : Kind)
  /-- Something that is no index of a list. -/
  | notAListIndex (kind : Kind)
  | indexOutOfRange
  /-- An index that does not fit into 64 bits. -/
  | indexTooLarge
  | notASegment
  /-- A kind of record that is not read from rows. -/
  | noRowReader
  | unexpectedArgument (operation name : String)
  | missingArguments (operation : String) (names : List String)
  /-- Too many containers inside one another; the innermost one. -/
  | nestedTooDeeply (container : Kind)
  /-- A whole number of too many digits to be written. -/
  | numberTooLong
  /-- A value that stands too deep inside others to be shown. -/
  | shownTooDeeply
  /-- A value that stands too deep inside others to be printed. -/
  | printedTooDeeply
  | host (fault : HostFault)
deriving Repr

def HostFault.message : HostFault → String
  | .misplacedBrackets => "Invalid IPv6 URL"
  | .notAnAddress host => Text.quoted host ++ " does not appear to be an IPv4 or IPv6 address"
  | .version4InBrackets => "An IPv4 address cannot be in brackets"
  | .badFutureVersion => "IPvFuture address is invalid"
  | .hiddenDelimiter authority =>
    "netloc '" ++ authority ++ "' contains invalid characters under NFKC normalization"

namespace Fault

def family : Fault → Family
  | .integerFrom _ | .notComparable _ | .notIterable _ | .notAnIndex | .notALayer _
  | .notAClass _ | .notAFieldTable _ | .notASegment | .notCallable _ | .notNamed _
  | .notAListIndex _ | .unexpectedArgument .. | .missingArguments .. => .kind
  | .integerFromInfinity | .realTooLarge | .instantTooLarge => .range
  | .missingField _ => .lookup
  | .instantUnrepresentable => .system
  | .fixedField .. | .unwritable .. | .noMember .. | .noRowReader => .member
  | .indexOutOfRange | .indexTooLarge => .index
  | .nestedTooDeeply _ | .shownTooDeeply | .printedTooDeeply => .depth
  | _ => .value

/-- A quoted text in a message, cut off after 200 characters. -/
def excerpt (s : String) : String := String.ofList ((Text.quoted s).toList.take 200)

/-- Names in quotes one after the other, with an *and* before the last. -/
def enumerated (names : List String) : String :=
  match names.map Text.quoted with
  | [a, b] => a ++ " and " ++ b
  | quoted =>
    if quoted.length ≤ 1 then ", ".intercalate quoted
    else ", ".intercalate quoted.dropLast ++ ", and " ++ quoted.getLast?.getD ""

/-- What a client is called in messages. -/
def clientName : String := "PipelineClient"

def message : Fault → String
  | .notInteger text => "invalid literal for int() with base 10: " ++ excerpt text
  | .integerTooLong digits =>
    "Exceeds the limit (4300 digits) for integer string conversion: value has "
      ++ toString digits ++ " digits; use sys.set_int_max_str_digits() to increase the limit"
  | .integerFrom kind =>
    "int() argument must be a string, a bytes-like object or a real number, not '"
      ++ kind.name ++ "'"
  | .integerFromNaN => "cannot convert float NaN to integer"
  | .integerFromInfinity => "cannot convert float infinity to integer"
  | .realTooLarge => "int too large to convert to float"
  | .notComparable kind =>
    "'<' not supported between instances of '" ++ kind.name ++ "' and 'int'"
  | .notIterable kind => "'" ++ kind.name ++ "' object is not iterable"
  | .notAnIndex => "slice indices must be integers or None or have an __index__ method"
  | .missingField key => Text.quoted key
  | .negativeDelay given => "delay_s must be >= 0, got " ++ given.asText
  | .pageBoundTooSmall given => "max_pages must be >= 1 or None, got " ++ given.asText
  | .notALayer given => "Not a middleware: " ++ given.shown
  | .yearOutOfRange year => "year " ++ toString year ++ " is out of range"
  | .instantTooLarge => "timestamp out of range for platform time_t"
  | .instantUnrepresentable => "[Errno 75] Value too large for defined data type"
  | .settingNotInteger name given => name ++ " must be an integer, got " ++ Text.quoted given
  | .settingNotNumber name given => name ++ " must be a number, got " ++ Text.quoted given
  | .settingBelow name least given =>
    name ++ " must be >= " ++ toString least ++ ", got " ++ Text.quoted given
  | .unknownLogLevel given => "Unknown log level: " ++ given
  | .unknownField record field =>
    "\"" ++ record ++ "\" object has no field \"" ++ field ++ "\""
  | .fixedField record field =>
    "property " ++ Text.quoted field ++ " of " ++ Text.quoted record ++ " object has no setter"
  | .unwritable record name =>
    "attribute " ++ Text.quoted name ++ " of " ++ Text.quoted record ++ " objects is not writable"
  | .notAClass kind => "__class__ must be set to a class, not '" ++ kind.name ++ "' object"
  | .notAFieldTable kind => "__dict__ must be set to a dictionary, not a '" ++ kind.name ++ "'"
  | .noMember owner member => "'" ++ owner ++ "' object has no attribute '" ++ member ++ "'"
  | .notCallable kind => "'" ++ kind.name ++ "' object is not callable"
  | .notNamed .text => "string indices must be integers, not 'str'"
  | .notNamed .list => "list indices must be integers or slices, not str"
  | .notNamed kind => "'" ++ kind.name ++ "' object is not subscriptable"
  | .notAListIndex kind => "list indices must be integers or slices, not " ++ kind.name
  | .indexOutOfRange => "list index out of range"
  | .indexTooLarge => "cannot fit 'int' into an index-sized integer"
  | .notASegment => "quote_from_bytes() expected bytes"
  | .noRowReader => "from_api"
  | .unexpectedArgument operation name =>
    clientName ++ "." ++ operation ++ "() got an unexpected keyword argument '" ++ name ++ "'"
  | .missingArguments operation names =>
    clientName ++ "." ++ operation ++ "() missing " ++ toString names.length
      ++ " required positional argument" ++ (if names.length = 1 then "" else "s") ++ ": "
      ++ enumerated names
  | .nestedTooDeeply container =>
    "maximum recursion depth exceeded while decoding a JSON "
      ++ (if container = .object then "object" else "array") ++ " from a unicode string"
  | .numberTooLong =>
    "Exceeds the limit (4300 digits) for integer string conversion; "
      ++ "use sys.set_int_max_str_digits() to increase the limit"
  | .shownTooDeeply =>
    "maximum recursion depth exceeded while getting the repr of an object"
  | .printedTooDeeply => "maximum recursion depth exceeded while calling a Python object"
  | .host fault => fault.message

end Fault

/-- The whole number that a value stands for: a number without its fraction, a
truth value as 0 or 1, or the number a text spells. -/
def Value.toInt : Value → Except Fault Int
  | .bool b => .ok (if b then 1 else 0)
  | .int n => .ok n
  | .real .nan => .error .integerFromNaN
  | .real (.infinite _) => .error .integerFromInfinity
  | .real (.finite negative s e) =>
    .ok (if negative then -(Binary64.wholePart s e : Int) else Binary64.wholePart s e)
  | .text s =>
    match Numeral.readInt s with
    | .ok n => .ok n
    | .error .malformed => .error (.notInteger s)
    | .error (.tooLong digits) => .error (.integerTooLong digits)
  | v => .error (.integerFrom v.kind)

/-- Comparison with a whole number, which takes a number. -/
def Value.isBelow (v : Value) (n : Int) : Except Fault Bool :=
  match v.belowInt? n with
  | some below => .ok below
  | none => .error (.notComparable v.kind)

def Value.toReal : Value → Except Fault Binary64
  | .real x => .ok x
  | .bool b => .ok ((Binary64.ofInt? (if b then 1 else 0)).getD .nan)
  | .int n =>
    match Binary64.ofInt? n with
    | some x => .ok x
    | none => .error .realTooLarge
  | v => .error (.notComparable v.kind)

/-- The items that a value consists of: the items of a list, the characters of a
text, the keys of an object. -/
def Value.items : Value → Except Fault (List Value)
  | .list items => .ok items
  | .text s => .ok (s.toList.map fun c ↦ .text c.toString)
  | .object fields => .ok (fields.map fun f ↦ .text f.1)
  | v => .error (.notIterable v.kind)

end PullRelay
