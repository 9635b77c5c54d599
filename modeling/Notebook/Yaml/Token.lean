import Notebook.Calendar
import Notebook.Text.Quoted

set_option autoImplicit false

namespace Notebook.Yaml

/-- Why a text gives no data. -/
inductive Error where
  /-- A character that may not stand in a text. -/
  | reader (code : Nat)
  | scanner
  | parser
  | composer
  | constructor
  /-- An escape for a number that no character has. -/
  | badCode
  /-- A truth value, integer or float by its tag whose text is none. -/
  | badBool (text : String)
  | badInt (base : Nat) (text : String)
  | badFloat (text : String)
  /-- A number by its tag with no character where the first one is looked at. -/
  | emptyNumber
  /-- A time by its tag whose text is none, or that has no text. -/
  | badTime
  | noTimeText
  | calendar (f : CalendarFault)
deriving DecidableEq, Repr

/-- What is told of an error; of some only the kind is told. -/
def Error.message : Error → Option String
  | .reader .. | .scanner | .parser | .composer | .constructor => none
  | .badCode => some "chr() arg not in range(0x110000)"
  | .badBool s => some (Text.quote s)
  | .badInt b s => some s!"invalid literal for int() with base {b}: {Text.quote s}"
  | .badFloat s => some s!"could not convert string to float: {Text.quote s}"
  | .emptyNumber => some "string index out of range"
  | .badTime => some "'NoneType' object has no attribute 'groupdict'"
  | .noTimeText => some "expected string or bytes-like object, got 'list'"
  | .calendar f => some f.message

inductive Token where
  | finish
  /-- A directive that gives a tag handle its meaning. -/
  | tagDirective (handle meaning : String)
  /-- A directive of the language version or of an unknown kind. -/
  | otherDirective (name : String) (major : Nat)
  | documentStart
  | documentEnd
  | sequenceStart
  | mappingStart
  | blockEnd
  | flowSequenceStart
  | flowSequenceEnd
  | flowMappingStart
  | flowMappingEnd
  | flowEntry
  | blockEntry
  | key
  | value
  | alias (name : String)
  | anchor (name : String)
  | tag (handle : Option String) (suffix : String)
  | scalar (text : String) (isPlain : Bool)
deriving DecidableEq, Repr, Inhabited

structure Tokens where
  tokens : Array Token
  error : Option Error

end Notebook.Yaml
