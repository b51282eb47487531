import Reactor.Text.Blank
import Reactor.Text.Lowercase

namespace Reactor

inductive Level
  | trace
  | debug
  | info
  | warn
  | error
  deriving DecidableEq, Repr, Ord

namespace Level

def text : Level → String
  | trace => "TRACE"
  | debug => "DEBUG"
  | info => "INFO"
  | warn => "WARN"
  | error => "ERROR"

def names : List (String × Level) :=
  [("trace", trace), ("debug", debug), ("info", info), ("warn", warn), ("error", error)]

def nameList : String := ", ".intercalate (names.map Prod.fst)

/-- The level of a name, whatever its case and surrounding blanks; `warning` is a second name. -/
def ofName? (name : String) : Option Level :=
  (("warning", warn) :: names).lookup (Text.lowercase (Text.trim name))

def ofName (name : String) : Level := (ofName? name).getD info

def note? (name : String) : Option String :=
  match ofName? name with
  | some _ => none
  | none => some s!"Invalid log level '{name}', defaulting to INFO. Valid levels: {nameList}"

end Level

inductive FieldValue
  | text (s : String)
  | number (n : Nat)
  deriving DecidableEq, Repr

structure Event where
  level : Level
  message : String
  fields : List (String × FieldValue)
  deriving DecidableEq, Repr

namespace Event

def info (message : String) : Event := ⟨.info, message, []⟩

def warn (message : String) : Event := ⟨.warn, message, []⟩

def error (message : String) : Event := ⟨.error, message, []⟩

def isShownAt (threshold : Level) (e : Event) : Bool := (compare threshold e.level).isLE

end Event

structure LogSettings where
  level : Level
  asJson : Bool
  withTarget : Bool
  withLocation : Bool
  withThread : Bool
  deriving DecidableEq, Repr

namespace LogSettings

def plain : LogSettings := ⟨.info, false, false, false, false⟩

def production : LogSettings := ⟨.info, true, true, true, true⟩

def development : LogSettings := ⟨.debug, false, true, false, false⟩

end LogSettings

end Reactor
