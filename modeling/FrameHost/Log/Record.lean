import FrameHost.Decimal.Notation

/-! What a program part says about itself: a level, a target, a message and named fields. -/

set_option autoImplicit false

namespace FrameHost.Log

/-- From the gravest to the most detailed. -/
inductive Level where
  | error | warn | info | debug | trace
  deriving DecidableEq, Repr, Inhabited

def Level.rank : Level → Nat
  | .error => 1
  | .warn => 2
  | .info => 3
  | .debug => 4
  | .trace => 5

def Level.name : Level → String
  | .error => "ERROR"
  | .warn => "WARN"
  | .info => "INFO"
  | .debug => "DEBUG"
  | .trace => "TRACE"

def Level.all : List Level := [.error, .warn, .info, .debug, .trace]

inductive Value where
  | text (s : String)
  | count (n : Nat)
  | integer (n : Int)
  | number (x : Float)
  | flag (b : Bool)

def Value.plain : Value → String
  | .text s => s
  | .count n => toString n
  | .integer n => toString n
  | .number x => Decimal.Layout.scientific.float x
  | .flag b => if b then "true" else "false"

structure Record where
  level : Level
  target : String
  message : String
  fields : List (String × Value)

/-- Names of all fields; the message is the first of them. -/
def Record.fieldNames (r : Record) : List String := "message" :: r.fields.map (·.1)

end FrameHost.Log
