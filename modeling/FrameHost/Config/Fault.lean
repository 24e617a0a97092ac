import FrameHost.Decimal.Notation
import FrameHost.Document
import FrameHost.Text.Quoted

/-! What is wrong with a document that does not hold a configuration, and where. -/

set_option autoImplicit false

namespace FrameHost.Config

/-- The languages in which documents are written. They differ in the words for faults and in
what stands for a choice between names. -/
inductive Dialect where
  | toml | json
  deriving DecidableEq, Repr

inductive Found where
  | null
  | boolean (b : Bool)
  | integer (n : Int)
  | number (x : Float)
  | text (s : String)
  | sequence
  | map

def Found.of : Document → Found
  | .null => .null
  | .boolean b => .boolean b
  | .integer n => .integer n
  | .number x => .number x
  | .text s => .text s
  | .list _ | .sections _ => .sequence
  | .moment | .table _ => .map

def Found.words (dialect : Dialect) : Found → String
  | .null => "null"
  | .boolean b => if b then "boolean `true`" else "boolean `false`"
  | .integer n => "integer `" ++ toString n ++ "`"
  | .number x =>
    let layout : Decimal.Layout := match dialect with
      | .toml => .positional
      | .json => .json
    "floating point `" ++ layout.float x ++ "`"
  | .text s => "string " ++ Text.quoted s
  | .sequence => "sequence"
  | .map => "map"

def kindName : Document → String
  | .null => "none"
  | .boolean _ => "boolean"
  | .integer _ => "integer"
  | .number _ => "float"
  | .text _ => "string"
  | .moment => "datetime"
  | .list _ => "array"
  | .sections _ => "array of tables"
  | .table _ => "table"

inductive Cause where
  | invalidType (found : Found) (expected : String)
  | invalidValue (found : Found) (expected : String)
  | invalidLength (length : Nat) (expected : String)
  | missingField (name : String)
  | unknownVariant (name : String)
  | noChoice
  | manyChoices
  | notAChoice
  | choiceNotEmpty (wanted : String)
  | choiceNotTable (found : String)

def Cause.words (dialect : Dialect) : Cause → String
  | .invalidType found expected => "invalid type: " ++ found.words dialect ++ ", expected " ++ expected
  | .invalidValue found expected =>
    "invalid value: " ++ found.words dialect ++ ", expected " ++ expected
  | .invalidLength length expected => "invalid length " ++ toString length ++ ", expected " ++ expected
  | .missingField name => "missing field `" ++ name ++ "`"
  | .unknownVariant name => "unknown variant `" ++ name ++ "`, expected `text` or `json`"
  | .noChoice => "wanted exactly 1 element, found 0 elements"
  | .manyChoices => "wanted exactly 1 element, more than 1 element"
  | .notAChoice => "wanted string or table"
  | .choiceNotEmpty wanted => "expected empty " ++ wanted
  | .choiceNotTable found => "expected table, found " ++ found

inductive Step where
  | field (name : String)
  | item (index : Nat)
  /-- To the value of the only entry of a choice. -/
  | choice (name : String)
  deriving DecidableEq, Repr

def Step.key? : Step → Option String
  | .field name => some name
  | .item _ | .choice _ => none

/-- A fault lies in the value at the end of a path, or in the key of its last step. -/
structure Fault where
  cause : Cause
  path : List Step := []
  inKey : Bool := false

def Fault.at (step : Step) (f : Fault) : Fault := { f with path := step :: f.path }

def Fault.message (dialect : Dialect) (f : Fault) : String := f.cause.words dialect

end FrameHost.Config
