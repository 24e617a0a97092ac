import FrameHost.Decimal.Reading
import FrameHost.Log.Record
import FrameHost.Text.Blank
import FrameHost.Text.Letters

/-! Filters: which records a log takes.

A filter is a list of directives between commas. A directive names a target, a span, a field
and a level, all of them optional. The directive with the most specific target and field that
matches a record decides; without one the record is dropped. -/

set_option autoImplicit false

namespace FrameHost.Log

inductive Limit where
  | off
  | upTo (level : Level)
  deriving DecidableEq, Repr, Inhabited

namespace Limit

def admits : Limit → Level → Bool
  | .off, _ => false
  | .upTo most, level => level.rank ≤ most.rank

def all : List Limit := .off :: Level.all.map .upTo

def name : Limit → String
  | .off => "off"
  | .upTo .error => "error"
  | .upTo .warn => "warn"
  | .upTo .info => "info"
  | .upTo .debug => "debug"
  | .upTo .trace => "trace"

/-- A limit from its number or its name in either case of letters; no text at all is the
limit of errors. -/
def parse? (text : List Char) : Option Limit :=
  match (Decimal.natural? text).bind (all[·]?) with
  | some limit => some limit
  | none =>
    if text.isEmpty then some (.upTo .error)
    else all.find? fun limit => limit.name.toList = text.map Char.toLower

end Limit

structure Directive where
  target : Option String := none
  span : Option String := none
  field : Option String := none
  valued : Bool := false
  limit : Limit := .upTo .trace
  deriving DecidableEq, Repr, Inhabited

/-- A language of patterns over field values, by the reason why a text is none of its patterns. -/
class Patterns where
  refusal? : List Char → Option String

namespace Filter

/-- Why a text is no filter. A text is `torn` when a part of it that has to be cut out would
begin or end inside a character; nothing can be said about such a text. -/
inductive Defect where
  | directive
  | limit
  | field (reason : String)
  | torn
  deriving DecidableEq, Repr

def Defect.message : Defect → String
  | .directive => "invalid filter directive"
  | .limit =>
    "error parsing level filter: expected one of \"off\", \"error\", \"warn\", \"info\", "
      ++ "\"debug\", \"trace\", or a number 0-5"
  | .field reason => "invalid field filter: " ++ reason
  | .torn => ""

def fromByte : Nat → List Char → Option (List Char)
  | 0, text => some text
  | _, [] => none
  | n + 1, c :: rest => if c.utf8Size ≤ n + 1 then fromByte (n + 1 - c.utf8Size) rest else none

def toByte : Nat → List Char → Option (List Char)
  | 0, _ => some []
  | _, [] => none
  | n + 1, c :: rest =>
    if c.utf8Size ≤ n + 1 then (toByte (n + 1 - c.utf8Size) rest).map (c :: ·) else none

def cut (text : List Char) (start stop : Nat) : Except Defect (List Char) :=
  match (fromByte start text).bind (toByte (stop - start)) with
  | some part => .ok part
  | none => .error .torn

def cutFrom (text : List Char) (start : Nat) : Except Defect (List Char) :=
  match fromByte start text with
  | some part => .ok part
  | none => .error .torn

/-- How far a directive has been read. Numbers are the offset at which a part began. -/
inductive Stage where
  | start
  | levelOrTarget (start : Nat)
  | span (start : Nat)
  | field (start : Nat)
  | fields
  | target
  | level (start : Nat)

def readField [Patterns] (text : List Char) (d : Directive) : Except Defect Directive :=
  let name := text.takeWhile (· ≠ '=')
  match text.drop name.length with
  | [] => .ok { d with field := some (String.ofList name) }
  | _ :: rest =>
    -- Booleans and numbers are matched as such; only other values are patterns.
    let value := rest.takeWhile (· ≠ '=')
    let plain := value = "true".toList ∨ value = "false".toList ∨ Decimal.isFloatText value
    match if plain then none else Patterns.refusal? value with
    | some reason => .error (.field reason)
    | none => .ok { d with field := some (String.ofList name), valued := true }

def advance [Patterns] (whole : List Char) (offset : Nat) (c : Char) :
    Stage × Directive → Except Defect (Stage × Directive)
  | (.start, d) =>
    if c = '[' then .ok (.span (offset + 1), d)
    else if c = '-' ∨ c = ':' ∨ c = '_' ∨ Text.isAlphanumeric c then
      .ok (.levelOrTarget offset, d)
    else .error .directive
  | (.levelOrTarget start, d) =>
    if c = '=' then do
      let target ← cut whole start offset
      return (.level (offset + 1), { d with target := some (String.ofList target) })
    else if c = '[' then do
      let target ← cut whole start offset
      return (.span (offset + 1), { d with target := some (String.ofList target) })
    else .ok (.levelOrTarget start, d)
  | (.target, d) => if c = '=' then .ok (.level (offset + 1), d) else .error .directive
  | (.span start, d) =>
    if c = ']' then do
      let span ← cut whole start offset
      return (.target, { d with span := some (String.ofList span) })
    else if c = '\x7b' then do
      let span ← cut whole start offset
      let span := if span.isEmpty then none else some (String.ofList span)
      return (.field (offset + 1), { d with span })
    else .ok (.span start, d)
  | (.field start, d) =>
    if c = '\x7d' then do
      let field ← cut whole start offset
      if field.isEmpty then .error .directive
      else return (.fields, ← readField field d)
    else .ok (.field start, d)
  | (.fields, d) => if c = ']' then .ok (.target, d) else .error .directive
  | (.level start, d) => .ok (.level start, d)

def advanceAll [Patterns] (whole : List Char) (offset : Nat) :
    List Char → Stage × Directive → Except Defect (Stage × Directive)
  | [], state => .ok state
  | c :: rest, state => do
    let state ← advance whole offset c state
    advanceAll whole (offset + c.utf8Size) rest state

def close (whole : List Char) : Stage × Directive → Except Defect Directive
  | (.levelOrTarget start, d) => do
    let part ← cutFrom whole start
    match part, Limit.parse? part with
    | [], _ => return d
    | _, some limit => return { d with limit }
    | _, none => return { d with target := some (String.ofList part) }
  | (.level start, d) => do
    let part ← cutFrom whole start
    match part, Limit.parse? part with
    -- Without a level everything is let through.
    | [], _ => return d
    | _, some limit => return { d with limit }
    | _, none => .error .limit
  | (.target, d) => .ok d
  | _ => .error .directive

/-- Read one directive. Offsets are counted in the text without the blanks around it, but
parts are cut out of the text with them. -/
def readDirective [Patterns] (text : List Char) : Except Defect Directive :=
  (advanceAll text 0 (Text.trim text) (.start, {})).bind (close text)

def pieces (text : List Char) : List (List Char) :=
  text.foldr
    (fun c parts =>
      if c = ',' then [] :: parts
      else
        match parts with
        | [] => [[c]]
        | part :: rest => (c :: part) :: rest)
    [[]]

def readDirectives [Patterns] (text : String) : Except Defect (List Directive) :=
  ((pieces text.toList).filter fun part => !part.isEmpty).mapM readDirective

/-- Whether a directive decides about records on their own, outside of any span. -/
def isStatic (d : Directive) : Bool := d.span.isNone && !d.valued

/-- Whether a directive comes before another: longer targets first, those without a target
last; then those with a field; then by text, from the end of the alphabet. -/
def moreSpecific (a b : Directive) : Bool :=
  let size (d : Directive) := match d.target with
    | some t => t.utf8ByteSize + 1
    | none => 0
  if size a ≠ size b then size b < size a
  else if a.field.isSome ≠ b.field.isSome then a.field.isSome
  else if a.target ≠ b.target then b.target.getD "" < a.target.getD ""
  else b.field.getD "" < a.field.getD ""

/-- Put a directive at its place. It replaces one for the same target and field. -/
def insertDirective (d : Directive) : List Directive → List Directive
  | [] => [d]
  | e :: rest =>
    if d.target = e.target ∧ d.field = e.field then d :: rest
    else if moreSpecific d e then d :: e :: rest
    else e :: insertDirective d rest

def concerns (d : Directive) (r : Record) : Bool :=
  (d.target.all fun t => t.toList.isPrefixOf r.target.toList)
    && d.field.all fun f => r.fieldNames.contains f

end Filter

/-- A filter holds its directives with the most specific ones first. -/
structure Filter where
  directives : List Directive
  deriving DecidableEq, Repr, Inhabited

namespace Filter

def ofDirectives (directives : List Directive) : Filter :=
  ⟨(directives.filter isStatic).foldl (fun sorted d => insertDirective d sorted) []⟩

def parse [Patterns] (text : String) : Except Defect Filter :=
  (readDirectives text).map ofDirectives

def admits (f : Filter) (r : Record) : Bool :=
  match f.directives.find? fun d => concerns d r with
  | some d => d.limit.admits r.level
  | none => false

end Filter

end FrameHost.Log
