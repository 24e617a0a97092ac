import FrameHost.Log.Filter
import FrameHost.Text.Digit
import FrameHost.Text.Letters

/-! Regular expressions as the patterns of filters.

They have no look-around and no back references, and are compiled to automata, which know no word boundaries
of Unicode. A filter writes them where a comma, an equals sign and a closing brace cannot stand, so a counted
repetition is never complete. -/

set_option autoImplicit false

namespace FrameHost.Log.Pattern

/-- What flags can change: whether gaps are passed over, and whether characters are those of Unicode. -/
structure Mode where
  verbose : Bool := false
  unicode : Bool := true

def skipGaps (comment : Bool) : List Char → List Char
  | [] => []
  | c :: rest =>
    if comment then skipGaps (c ≠ '\n') rest
    else if Text.isBlank c then skipGaps false rest
    else if c = '#' then skipGaps true rest
    else c :: rest

def Mode.skip (mode : Mode) (text : List Char) : List Char :=
  if mode.verbose then skipGaps false text else text

def setting (flag : Char) (flags : List Char) (old : Bool) : Bool :=
  if (flags.takeWhile (· ≠ '-')).contains flag then true
  else if flags.contains flag then false
  else old

def Mode.after (mode : Mode) (flags : List Char) : Mode :=
  { verbose := setting 'x' flags mode.verbose, unicode := setting 'u' flags mode.unicode }

/-- Parts of an expression in a row: how many, how deep they go, and how deep the last one goes, unless it is
a row of flags, which cannot be repeated. -/
structure Row where
  count : Nat := 0
  height : Nat := 0
  last : Option Nat := none

namespace Row

def add (row : Row) (height : Nat) : Row :=
  { count := row.count + 1, height := max row.height height, last := some height }

def addFlags (row : Row) : Row := { row with count := row.count + 1, last := none }

def repeat? (row : Row) : Option Row := do
  let height := (← row.last) + 1
  return { row with height := max row.height height, last := some height }

/-- A row of one part goes no deeper than its part. -/
def tree (row : Row) : Nat := if row.count ≤ 1 then row.height else row.height + 1

end Row

inductive Escape where
  | literal (c : Char)
  | kind
  | edge
  | boundary

def hexDigits (mode : Mode) : Nat → Nat → List Char → Option (Nat × List Char)
  | 0, n, text => some (n, text)
  | width + 1, n, text =>
    match mode.skip text with
    | c :: rest => do hexDigits mode width (16 * n + (← Text.digit? 16 c)) rest
    | [] => none

def hexEscape (mode : Mode) (width : Nat) (text : List Char) : Option (Escape × List Char) := do
  let (code, rest) ← hexDigits mode width 0 text
  if code.isValidChar then some (.literal (Char.ofNat code), rest) else none

def categories : List Char := ['l', 'm', 'n', 'p', 's', 'z', 'c']

def category (mode : Mode) (text : List Char) : Option (Escape × List Char) :=
  match mode.skip text with
  | c :: rest => if mode.unicode && categories.contains c.toLower then some (.kind, rest) else none
  | [] => none

def isPunctuation (c : Char) : Bool :=
  c.toNat < 128 && !c.isAlphanum && c != '<' && c != '>'

/-- Read what follows a backslash. Without Unicode nothing may stand for half a character. -/
def escape (mode : Mode) : List Char → Option (Escape × List Char)
  | [] => none
  | 'x' :: rest => do
    let (code, left) ← hexDigits mode 2 0 rest
    if mode.unicode || code < 128 then some (.literal (Char.ofNat code), left) else none
  | 'u' :: rest => hexEscape mode 4 rest
  | 'U' :: rest => hexEscape mode 8 rest
  | 'p' :: rest => category mode rest
  | 'P' :: rest => category mode rest
  | c :: rest =>
    if c ∈ ['d', 's', 'w'] then some (.kind, rest)
    else if c ∈ ['D', 'S', 'W'] then if mode.unicode then some (.kind, rest) else none
    else if c ∈ ['A', 'z'] then some (.edge, rest)
    else if c ∈ ['b', 'B', '<', '>'] then some (.boundary, rest)
    else if c = 'n' then some (.literal '\n', rest)
    else if c = 't' then some (.literal '\t', rest)
    else if c = 'r' then some (.literal '\r', rest)
    else if c = 'a' then some (.literal '\x07', rest)
    else if c = 'f' then some (.literal '\x0c', rest)
    else if c = 'v' then some (.literal '\x0b', rest)
    else if isPunctuation c then some (.literal c, rest)
    else none

/-- One member of a bracketed class; `none` within stands for a class of characters. -/
def member (mode : Mode) (text : List Char) : Option (Option Char × List Char) := do
  let (e, rest) ← match text with
    | [] => none
    | '\\' :: rest => escape mode rest
    | c :: rest => some (.literal c, rest)
  match e with
  | .literal c => if mode.unicode || c.toNat < 128 then some (some c, rest) else none
  | .kind => some (none, rest)
  | .edge | .boundary => none

/-- The first character after a dash that counts there. -/
def Mode.peek? (mode : Mode) (text : List Char) : Option Char :=
  if mode.verbose then
    match text.dropWhile Text.isBlank with
    | '#' :: rest => (rest.dropWhile Text.isBlank).head?
    | rest => rest.head?
  else text.head?

def range (mode : Mode) (text : List Char) : Option (List Char) := do
  let (low, rest) ← member mode text
  match mode.skip rest with
  | '-' :: more =>
    if mode.peek? more = some ']' ∨ mode.peek? more = some '-' then some rest
    else do
      let (high, left) ← member mode (mode.skip more)
      if (← low) ≤ (← high) then some left else none
  | _ => some rest

def classNames : List String := [
  "alnum", "alpha", "ascii", "blank", "cntrl", "digit", "graph", "lower", "print", "punct",
  "space", "upper", "word", "xdigit"]

def namedClass? (text : List Char) : Option (Bool × List Char) :=
  match text with
  | ':' :: rest =>
    let (negated, body) := match rest with
      | '^' :: more => (true, more)
      | _ => (false, rest)
    let name := body.takeWhile fun c => 'a' ≤ c ∧ c ≤ 'z'
    match body.drop name.length with
    | ':' :: ']' :: left => if String.ofList name ∈ classNames then some (negated, left) else none
    | _ => none
  | _ => none

/-- An open bracket: what stands in it since the last operator, and how deep that goes which stands before. -/
structure Bracket where
  items : Row := {}
  left : Option Nat := none
  front : Bool := true

namespace Bracket

def add (b : Bracket) (height : Nat) : Bracket := { b with items := b.items.add height, front := false }

def height (b : Bracket) : Nat :=
  match b.left with
  | some left => max left b.items.tree + 1
  | none => b.items.tree

end Bracket

def opened? (mode : Mode) (text : List Char) : Option (List Char) :=
  match mode.skip text with
  | '^' :: rest => if mode.unicode then some rest else none
  | rest => some rest

def classRest? (mode : Mode) : Nat → Bracket → List Bracket → List Char → Option (Nat × List Char)
  | 0, _, _, _ => none
  | fuel + 1, b, outer, text =>
    match mode.skip text with
    | [] => none
    | c :: rest =>
      if b.front ∧ c = '-' then classRest? mode fuel { b with items := b.items.add 0 } outer rest
      else if b.front ∧ c = ']' ∧ b.items.count = 0 then classRest? mode fuel (b.add 0) outer rest
      else if c = ']' then
        match outer with
        | [] => some (b.height + 1, rest)
        | parent :: others => classRest? mode fuel (parent.add (b.height + 1)) others rest
      else if c = '[' then
        match namedClass? rest with
        | some (negated, left) =>
          if negated && !mode.unicode then none else classRest? mode fuel (b.add 0) outer left
        | none => do classRest? mode fuel {} (b :: outer) (← opened? mode rest)
      else if (c = '&' ∨ c = '-' ∨ c = '~') ∧ rest.head? = some c then
        classRest? mode fuel { left := some b.height, front := false } outer (rest.drop 1)
      else do classRest? mode fuel (b.add 0) outer (← range mode (c :: rest))

/-- Whether a row of flags is well formed: known ones, none twice, at most one negation and
a flag after it. -/
def flagsOk (flags : List Char) : Bool :=
  flags.all (fun c => "-imsUuxR".toList.contains c) && decide flags.Nodup
    && flags.getLast? != some '-'

def isNameChar (first : Bool) (c : Char) : Bool :=
  c == '_' || Text.isAlphabetic c
    || (!first && (Text.isNumeric c || c == '.' || c == '[' || c == ']'))

structure Opening where
  opens : Bool
  name : Option (List Char) := none
  flags : List Char := []
  rest : List Char

def namedOpening? (text : List Char) : Option Opening :=
  let name := text.takeWhile (· ≠ '>')
  match name, text.drop name.length with
  | c :: more, '>' :: rest =>
    if isNameChar true c && more.all (isNameChar false) then
      some { opens := true, name := some name, rest }
    else none
  | _, _ => none

def opening? : List Char → Option Opening
  | '?' :: 'P' :: '<' :: rest => namedOpening? rest
  | '?' :: '<' :: '!' :: _ => none
  | '?' :: '<' :: rest => namedOpening? rest
  | '?' :: rest =>
    let flags := rest.takeWhile fun c => c ≠ ':' ∧ c ≠ ')'
    if !flagsOk flags then none
    else
      match rest.drop flags.length with
      | ':' :: left => some { opens := true, flags, rest := left }
      | ')' :: left => if flags.isEmpty then none else some { opens := false, flags, rest := left }
      | _ => none
  | rest => some { opens := true, rest }

structure Group where
  row : Row := {}
  others : Row := {}
  mode : Mode := {}

namespace Group

def add (g : Group) (height : Nat) : Group := { g with row := g.row.add height }

def tree (g : Group) : Nat :=
  if g.others.count = 0 then g.row.tree else max g.others.height g.row.tree + 1

end Group

structure Progress where
  here : Group := {}
  outer : List Group := []
  names : List (List Char) := []
  boundary : Bool := false

def Progress.add (p : Progress) (height : Nat) : Progress := { p with here := p.here.add height }

def depthLimit : Nat := 250

def scan : Nat → Progress → List Char → Option Progress
  | 0, _, _ => none
  | fuel + 1, p, text =>
    let mode := p.here.mode
    match mode.skip text with
    | [] => if p.outer.isEmpty ∧ p.here.tree ≤ depthLimit then some p else none
    | '\\' :: rest => do
      let (e, left) ← escape mode rest
      let meets := match e with
        | .boundary => mode.unicode
        | _ => false
      scan fuel { p.add 0 with boundary := p.boundary || meets } left
    | '[' :: rest => do
      let (height, left) ← classRest? mode (rest.length + 1) {} [] (← opened? mode rest)
      scan fuel (p.add height) left
    | '(' :: rest => do
      let o ← opening? (mode.skip rest)
      let inner := mode.after o.flags
      if o.name.any fun n => p.names.contains n then none
      else if o.opens then
        scan fuel
          { p with here := { mode := inner }, outer := p.here :: p.outer, names := o.name.toList ++ p.names }
          o.rest
      else scan fuel { p with here := { p.here with row := p.here.row.addFlags, mode := inner } } o.rest
    | ')' :: rest =>
      match p.outer with
      | group :: others => scan fuel { p with here := group.add (p.here.tree + 1), outer := others } rest
      | [] => none
    | '|' :: rest =>
      scan fuel { p with here := { mode, others := p.here.others.add p.here.row.tree } } rest
    | c :: rest =>
      if c = '\x7b' then none
      else if c = '.' then if mode.unicode then scan fuel (p.add 0) rest else none
      else if c = '*' ∨ c = '+' ∨ c = '?' then do
        let row ← p.here.row.repeat?
        let lazy := rest.head? = some '?'
        scan fuel { p with here := { p.here with row } } (if lazy then rest.drop 1 else rest)
      else scan fuel (p.add 0) rest

def unsupported : String :=
  "unsupported regex feature for DFAs: cannot build DFAs for regexes with Unicode word boundaries; "
    ++ "switch to ASCII word boundaries, or heuristically enable Unicode word boundaries, or use a "
    ++ "different regex engine"

def refusal? (text : List Char) : Option String :=
  match scan (text.length + 1) {} text with
  | none => some "error building NFA"
  | some p => if p.boundary then some unsupported else none

instance expressions : Patterns := ⟨refusal?⟩

end FrameHost.Log.Pattern
