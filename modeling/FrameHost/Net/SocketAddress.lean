import FrameHost.Text.Digit

/-! Socket addresses: a numeric host of one of two families and a port.

Reading is greedy and takes the whole text. A host of four octets admits no superfluous
zeros; a host of eight groups may leave out one run of zeros and may end in four octets. -/

set_option autoImplicit false

namespace FrameHost.Net

inductive Host where
  | v4 (octets : List Nat)
  | v6 (groups : List Nat) (scope : Nat)
  deriving DecidableEq, Repr, Inhabited

structure SocketAddress where
  host : Host
  port : Nat
  deriving DecidableEq, Repr, Inhabited

abbrev Reader (α : Type) := List Char → Option (α × List Char)

namespace Reader

def char (c : Char) : Reader Unit
  | d :: rest => if c = d then some ((), rest) else none
  | [] => none

def digits (base : Nat) : List Char → List Nat × List Char
  | [] => ([], [])
  | c :: rest =>
    match Text.digit? base c with
    | some d =>
      let (more, left) := digits base rest
      (d :: more, left)
    | none => ([], c :: rest)

/-- A number of at least one digit and at most a given count, if there is one, and at most
`largest`. Unless zeros may lead, a number of several digits starts with none. -/
def number (base : Nat) (most : Option Nat) (zeros : Bool) (largest : Nat) : Reader Nat :=
  fun text =>
    let (ds, left) := digits base text
    let value := ds.foldl (fun n d => base * n + d) 0
    if ds.isEmpty ∨ most.any (· < ds.length) ∨ (!zeros ∧ ds.head? = some 0 ∧ 1 < ds.length)
        ∨ largest < value then none
    else some (value, left)

def octet : Reader Nat := number 10 (some 3) false 255

def group : Reader Nat := number 16 (some 4) true 65535

def separated {α : Type} (first : Bool) (read : Reader α) : Reader α := fun text =>
  if first then read text else (char ':' text).bind fun (_, rest) => read rest

def octets : Reader (List Nat) := fun text => do
  let (a, text) ← octet text
  let (_, text) ← char '.' text
  let (b, text) ← octet text
  let (_, text) ← char '.' text
  let (c, text) ← octet text
  let (_, text) ← char '.' text
  let (d, text) ← octet text
  return ([a, b, c, d], text)

def pairUp : List Nat → List Nat
  | a :: b :: rest => (256 * a + b) :: pairUp rest
  | _ => []

/-- As many groups as there are, up to a limit, whether they end in four octets, and what is
left. Four octets stand for two groups and end the row. -/
def groups (first : Bool) : Nat → List Char → List Nat × Bool × List Char
  | 0, text => ([], false, text)
  | limit + 1, text =>
    -- Four octets need room for two groups.
    match (if 0 < limit then separated first octets text else none) with
    | some (four, rest) => (pairUp four, true, rest)
    | none =>
      match separated first group text with
      | some (g, rest) =>
        let (more, embedded, left) := groups false limit rest
        (g :: more, embedded, left)
      | none => ([], false, text)

def host6 : Reader (List Nat) := fun text =>
  let (front, embedded, rest) := groups true 8 text
  if front.length = 8 then some (front, rest)
  else if embedded then none
  else do
    let (_, rest) ← char ':' rest
    let (_, rest) ← char ':' rest
    let (back, _, rest) := groups true (7 - front.length) rest
    return (front ++ List.replicate (8 - front.length - back.length) 0 ++ back, rest)

def port : Reader Nat := fun text =>
  (char ':' text).bind fun (_, rest) => number 10 none true 65535 rest

def scope : Reader Nat := fun text =>
  (char '%' text).bind fun (_, rest) => number 10 none true 4294967295 rest

def address4 : Reader SocketAddress := fun text => do
  let (four, rest) ← octets text
  let (p, rest) ← port rest
  return (⟨.v4 four, p⟩, rest)

def address6 : Reader SocketAddress := fun text => do
  let (_, rest) ← char '[' text
  let (eight, rest) ← host6 rest
  let (scopeId, rest) := (scope rest).getD (0, rest)
  let (_, rest) ← char ']' rest
  let (p, rest) ← port rest
  return (⟨.v6 eight scopeId, p⟩, rest)

end Reader

namespace SocketAddress

def parse? (text : String) : Option SocketAddress :=
  match (Reader.address4 text.toList).or (Reader.address6 text.toList) with
  | some (address, []) => some address
  | _ => none

def syntaxMessage : String := "invalid socket address syntax"

end SocketAddress

def decimalText (n : Nat) : List Char := Nat.toDigits 10 n

def groupText (n : Nat) : List Char := Nat.toDigits 16 n

def joined (separator : Char) : List (List Char) → List Char
  | [] => []
  | [part] => part
  | part :: rest => part ++ separator :: joined separator rest

def zeroRun (groups : List Nat) : Nat := (groups.takeWhile (· = 0)).length

def longestZeroRun (groups : List Nat) : Nat × Nat :=
  (List.range groups.length).foldl
    (fun best start =>
      let run := zeroRun (groups.drop start)
      if best.2 < run then (start, run) else best)
    (0, 0)

def octetsText (octets : List Nat) : List Char := joined '.' (octets.map decimalText)

/-- Eight groups with the longest run of two or more zeros left out. Groups that embed four
octets end in these. -/
def groupsText (groups : List Nat) : List Char :=
  match groups with
  | [0, 0, 0, 0, 0, 65535, a, b] =>
    "::ffff:".toList ++ octetsText [a / 256, a % 256, b / 256, b % 256]
  | _ =>
    let (start, run) := longestZeroRun groups
    if 1 < run then
      joined ':' ((groups.take start).map groupText) ++ ':' :: ':' ::
        joined ':' ((groups.drop (start + run)).map groupText)
    else joined ':' (groups.map groupText)

def Host.text : Host → String
  | .v4 octets => String.ofList (octetsText octets)
  | .v6 groups scope =>
    String.ofList
      ('[' :: groupsText groups ++ (if scope = 0 then [] else '%' :: decimalText scope) ++ [']'])

def SocketAddress.text (address : SocketAddress) : String :=
  address.host.text ++ ":" ++ toString address.port

end FrameHost.Net
