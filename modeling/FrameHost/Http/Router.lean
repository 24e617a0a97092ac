import FrameHost.FrameId
import FrameHost.Http.Target
import FrameHost.Text.Literal

/-! The requests that every frame answers: at one path it tells who it is. -/

set_option autoImplicit false

namespace FrameHost.Http

/-- A request as it is put together, which need not be possible. -/
structure RequestText where
  method : String := "GET"
  target : String := "/_frame"
  headers : List (String × String) := []
  body : String := ""
  deriving Inhabited

structure Request where
  method : String
  target : Target

structure Response where
  status : Nat
  headers : List (String × String) := []
  body : String := ""
  deriving DecidableEq, Repr, Inhabited

def isTokenChar (c : Char) : Bool := c.isAlphanum || "!#$%&'*+-.^_|~".toList.contains c || c.toNat = 0x60

def isToken (text : String) : Bool := text ≠ "" && text.toList.all isTokenChar

def isHeaderValue (text : String) : Bool :=
  text.toList.all fun c => (32 ≤ c.toNat && c.toNat ≠ 127) || c = '\t'

def Request.make? (r : RequestText) : Option Request :=
  if isToken r.method && r.headers.all fun h => isToken h.1 && isHeaderValue h.2 then
    (Target.parse? r.target).map fun target => { method := r.method, target }
  else none

def identityPath : Bytes := Text.bytesOf "/_frame"

def identityBody (id : FrameId) : String :=
  let version := match id.version with
    | some v => Text.literal v
    | none => "null"
  Text.object [("frame", Text.literal id.key), ("name", Text.literal id.name), ("version", version)]

def respond (id : FrameId) (r : Request) : Response :=
  match r.target with
  | .pathless => { status := 404, headers := [("content-length", "0")] }
  | .path path =>
    if path ≠ identityPath then { status := 404 }
    else if r.method = "GET" ∨ r.method = "HEAD" then
      let body := identityBody id
      { status := 200
        headers := [
          ("content-length", toString body.utf8ByteSize), ("content-type", "application/json")]
        body := if r.method = "HEAD" then "" else body }
    else { status := 405, headers := [("allow", "GET,HEAD"), ("content-length", "0")] }

end FrameHost.Http
