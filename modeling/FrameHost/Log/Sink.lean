import FrameHost.Text.Bytes

/-! Where lines go: to the terminal, or through a buffer to the end of a file.

All clones of a sink share one state behind a lock, so that a list of operations is one
interleaving of everything that its holders do. A file's sink can be closed; what is written
later is taken and dropped. -/

set_option autoImplicit false

namespace FrameHost.Log

inductive Sink where
  | terminal (shown : Bytes)
  | file (content buffer : Bytes)
  | closed (content : Bytes)
  deriving DecidableEq, Repr, Inhabited

namespace Sink

def capacity : Nat := 8192

def opened (content : Bytes) : Sink := .file content []

/-- Write to a file. What does not fit empties the buffer first, and what a whole buffer could
not hold goes to the file at once. -/
def writeFile (content buffer bytes : Bytes) : Bytes × Bytes :=
  if bytes.length < capacity - buffer.length then (content, buffer ++ bytes)
  else
    let (content, buffer) :=
      if capacity - buffer.length < bytes.length then (content ++ buffer, []) else (content, buffer)
    if capacity ≤ bytes.length then (content ++ bytes, buffer) else (content, buffer ++ bytes)

inductive Operation where
  | write (bytes : Bytes)
  | flush
  | close
  deriving DecidableEq, Repr

def step : Sink → Operation → Sink × Nat
  | .terminal shown, .write bytes => (.terminal (shown ++ bytes), bytes.length)
  | .terminal shown, .flush => (.terminal shown, 0)
  | .terminal shown, .close => (.terminal shown, 0)
  | .file content buffer, .write bytes =>
    let (content, buffer) := writeFile content buffer bytes
    (.file content buffer, bytes.length)
  | .file content buffer, .flush => (.file (content ++ buffer) [], 0)
  | .file content buffer, .close => (.closed (content ++ buffer), 0)
  | .closed content, .write bytes => (.closed content, bytes.length)
  | .closed content, .flush => (.closed content, 0)
  | .closed content, .close => (.closed content, 0)

def write (s : Sink) (bytes : Bytes) : Sink := (s.step (.write bytes)).1

def flush (s : Sink) : Sink := (s.step .flush).1

def close (s : Sink) : Sink := (s.step .close).1

def content : Sink → Bytes
  | .terminal shown => shown
  | .file content _ => content
  | .closed content => content

def buffer : Sink → Bytes
  | .file _ buffer => buffer
  | _ => []

/-- Hand over what others are to find by now; what is buffered stays. -/
def handOver : Sink → Bytes × Sink
  | .terminal shown => (shown, .terminal [])
  | .file content buffer => (content, .file [] buffer)
  | .closed content => (content, .closed [])

/-- What is there once nobody holds the sink any more. -/
def final (s : Sink) : Bytes := s.flush.content

end Sink

end FrameHost.Log
