import FrameHost.Config.Reading
import FrameHost.Config.Validation
import FrameHost.Files
import FrameHost.Toml.Page
import FrameHost.Toml.Report

/-! Loading a configuration: from text, from the bytes of a file, or from a document that is
already at hand. -/

set_option autoImplicit false

namespace FrameHost.Config

inductive LoadError where
  | io (fault : Files.Fault)
  | grammar
  | data (misfit : Toml.Misfit)
  | document (reason : String)
  | validation (errors : List ValidationError)
  /-- The log level is a torn text. -/
  | torn
  deriving DecidableEq, Repr

def LoadError.message : LoadError → String
  | .io fault => "IO error: " ++ fault.message
  | .grammar | .torn => ""
  | .data misfit => "Parse error: " ++ misfit.report
  | .document reason => reason
  | .validation errors =>
    "Validation failed: " ++ String.intercalate ", " (errors.map ValidationError.message)

def LoadError.shown : LoadError → String
  | .io fault => Shown.wrapped "Io" fault.shown
  | .grammar => Shown.wrapped "Parse" ""
  | .torn => ""
  | .data misfit => Shown.wrapped "Parse" misfit.shown
  | .document reason => Shown.wrapped "Document" (Text.quoted reason)
  | .validation errors =>
    Shown.wrapped "Validation" (Shown.list (errors.map ValidationError.shown))

def validated [Log.Patterns] (c : Config) : Except LoadError Config :=
  match c.errors? with
  | none => .error .torn
  | some [] => .ok c
  | some errors => .error (.validation errors)

def readToml (content : String) : Except LoadError Config :=
  match Toml.parse? content with
  | none => .error .grammar
  | some node =>
    match read .toml node.document with
    | .ok c => .ok c
    | .error fault =>
      let span := (node.locate fault.inKey fault.path).getD ⟨0, 0⟩
      .error (.data
        { content, span, what := fault.message .toml, keys := fault.path.filterMap Step.key? })

def parse [Log.Patterns] (content : String) : Except LoadError Config := (readToml content).bind validated

def ofDocument [Log.Patterns] (d : Document) : Except LoadError Config :=
  match read .json d with
  | .ok c => validated c
  | .error fault => .error (.document (fault.message .json))

def ofBytes [Log.Patterns] (bytes : ByteArray) : Except LoadError Config :=
  match String.fromUTF8? bytes with
  | some content => parse content
  | none => .error (.io .notText)

def loadFrom [Log.Patterns] (files : Files.Tree) (path : String) : Except LoadError Config :=
  match files.readFile path with
  | .ok content => parse content
  | .error fault => .error (.io fault)

end FrameHost.Config
