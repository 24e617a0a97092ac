import FrameHost.Decimal.Notation
import FrameHost.Document
import FrameHost.Text.Literal

/-! Documents as JSON messages, without blanks between their parts. -/

set_option autoImplicit false

namespace FrameHost.Message

mutual

/-- The message of a document. There is none for a moment, and null stands for a number without digits. -/
def write? : Document → Option String
  | .null => some "null"
  | .boolean true => some "true"
  | .boolean false => some "false"
  | .integer n => some (toString n)
  | .number x => some (if x.isFinite then Decimal.Layout.json.float x else "null")
  | .text s => some (Text.literal s)
  | .moment => none
  | .list items | .sections items =>
    (writeItems? items).map fun written => "[" ++ String.intercalate "," written ++ "]"
  | .table entries => (writeEntries? entries).map Text.object

def writeItems? : List Document → Option (List String)
  | [] => some []
  | item :: rest => do return (← write? item) :: (← writeItems? rest)

def writeEntries? : List (String × Document) → Option (List (String × String))
  | [] => some []
  | (key, value) :: rest => do return (key, ← write? value) :: (← writeEntries? rest)

end

end FrameHost.Message
