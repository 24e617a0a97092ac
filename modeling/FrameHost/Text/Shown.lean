import FrameHost.Text.Quoted

/-! Values shown for inspection: records with named fields, lists and optional values. -/

set_option autoImplicit false

namespace FrameHost.Shown

def boolean (b : Bool) : String := if b then "true" else "false"

def record (name : String) (fields : List (String × String)) : String :=
  let shown := fields.map fun field => field.1 ++ ": " ++ field.2
  name ++ " \x7b " ++ String.intercalate ", " shown ++ " \x7d"

def wrapped (name argument : String) : String := name ++ "(" ++ argument ++ ")"

def optional : Option String → String
  | none => "None"
  | some text => wrapped "Some" text

def list (items : List String) : String := "[" ++ String.intercalate ", " items ++ "]"

def indent (depth : Nat) : String := String.ofList (List.replicate (4 * depth) ' ')

def tallList (depth : Nat) (items : List String) : String :=
  if items.isEmpty then "[]"
  else
    let lines := items.map fun item => indent (depth + 1) ++ item ++ ",\n"
    "[\n" ++ String.join lines ++ indent depth ++ "]"

def tallRecord (depth : Nat) (name : String) (fields : List (String × String)) : String :=
  let lines := fields.map fun field => indent (depth + 1) ++ field.1 ++ ": " ++ field.2 ++ ",\n"
  name ++ " \x7b\n" ++ String.join lines ++ indent depth ++ "\x7d"

end FrameHost.Shown
