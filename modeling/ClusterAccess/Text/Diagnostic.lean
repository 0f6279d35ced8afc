import ClusterAccess.Text.Quoted

namespace ClusterAccess.Text

def commaSeparated (parts : List String) : String := ", ".intercalate parts

def record (name : String) (fields : List (String × String)) : String :=
  name ++ " \x7b " ++ commaSeparated (fields.map fun (n, v) => n ++ ": " ++ v) ++ " \x7d"

def partialRecord (name : String) (fields : List (String × String)) : String :=
  name ++ " \x7b " ++ commaSeparated (fields.map fun (n, v) => n ++ ": " ++ v) ++ ", .. \x7d"

def call (name : String) (parts : List String) : String :=
  name ++ "(" ++ commaSeparated parts ++ ")"

def listing (parts : List String) : String := "[" ++ commaSeparated parts ++ "]"

def optional : Option String → String
  | none => "None"
  | some v => "Some(" ++ v ++ ")"

def truth (b : Bool) : String := if b then "true" else "false"

def optionalQuoted (s : Option String) : String := optional (s.map quoted)

def redacted : String := quoted "<redacted>"

def quotedList (l : List String) : String := listing (l.map quoted)

end ClusterAccess.Text
