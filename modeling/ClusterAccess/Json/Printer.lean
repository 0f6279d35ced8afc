import ClusterAccess.Json.Basic

namespace ClusterAccess.Json

open Text

def stringChar (c : Char) : List Char :=
  match c with
  | '"' => ['\\', '"']
  | '\\' => ['\\', '\\']
  | '\x08' => ['\\', 'b']
  | '\x0c' => ['\\', 'f']
  | '\n' => ['\\', 'n']
  | '\r' => ['\\', 'r']
  | '\t' => ['\\', 't']
  | c =>
    if c.toNat < 0x20 then
      ['\\', 'u', '0', '0', hexDigit (c.toNat / 16), hexDigit (c.toNat % 16)]
    else [c]

def stringChars (s : String) : List Char := '"' :: s.toList.flatMap stringChar ++ ['"']

def Number.chars : Number → List Char
  | .natural n => digits n
  | .negative n => '-' :: digits n
  | .decimal d =>
    (if d.negative then ['-'] else []) ++ digits d.significand ++
      ['.', '0', 'e'] ++ (if d.exponent < 0 then ['-'] else []) ++ digits d.exponent.natAbs

def separated (sep : List Char) (parts : List (List Char)) : List Char :=
  List.intercalate sep parts

mutual

def chars : Json → List Char
  | .null => "null".toList
  | .bool b => if b then "true".toList else "false".toList
  | .number n => n.chars
  | .string s => stringChars s
  | .array items => '[' :: separated [','] (itemChars items) ++ [']']
  | .object members => '\x7b' :: separated [','] (memberChars members) ++ ['\x7d']

def itemChars : List Json → List (List Char)
  | [] => []
  | v :: vs => chars v :: itemChars vs

def memberChars : List (String × Json) → List (List Char)
  | [] => []
  | (name, v) :: ms => (stringChars name ++ ':' :: chars v) :: memberChars ms

end

def compact (v : Json) : String := String.ofList v.chars

def lineBreak (level : Nat) : List Char := '\n' :: List.replicate (2 * level) ' '

/-- Parts in brackets, each on a line of its own one level further in. -/
def block (level : Nat) (opening closing : Char) (parts : List (List Char)) : List Char :=
  if parts.isEmpty then [opening, closing]
  else
    opening :: lineBreak (level + 1) ++ separated (',' :: lineBreak (level + 1)) parts ++
      lineBreak level ++ [closing]

mutual

def indentedChars (level : Nat) : Json → List Char
  | .array items => block level '[' ']' (indentedItems (level + 1) items)
  | .object members => block level '\x7b' '\x7d' (indentedMembers (level + 1) members)
  | .null => chars .null
  | .bool b => chars (.bool b)
  | .number n => chars (.number n)
  | .string s => chars (.string s)

def indentedItems (level : Nat) : List Json → List (List Char)
  | [] => []
  | v :: vs => indentedChars level v :: indentedItems level vs

def indentedMembers (level : Nat) : List (String × Json) → List (List Char)
  | [] => []
  | (name, v) :: ms =>
    (stringChars name ++ ':' :: ' ' :: indentedChars level v) :: indentedMembers level ms

end

def indented (v : Json) : String := String.ofList (indentedChars 0 v)

end ClusterAccess.Json
