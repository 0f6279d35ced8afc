import ClusterAccess.Json.Token

namespace ClusterAccess.Json

inductive Document where
  | null
  | bool (b : Bool)
  | number (n : NumberLiteral)
  | string (pieces : List Piece)
  | array (items : List Document)
  | object (members : List (List Piece × Document))

/-- A container whose end has not been seen; its contents are kept last first. -/
inductive Frame where
  | array (items : List Document)
  | object (members : List (List Piece × Document)) (key : List Piece)

inductive Progress where
  | value (stack : List Frame) (mayClose : Bool)
  | key (members : List (List Piece × Document)) (stack : List Frame) (mayClose : Bool)
  | colon (members : List (List Piece × Document)) (key : List Piece) (stack : List Frame)
  | complete (v : Document) (stack : List Frame)

def Progress.step : Progress → Token → Option Progress
  | .value stack _, .null => some (.complete .null stack)
  | .value stack _, .bool b => some (.complete (.bool b) stack)
  | .value stack _, .number n => some (.complete (.number n) stack)
  | .value stack _, .string pieces => some (.complete (.string pieces) stack)
  | .value stack _, .beginArray => some (.value (.array [] :: stack) true)
  | .value stack _, .beginObject => some (.key [] stack true)
  | .value (.array [] :: stack) true, .endArray => some (.complete (.array []) stack)
  | .key members stack _, .string name => some (.colon members name stack)
  | .key [] stack true, .endObject => some (.complete (.object []) stack)
  | .colon members name stack, .colon => some (.value (.object members name :: stack) false)
  | .complete v (.array items :: stack), .comma => some (.value (.array (v :: items) :: stack) false)
  | .complete v (.array items :: stack), .endArray =>
    some (.complete (.array (v :: items).reverse) stack)
  | .complete v (.object members name :: stack), .comma =>
    some (.key ((name, v) :: members) stack false)
  | .complete v (.object members name :: stack), .endObject =>
    some (.complete (.object ((name, v) :: members).reverse) stack)
  | _, _ => none

def Document.ofTokens? (tokens : List Token) : Option Document :=
  match tokens.foldlM Progress.step (.value [] false) with
  | some (.complete v []) => some v
  | _ => none

def Document.parse? (s : String) : Option Document := (Token.scan s.toList).bind Document.ofTokens?

/-- Units above the basic plane come in pairs, and half a pair is no text. -/
def textOf? : List Piece → Option (List Char)
  | [] => some []
  | .char c :: ps => (textOf? ps).map (c :: ·)
  | .unit n :: ps =>
    if n < 0xD800 || 0xDFFF < n then (textOf? ps).map (Char.ofNat n :: ·)
    else if 0xDC00 ≤ n then none
    else
      match ps with
      | .unit m :: ps =>
        if 0xDC00 ≤ m && m ≤ 0xDFFF then
          (textOf? ps).map (Char.ofNat (0x10000 + (n - 0xD800) * 0x400 + (m - 0xDC00)) :: ·)
        else none
      | _ => none

def keyText? (pieces : List Piece) : Option String := (textOf? pieces).map String.ofList

def Document.text? : Document → Option String
  | .string pieces => keyText? pieces
  | _ => none

def Document.optionalText? : Document → Option (Option String)
  | .null => some none
  | d => d.text?.map some

def Document.bool? : Document → Option Bool
  | .bool b => some b
  | _ => none

abbrev Fields := List (String × Document)

/-- A member that is no field is passed over; a field that was there already is a fault. -/
def Fields.add? (names : List String) (fields : Fields) (member : List Piece × Document) :
    Option Fields := do
  let name ← keyText? member.1
  if !names.contains name then some fields
  else if fields.any (·.1 == name) then none
  else some (fields ++ [(name, member.2)])

/-- The members that bear the names of fields, or the items of an array in their order. -/
def Document.fields? (names : List String) : Document → Option Fields
  | .object members => members.foldlM (Fields.add? names) []
  | .array items => if items.length ≤ names.length then some (names.zip items) else none
  | _ => none

def Fields.get? {α : Type} (fields : Fields) (name : String) (absent : α)
    (read : Document → Option α) : Option α :=
  match fields.lookup name with
  | none => some absent
  | some d => read d

end ClusterAccess.Json
