import ClusterAccess.Decimal.Double
import ClusterAccess.Json.Basic
import ClusterAccess.Yaml.Token

namespace ClusterAccess.Yaml

open Text

/-- A real number is given by the shortest decimal that double precision does not tell from it. -/
inductive Number where
  | natural (n : Nat)
  | negative (n : Nat)
  | real (d : Decimal)
  | infinite (minus : Bool)
  | undefined
  deriving DecidableEq, Repr

inductive Value where
  | null
  | bool (b : Bool)
  | number (n : Number)
  | string (s : String)
  | sequence (items : List Value)
  | mapping (entries : List (Value × Value))
  | tagged (tag : String) (v : Value)
  deriving Inhabited

def isNull (s : String) : Bool := s == "null" || s == "Null" || s == "NULL" || s == "~"

def readBool? (s : String) : Option Bool :=
  if s == "true" || s == "True" || s == "TRUE" then some true
  else if s == "false" || s == "False" || s == "FALSE" then some false
  else none

def digitBelow? (base : Nat) (c : Char) : Option Nat := (hexValue? c).filter (· < base)

def readInBase? (base : Nat) (cs : List Char) : Option Nat :=
  if cs.isEmpty then none else cs.foldlM (fun n c => (digitBelow? base c).map (n * base + ·)) 0

/-- A row of digits that begins with a zero and goes on is no number, after a sign or none. -/
def isZeroPadded (cs : List Char) : Bool :=
  let ds :=
    match cs with
    | '-' :: ds => ds
    | '+' :: ds => ds
    | ds => ds
  1 < ds.length && ds.head? == some '0' && ds.all isDigit

def readBased? : List Char → Option Nat
  | '0' :: 'x' :: cs => readInBase? 16 cs
  | '0' :: 'o' :: cs => readInBase? 8 cs
  | '0' :: 'b' :: cs => readInBase? 2 cs
  | cs => if isZeroPadded cs then none else readInBase? 10 cs

def readInteger? : List Char → Option Int
  | '-' :: cs => (readBased? cs).map fun n => -(n : Int)
  | '+' :: cs => (readBased? cs).map fun n => (n : Int)
  | cs => (readBased? cs).map fun n => (n : Int)

def readReal? (s : String) : Option Number :=
  let unsigned := if s.toList.head? == some '+' then String.ofList s.toList.tail else s
  if unsigned == ".inf" || unsigned == ".Inf" || unsigned == ".INF" then some (.infinite false)
  else if s == "-.inf" || s == "-.Inf" || s == "-.INF" then some (.infinite true)
  else if s == ".nan" || s == ".NaN" || s == ".NAN" then some .undefined
  else if s.toList.head? == some '+' && unsigned.toList.head? == some '-' then none
  else ((Decimal.ofChars? unsigned.toList).bind Decimal.toDouble?).map .real

/-- Integers of up to 64 bits are numbers, those of up to 128 bits are refused. -/
inductive IntegerReading where
  | number (n : Number)
  | refused
  | other

def IntegerReading.of : Int → IntegerReading
  | .ofNat n =>
    if n < Nat.pow 2 64 then .number (.natural n)
    else if n < Nat.pow 2 128 then .refused
    else .other
  | .negSucc n =>
    if n < Nat.pow 2 63 then .number (.negative (n + 1))
    else if n < Nat.pow 2 127 then .refused
    else .other

def IntegerReading.ofText (s : String) : IntegerReading :=
  match readInteger? s.toList with
  | some n => .of n
  | none => .other

def Value.ofPlain? (s : String) : Option Value :=
  if s == "" || isNull s then some .null
  else
    match readBool? s with
    | some b => some (.bool b)
    | none =>
      match IntegerReading.ofText s with
      | .number n => some (.number n)
      | .refused => none
      | .other =>
        if isZeroPadded s.toList then some (.string s)
        else
          match readReal? s with
          | some n => some (.number n)
          | none => some (.string s)

/-- A tag that begins with an exclamation mark, without it unless it is all there is. -/
def dropMark (tag : String) : String :=
  match tag.toList with
  | '!' :: c :: cs => String.ofList (c :: cs)
  | _ => tag

namespace Number

def text : Number → String
  | .natural n => decimal n
  | .negative n => "-" ++ decimal n
  | .real d => d.text
  | .infinite minus => if minus then "-.inf" else ".inf"
  | .undefined => ".nan"

/-- The same number: the two zeros are, and so is the undefined number to itself. -/
def same : Number → Number → Bool
  | .real d, .real e => d == e || (d.significand == 0 && e.significand == 0)
  | m, n => m == n

def toJson : Number → Json
  | .natural n => .number (.natural n)
  | .negative n => .number (.negative n)
  | .real d => .number (.decimal d)
  | _ => .null

end Number

namespace Value

mutual

/-- The same value: the order of the entries of a mapping says nothing. -/
def same : Value → Value → Bool
  | .null, .null => true
  | .bool b, .bool c => b == c
  | .number m, .number n => m.same n
  | .string s, .string t => s == t
  | .sequence vs, .sequence ws => sameItems vs ws
  | .mapping es, .mapping fs => es.length == fs.length && allIn es fs
  | .tagged s v, .tagged t w => s == t && same v w
  | _, _ => false

def sameItems : List Value → List Value → Bool
  | [], [] => true
  | v :: vs, w :: ws => same v w && sameItems vs ws
  | _, _ => false

def allIn : List (Value × Value) → List (Value × Value) → Bool
  | [], _ => true
  | (k, v) :: es, fs => (fs.any fun (l, w) => same k l && same v w) && allIn es fs

end

/-- Only scalars other than null can be names in JSON. -/
def jsonName? : Value → Option String
  | .string s => some s
  | .bool b => some (if b then "true" else "false")
  | .number (.infinite _) => none
  | .number .undefined => none
  | .number n => some n.text
  | _ => none

mutual

/-- A value in JSON; a tag becomes the only name of an object. -/
def toJson? : Value → Option Json
  | .null => some .null
  | .bool b => some (.bool b)
  | .number n => some n.toJson
  | .string s => some (.string s)
  | .sequence vs => (itemsToJson? vs).map .array
  | .mapping es => (entriesToJson? [] es).map .object
  | .tagged tag v => (toJson? v).map fun j => .object [("!" ++ tag, j)]

def itemsToJson? : List Value → Option (List Json)
  | [] => some []
  | v :: vs => do
    let j ← toJson? v
    pure (j :: (← itemsToJson? vs))

def entriesToJson? (members : List (String × Json)) :
    List (Value × Value) → Option (List (String × Json))
  | [] => some members
  | (k, v) :: es => do
    let name ← jsonName? k
    let j ← toJson? v
    entriesToJson? (Json.insertMember members name j) es

end

end Value

end ClusterAccess.Yaml
