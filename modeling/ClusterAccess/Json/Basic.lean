import ClusterAccess.Decimal.Basic
import ClusterAccess.Json.Document

namespace ClusterAccess

inductive Json.Number where
  | natural (n : Nat)
  | negative (n : Nat)
  | decimal (d : Decimal)
  deriving DecidableEq, Repr

inductive Json where
  | null
  | bool (b : Bool)
  | number (n : Json.Number)
  | string (s : String)
  | array (items : List Json)
  | object (members : List (String × Json))
  deriving Inhabited

namespace Json

def maxDepth : Nat := 127

/-- The nearest number of 53 bits, ties to the even one. -/
def round53 (n : Nat) : Nat :=
  let extra := n.log2 + 1 - 53
  let unit := Nat.pow 2 extra
  let low := n % unit
  let q := n / unit
  let up := low * 2 > unit || (low * 2 == unit && q % 2 == 1)
  (if up then q + 1 else q) * unit

/-- The rounded significand times the rounded power of ten stays below infinity. -/
def Decimal.inRange (d : Decimal) : Bool :=
  d.significand == 0 || d.exponent < 0 ||
    (d.exponent ≤ 308 &&
      round53 d.significand * round53 (Nat.pow 10 d.exponent.toNat) < Nat.pow 2 1024 - Nat.pow 2 970)

/-- Once a digit does not fit, no later one is taken; the count tells how far the point moves. -/
def appendDigit (acc : Nat × Nat) (c : Char) : Nat × Nat :=
  let (significand, dropped) := acc
  let next := significand * 10 + (c.toNat - 48)
  if dropped == 0 && next < Nat.pow 2 64 then (next, 0) else (significand, dropped + 1)

/-- The decimal that a literal stands for, its significand cut to 64 bits. -/
def NumberLiteral.toDecimal (n : NumberLiteral) : Decimal :=
  let (whole, dropped) := n.integer.foldl appendDigit (0, 0)
  let step := fun (acc : Nat × Nat × Bool) (c : Char) =>
    let (significand, taken, full) := acc
    let next := significand * 10 + (c.toNat - 48)
    if !full && next < Nat.pow 2 64 then (next, taken + 1, false) else (significand, taken, true)
  let (significand, taken, _) := n.fraction.foldl step (whole, 0, false)
  let shift : Int :=
    match n.exponent with
    | none => 0
    | some (minus, ds) =>
      if minus then -(Text.digitsValue ds : Int) else Text.digitsValue ds
  ⟨n.negative, significand, dropped - taken + shift⟩

def Number.ofLiteral? (n : NumberLiteral) : Option Number :=
  let value := Text.digitsValue n.integer
  if n.fraction.isEmpty && n.exponent.isNone && !n.negative && value < Nat.pow 2 64 then
    some (.natural value)
  else if n.fraction.isEmpty && n.exponent.isNone && n.negative && 0 < value &&
      value ≤ Nat.pow 2 63 then
    some (.negative value)
  else
    let d := n.toDecimal
    if Decimal.inRange d then some (.decimal d) else none

def insertMember (members : List (String × Json)) (name : String) (v : Json) :
    List (String × Json) :=
  if members.any (·.1 == name) then
    members.map fun m => if m.1 == name then (name, v) else m
  else members ++ [(name, v)]

mutual

/-- The value of a document whose containers are nested no deeper than allowed. -/
def ofDocument? (depth : Nat) : Document → Option Json
  | .null => some .null
  | .bool b => some (.bool b)
  | .number n => (Number.ofLiteral? n).map .number
  | .string pieces => (keyText? pieces).map .string
  | .array items =>
    match depth with
    | 0 => none
    | depth + 1 => (ofItems? depth items).map .array
  | .object members =>
    match depth with
    | 0 => none
    | depth + 1 => (ofMembers? depth [] members).map .object

def ofItems? (depth : Nat) : List Document → Option (List Json)
  | [] => some []
  | d :: ds => do
    let v ← ofDocument? depth d
    let vs ← ofItems? depth ds
    pure (v :: vs)

def ofMembers? (depth : Nat) (before : List (String × Json)) :
    List (List Piece × Document) → Option (List (String × Json))
  | [] => some before
  | (key, d) :: ms => do
    let name ← keyText? key
    let v ← ofDocument? depth d
    ofMembers? depth (insertMember before name v) ms

end

def parse? (s : String) : Option Json := (Document.parse? s).bind (ofDocument? maxDepth)

def member? (name : String) : Json → Option Json
  | .object members => members.lookup name
  | _ => none

def string? : Json → Option String
  | .string s => some s
  | _ => none

def Document.natural? : Document → Option Nat
  | .number n =>
    match Number.ofLiteral? n with
    | some (.natural k) => some k
    | _ => none
  | _ => none

end Json

end ClusterAccess
