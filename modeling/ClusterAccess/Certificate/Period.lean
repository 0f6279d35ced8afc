import ClusterAccess.Certificate.Basic

namespace ClusterAccess.Certificate

open Time

def digitPairs? : List Char → Option (List Nat)
  | [] => some []
  | a :: b :: rest =>
    if Text.isDigit a && Text.isDigit b then (digitPairs? rest).map (Text.digitsValue [a, b] :: ·)
    else none
  | _ => none

def shortYear (n : Nat) : Nat := if n < 50 then 2000 + n else 1900 + n

def instant? (year : Nat) : List Nat → Option Instant
  | [month, day, hour, minute, second] =>
    if 60 ≤ second then none else Instant.ofReading? ⟨⟨year, month, day⟩, hour, minute, second, 0⟩ 0
  | _ => none

def bound? (e : Der.Element) : Option Instant :=
  let text := e.content.map fun b => Char.ofNat b.toNat
  if text.getLast? != some 'Z' then none
  else do
    match ← digitPairs? text.dropLast, e.identifier with
    | y :: rest, 23 => instant? (shortYear y) rest
    | c :: y :: rest, 24 => instant? (c * 100 + y) rest
    | _, _ => none

def notBefore? (c : Certificate) : Option Instant := bound? c.statement.notBefore

def notAfter? (c : Certificate) : Option Instant := bound? c.statement.notAfter

end ClusterAccess.Certificate
