import ClusterAccess.Crypto.Number
import ClusterAccess.Text.Digits

namespace ClusterAccess.Der

open Crypto

structure Element where
  identifier : UInt8
  content : List UInt8
  deriving DecidableEq, Repr

def sequenceId : UInt8 := 0x30

def setId : UInt8 := 0x31

def minimalBytes (n : Nat) : List UInt8 := toBytes (n.log2 / 8 + 1) n

def encodeLength (n : Nat) : List UInt8 :=
  if n < 128 then [UInt8.ofNat n]
  else
    let bs := minimalBytes n
    UInt8.ofNat (128 + bs.length) :: bs

def Element.encode (e : Element) : List UInt8 :=
  e.identifier :: encodeLength e.content.length ++ e.content

def maxLengthBytes : Nat := 4

def readLength? : List UInt8 → Option (Nat × List UInt8)
  | [] => none
  | b :: bs =>
    if b < 128 then some (b.toNat, bs)
    else
      let count := b.toNat - 128
      if count == 0 || maxLengthBytes < count || bs.length < count then none
      else some (ofBytes (bs.take count), bs.drop count)

def read? : List UInt8 → Option (Element × List UInt8)
  | [] => none
  | id :: bs =>
    if id % 32 == 31 || id == 0 then none
    else
      match readLength? bs with
      | none => none
      | some (n, bs) => if bs.length < n then none else some (⟨id, bs.take n⟩, bs.drop n)

def readAll? : Nat → List UInt8 → Option (List Element)
  | _, [] => some []
  | 0, _ => none
  | fuel + 1, bs =>
    match read? bs with
    | none => none
    | some (e, rest) => (readAll? fuel rest).map (e :: ·)

def Element.parts? (e : Element) : Option (List Element) := readAll? e.content.length e.content

def Element.sequence? (e : Element) : Option (List Element) :=
  if e.identifier == sequenceId then e.parts? else none

/-- The bytes of an integer: not none, and no more than needed. -/
def isInteger : List UInt8 → Bool
  | [] => false
  | [_] => true
  | a :: b :: _ => !((a == 0 && b < 128) || (a == 255 && 128 ≤ b))

def Element.integer? (e : Element) : Option (List UInt8) :=
  if e.identifier == 2 && isInteger e.content then some e.content else none

def Element.natural? (e : Element) : Option Nat :=
  e.integer?.bind fun bs => if bs.head?.any (128 ≤ ·) then none else some (ofBytes bs)

/-- Each number ends with a byte below 128 and does not begin with a byte of 128. -/
def isObjectId (bs : List UInt8) : Bool := !bs.isEmpty && go true bs
where
  go (first : Bool) : List UInt8 → Bool
    | [] => first
    | b :: bs => !(first && b == 128) && go (b < 128) bs

def Element.objectId? (e : Element) : Option (List UInt8) :=
  if e.identifier == 6 && isObjectId e.content then some e.content else none

def Element.octets? (e : Element) : Option (List UInt8) :=
  if e.identifier == 4 then some e.content else none

/-- The bytes of a string of bits, the unused ones of the last byte cleared. -/
def Element.bits? (e : Element) : Option (List UInt8) :=
  if e.identifier != 3 then none
  else
    match e.content with
    | [] => none
    | unused :: bs =>
      if 7 < unused then none
      else
        match bs.reverse with
        | [] => some []
        | last :: before => some (before.reverse ++ [last >>> unused <<< unused])

def element? (bytes : List UInt8) : Option Element :=
  match read? bytes with
  | some (e, []) => some e
  | _ => none

/-- The content is one that the type allows. Types that are not universal allow any content. -/
def Element.isValue (e : Element) : Bool :=
  if e.identifier == 1 then e.content.length == 1
  else if e.identifier == 2 || e.identifier == 10 then isInteger e.content
  else if e.identifier == 3 then e.content.head?.any (· ≤ 7)
  else if e.identifier == 5 then e.content.isEmpty
  else if e.identifier == 6 then isObjectId e.content
  else if e.identifier == 28 then e.content.length % 4 == 0
  else if e.identifier == 30 then e.content.length % 2 == 0
  else if e.identifier < 32 then e.identifier != 16 && e.identifier != 17
  else e.identifier == sequenceId || e.identifier == setId || 64 ≤ e.identifier

def objectNumbers (seen : Nat) : List UInt8 → List Nat
  | [] => []
  | b :: bs =>
    if b < 128 then (seen * 128 + b.toNat) :: objectNumbers 0 bs
    else objectNumbers (seen * 128 + (b.toNat - 128)) bs

def objectIdText (bs : List UInt8) : String :=
  match objectNumbers 0 bs with
  | [] => ""
  | n :: ns =>
    let first := min (n / 40) 2
    ".".intercalate ((first :: (n - 40 * first) :: ns).map Text.decimal)

def encodeNatural (n : Nat) : List UInt8 :=
  let bs := minimalBytes n
  (Element.mk 2 (if bs.head?.any (128 ≤ ·) then 0 :: bs else bs)).encode

def encodeSequence (parts : List UInt8) : List UInt8 := (Element.mk sequenceId parts).encode

end ClusterAccess.Der
