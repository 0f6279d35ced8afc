import ClusterAccess.Text.Blank
import ClusterAccess.Text.Digits

namespace ClusterAccess

structure Ipv4 where
  bits : UInt32
  deriving DecidableEq, Repr

namespace Ipv4

def text (a : Ipv4) : String :=
  let n := a.bits.toNat
  ".".intercalate ([n >>> 24, (n >>> 16) % 256, (n >>> 8) % 256, n % 256].map Text.decimal)

def digitsIn? (base : Nat) (cs : List Char) : Option Nat :=
  cs.foldlM (fun n c => match Text.hexValue? c with
    | some d => if d < base then some (n * base + d) else none
    | none => none) 0

/-- The value of a number with its base in front; no digits after it mean zero. -/
def number? : List Char → Option Nat
  | [] => none
  | '0' :: 'x' :: cs => digitsIn? 16 cs
  | '0' :: 'X' :: cs => digitsIn? 16 cs
  | '0' :: c :: cs => digitsIn? 8 (c :: cs)
  | cs => digitsIn? 10 cs

def parts (cs : List Char) : List (List Char) :=
  let ps := Text.splitChars (· == '.') cs
  if 1 < ps.length && ps.getLast? == some [] then ps.dropLast else ps

/-- A host is meant as an address: its last part is a number. -/
def isMeant (cs : List Char) : Bool :=
  match (parts cs).getLast? with
  | some last => (!last.isEmpty && last.all Text.isDigit) || (number? last).isSome
  | none => false

def parse? (cs : List Char) : Option Ipv4 := do
  let numbers ← (parts cs).mapM number?
  let first := numbers.dropLast
  let last ← numbers.getLast?
  if 4 < numbers.length || first.any (255 < ·) || Nat.pow 2 (8 * (4 - first.length)) ≤ last then none
  else
    let high := first.foldl (fun n d => n * 256 + d) 0
    some ⟨UInt32.ofNat (high * Nat.pow 2 (8 * (4 - first.length)) + last)⟩

end Ipv4

end ClusterAccess
