import ClusterAccess.Text.Digits

namespace ClusterAccess

structure Decimal where
  negative : Bool
  significand : Nat
  exponent : Int
  deriving DecidableEq, Repr

namespace Decimal

open Text

def dropZeros : Nat → Nat → Int → Nat × Int
  | 0, n, e => (n, e)
  | fuel + 1, n, e => if n % 10 == 0 then dropZeros fuel (n / 10) (e + 1) else (n, e)

def normalize (d : Decimal) : Decimal :=
  if d.significand == 0 then ⟨d.negative, 0, 0⟩
  else
    let (n, e) := dropZeros (digits d.significand).length d.significand d.exponent
    ⟨d.negative, n, e⟩

def readExponent? : List Char → Option Int
  | '-' :: cs => (readDigits? cs).map fun n => -(n : Int)
  | '+' :: cs => (readDigits? cs).map fun n => (n : Int)
  | cs => (readDigits? cs).map fun n => (n : Int)

/-- Reads a decimal: digits with at most one point among or around them, and an exponent. -/
def ofUnsigned? (negative : Bool) (cs : List Char) : Option Decimal := do
  let whole := cs.takeWhile isDigit
  let cs := cs.dropWhile isDigit
  let (fraction, cs) :=
    match cs with
    | '.' :: cs => (cs.takeWhile isDigit, cs.dropWhile isDigit)
    | cs => ([], cs)
  if whole.isEmpty && fraction.isEmpty then none
  else
    let shift ←
      match cs with
      | [] => some 0
      | c :: cs => if c == 'e' || c == 'E' then readExponent? cs else none
    pure ⟨negative, digitsValue (whole ++ fraction), shift - fraction.length⟩

def ofChars? : List Char → Option Decimal
  | '-' :: cs => ofUnsigned? true cs
  | cs => ofUnsigned? false cs

end Decimal

end ClusterAccess
