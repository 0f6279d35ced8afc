import ClusterAccess.Decimal.Basic

namespace ClusterAccess

/-- A number of double precision without its sign, mantissa·2^exponent. -/
structure Double where
  mantissa : Nat
  exponent : Int
  deriving DecidableEq, Repr

namespace Double

def minExponent : Int := -1074

def maxExponent : Int := 971

/-- A quotient rounded to the nearest whole number, a half to the even one. -/
def roundQuotient (num den : Nat) : Nat :=
  let q := num / den
  let twice := num % den * 2
  if den < twice || (twice == den && q % 2 == 1) then q + 1 else q

def scaleDown (num den : Nat) (e : Int) : Nat × Nat :=
  if e < 0 then (num * Nat.pow 2 e.natAbs, den) else (num, den * Nat.pow 2 e.natAbs)

/-- The number of double precision nearest to a quotient, unless that is infinite. -/
def nearest? (num den : Nat) : Option Double :=
  let guess : Int := (num.log2 : Int) - den.log2 - 52
  let (n, d) := scaleDown num den guess
  let e := max minExponent (if n / d < Nat.pow 2 52 then guess - 1 else guess)
  let (n, d) := scaleDown num den e
  let m := roundQuotient n d
  let (m, e) := if m == Nat.pow 2 53 then (Nat.pow 2 52, e + 1) else (m, e)
  if maxExponent < e then none else some ⟨m, e⟩

/-- Decimals far out of range are told by their number of digits. -/
def ofDecimal? (d : Decimal) : Option Double :=
  let magnitude := (Text.digits d.significand).length + d.exponent
  if d.significand == 0 || magnitude < -330 then some ⟨0, 0⟩
  else if 310 < magnitude then none
  else if d.exponent < 0 then nearest? d.significand (Nat.pow 10 d.exponent.natAbs)
  else nearest? (d.significand * Nat.pow 10 d.exponent.natAbs) 1

/-- Four times the number, and twice the distance to its neighbours on either side. -/
def bounds (x : Double) : Nat × Nat × Nat :=
  let below := if x.mantissa == Nat.pow 2 52 && minExponent < x.exponent then 1 else 2
  (4 * x.mantissa - below, 4 * x.mantissa, 4 * x.mantissa + 2)

def readsBack (x : Double) (n : Nat) (p : Int) : Bool :=
  let (low, _, high) := x.bounds
  let left := n * (if p < 0 then 1 else Nat.pow 10 p.natAbs) *
    (if x.exponent - 2 < 0 then Nat.pow 2 (x.exponent - 2).natAbs else 1)
  let scale := (if p < 0 then Nat.pow 10 p.natAbs else 1) *
    (if x.exponent - 2 < 0 then 1 else Nat.pow 2 (x.exponent - 2).natAbs)
  if x.mantissa % 2 == 0 then low * scale ≤ left && left ≤ high * scale
  else low * scale < left && left < high * scale

def quotient (x : Double) : Nat × Nat :=
  if x.exponent < 0 then (x.mantissa, Nat.pow 2 x.exponent.natAbs)
  else (x.mantissa * Nat.pow 2 x.exponent.natAbs, 1)

def scaleDownTen (num den : Nat) (p : Int) : Nat × Nat :=
  if p < 0 then (num * Nat.pow 10 p.natAbs, den) else (num, den * Nat.pow 10 p.natAbs)

def magnitude (x : Double) : Int :=
  let (num, den) := x.quotient
  let guess : Int := (Text.digits num).length - (Text.digits den).length
  let (n, d) := scaleDownTen num den guess
  if n < d then guess - 1 else guess

/-- The first grid of decimals on which a neighbour of the number reads back as it. -/
def search (x : Double) : Nat → Nat → Nat × Int
  | 0, _ => (0, 0)
  | fuel + 1, count =>
    let p := x.magnitude - count + 1
    let (num, den) := x.quotient
    let (num, den) := scaleDownTen num den p
    let near := roundQuotient num den
    let far := if near * den ≤ num then near + 1 else near - 1
    if x.readsBack near p then (near, p)
    else if x.readsBack far p then (far, p)
    else search x fuel (count + 1)

def shortest (x : Double) : Nat × Int :=
  if x.mantissa == 0 then (0, 0) else search x 17 1

end Double

/-- The shortest decimal that double precision does not tell from a given one. -/
def Decimal.toDouble? (d : Decimal) : Option Decimal :=
  (Double.ofDecimal? d).map fun x =>
    let (n, e) := x.shortest
    Decimal.normalize ⟨d.negative, n, e⟩

/-- With a point while that takes few zeros, and else with an exponent. -/
def Decimal.text (d : Decimal) : String :=
  let ds := Text.digits d.significand
  let point : Int := ds.length + d.exponent
  let unsigned : List Char :=
    if d.significand == 0 then "0.0".toList
    else if 0 ≤ d.exponent && point ≤ 16 then
      ds ++ List.replicate d.exponent.toNat '0' ++ ".0".toList
    else if 0 < point && point ≤ 16 then ds.take point.toNat ++ '.' :: ds.drop point.toNat
    else if -5 < point && point ≤ 0 then "0.".toList ++ List.replicate point.natAbs '0' ++ ds
    else ds.take 1 ++ (if ds.length == 1 then [] else '.' :: ds.drop 1) ++
      'e' :: (Text.decimalInt (point - 1)).toList
  String.ofList (if d.negative then '-' :: unsigned else unsigned)

example : (Decimal.toDouble? ⟨false, 30000000000000004, -17⟩).map Decimal.text =
  some "0.30000000000000004" := by decide +kernel
example : (Decimal.toDouble? ⟨true, 5, -324⟩).map Decimal.text = some "-5e-324" := by decide +kernel
example : (Decimal.toDouble? ⟨false, 1, 23⟩).map Decimal.text = some "1e23" := by decide +kernel
example : Decimal.toDouble? ⟨false, 18, 307⟩ = none := by decide +kernel

end ClusterAccess
