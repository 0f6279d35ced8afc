import ClusterAccess.Crypto.Number

namespace ClusterAccess.Crypto.P256

def p : Nat := 0xffffffff00000001000000000000000000000000ffffffffffffffffffffffff

/-- The constant term of the curve y² = x³ - 3x + b. -/
def b : Nat := 0x5ac635d8aa3a93e7b3ebbd55769886bc651d06b0cc53b0f63bce3c3e27d2604b

def order : Nat := 0xffffffff00000000ffffffffffffffffbce6faada7179e84f3b9cac2fc632551

structure Point where
  x : Nat
  y : Nat
  deriving DecidableEq, Repr

def generator : Point :=
  ⟨0x6b17d1f2e12c4247f8bce6e563a440f277037d812deb33a0f4a13945d898c296,
    0x4fe342e2fe1a7f9b8ee7eb4a7c0f9e162bce33576b315ececbb6406837bf51f5⟩

def rightSide (x : Nat) : Nat := ((x * x + (p - 3)) * x + b) % p

def isOnCurve (q : Point) : Bool := q.x < p && q.y < p && q.y * q.y % p == rightSide q.x

/-- A point in projective coordinates (x/z², y/z³); the neutral one has z = 0. -/
structure Projective where
  x : Nat
  y : Nat
  z : Nat

def neutral : Projective := ⟨1, 1, 0⟩

def Point.projective (q : Point) : Projective := ⟨q.x, q.y, 1⟩

def Projective.point? (q : Projective) : Option Point :=
  if q.z == 0 then none
  else
    let i := invMod p q.z
    let ii := i * i % p
    some ⟨q.x * ii % p, q.y * (ii * i % p) % p⟩

def double (q : Projective) : Projective :=
  if q.z == 0 || q.y == 0 then neutral
  else
    let yy := q.y * q.y % p
    let s := 4 * q.x * yy % p
    let zz := q.z * q.z % p
    let m := 3 * (subMod p q.x zz * ((q.x + zz) % p) % p) % p
    let x := subMod p (m * m % p) (2 * s % p)
    let y := subMod p (m * subMod p s x % p) (8 * yy * yy % p)
    ⟨x, y, 2 * q.y * q.z % p⟩

def add (q r : Projective) : Projective :=
  if q.z == 0 then r
  else if r.z == 0 then q
  else
    let zz1 := q.z * q.z % p
    let zz2 := r.z * r.z % p
    let u1 := q.x * zz2 % p
    let u2 := r.x * zz1 % p
    let s1 := q.y * zz2 * r.z % p
    let s2 := r.y * zz1 * q.z % p
    if u1 == u2 then if s1 == s2 then double q else neutral
    else
      let h := subMod p u2 u1
      let t := subMod p s2 s1
      let hh := h * h % p
      let hhh := h * hh % p
      let v := u1 * hh % p
      let x := subMod p (t * t % p) ((hhh + 2 * v) % p)
      let y := subMod p (t * subMod p v x % p) (s1 * hhh % p)
      ⟨x, y, h * q.z * r.z % p⟩

def multiplyLoop : Nat → Projective → Nat → Projective → Projective
  | 0, _, _, acc => acc
  | fuel + 1, q, n, acc =>
    if n == 0 then acc
    else multiplyLoop fuel (double q) (n / 2) (if n % 2 == 1 then add acc q else acc)

def multiply (n : Nat) (q : Point) : Projective :=
  multiplyLoop (n.log2 + 1) q.projective n neutral

def publicPoint? (n : Nat) : Option Point := (multiply n generator).point?

def Point.encode (q : Point) : List UInt8 := 4 :: (toBytes 32 q.x ++ toBytes 32 q.y)

def lift? (x : Nat) (odd : Bool) : Option Point :=
  if p ≤ x then none
  else
    let c := rightSide x
    let y := powMod p c ((p + 1) / 4)
    if y * y % p != c then none
    else if (y % 2 == 1) == odd then some ⟨x, y⟩
    else if y == 0 then none
    else some ⟨x, p - y⟩

/-- Reads an encoded point: both coordinates, or the first and the parity of the second. -/
def Point.decode? : List UInt8 → Option Point
  | form :: bs =>
    if bs.length == 64 && (form == 4 || form == 6 || form == 7) then
      let q : Point := ⟨ofBytes (bs.take 32), ofBytes (bs.drop 32)⟩
      if isOnCurve q && (form == 4 || (form == 7) == (q.y % 2 == 1)) then some q else none
    else if bs.length == 32 && (form == 2 || form == 3) then lift? (ofBytes bs) (form == 3)
    else none
  | [] => none

def verify (q : Point) (hash : List UInt8) (r s : Nat) : Bool :=
  if r == 0 || s == 0 || order ≤ r || order ≤ s then false
  else
    let e := ofBytes (hash.take 32) % order
    let w := invMod order s
    match (add (multiply (e * w % order) generator) (multiply (r * w % order) q)).point? with
    | some t => t.x % order == r
    | none => false

end ClusterAccess.Crypto.P256
