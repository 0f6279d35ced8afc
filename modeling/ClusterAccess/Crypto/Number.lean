import ClusterAccess.Crypto.Sha256

namespace ClusterAccess.Crypto

def ofBytes (bs : List UInt8) : Nat := bs.foldl (fun n b => n * 256 + b.toNat) 0

def toBytes (count n : Nat) : List UInt8 := Sha256.bigEndian count n

/-- Squares and multiplies along the bits of an exponent that has at most so many of them. -/
def powModLoop (m : Nat) : Nat → Nat → Nat → Nat → Nat
  | 0, _, _, acc => acc
  | fuel + 1, base, e, acc =>
    if e == 0 then acc
    else powModLoop m fuel (base * base % m) (e / 2) (if e % 2 == 1 then acc * base % m else acc)

def powMod (m base e : Nat) : Nat := powModLoop m (e.log2 + 1) (base % m) e (1 % m)

def invMod (p a : Nat) : Nat := powMod p a (p - 2)

def subMod (m a b : Nat) : Nat := (a + m - b) % m

end ClusterAccess.Crypto
