import ClusterAccess.Crypto.Number

namespace ClusterAccess.Crypto.Rsa

structure PublicKey where
  modulus : Nat
  exponent : Nat
  deriving DecidableEq, Repr

def bitLength (n : Nat) : Nat := if n == 0 then 0 else n.log2 + 1

def sha256Header : List UInt8 :=
  [0x30, 0x31, 0x30, 0x0d, 0x06, 0x09, 0x60, 0x86, 0x48, 0x01, 0x65, 0x03, 0x04, 0x02, 0x01, 0x05,
    0x00, 0x04, 0x20]

def padded (length : Nat) (hash : List UInt8) : List UInt8 :=
  let body := sha256Header ++ hash
  [0, 1] ++ List.replicate (length - body.length - 3) 0xff ++ [0] ++ body

def verify (key : PublicKey) (hash signature : List UInt8) : Bool :=
  let length := (bitLength key.modulus + 7) / 8
  let s := ofBytes signature
  signature.length == length && s < key.modulus && 62 ≤ length &&
    toBytes length (powMod key.modulus s key.exponent) == padded length hash

end ClusterAccess.Crypto.Rsa
