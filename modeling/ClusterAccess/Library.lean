import ClusterAccess.Certificate.Basic

namespace ClusterAccess

/-- A private key as a library hands it out. What its bytes mean is known to the library only. -/
structure PrivateKey where
  bytes : List UInt8
  deriving DecidableEq, Repr

/-- A public key in the form that the library gives to all that are equal. -/
structure PublicKey where
  algorithm : Algorithm
  bits : List UInt8
  deriving DecidableEq, Repr

/-- What is left to a library of certificates and keys. -/
class Library where
  certificate? : List UInt8 → Option Certificate
  /-- A certificate that was read is read back from what is written of it. -/
  certificate?_encode : ∀ {bytes c}, certificate? bytes = some c → certificate? c.encode = some c
  keyOfPem? : List UInt8 → Option PrivateKey
  keyOfDer? : List UInt8 → Option PrivateKey
  keyToPem : PrivateKey → List UInt8
  keyBits : PrivateKey → Nat
  publicPart? : PrivateKey → Option PublicKey
  certified? : Algorithm → List UInt8 → Option PublicKey
  suits : PublicKey → Algorithm → Bool
  verify : PublicKey → Algorithm → (text signature : List UInt8) → Bool

variable [Library]

namespace PrivateKey

def publicKey? (k : PrivateKey) : Option PublicKey := Library.publicPart? k

def bits (k : PrivateKey) : Nat := Library.keyBits k

def toPem (k : PrivateKey) : List UInt8 := Library.keyToPem k

end PrivateKey

namespace PublicKey

/-- The key can have made a signature by an algorithm. -/
def suits (key : PublicKey) (signature : Algorithm) : Bool := Library.suits key signature

def verify (key : PublicKey) (algorithm : Algorithm) (text signature : List UInt8) : Bool :=
  key.suits algorithm && Library.verify key algorithm text signature

end PublicKey

namespace Certificate

def publicKey? (c : Certificate) : Option PublicKey :=
  Library.certified? c.statement.keyAlgorithm c.statement.keyBits

def isSignedBy (c : Certificate) (key : PublicKey) : Bool :=
  c.algorithm == c.statement.algorithm &&
    match c.signature.bits? with
    | some bits => key.verify c.algorithm c.signed.encode bits
    | none => false

end Certificate

end ClusterAccess
