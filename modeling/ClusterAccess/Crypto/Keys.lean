import ClusterAccess.Crypto.P256
import ClusterAccess.Crypto.Rsa
import ClusterAccess.Library
import ClusterAccess.Pem
import ClusterAccess.Proofs.CertificateEncoding

namespace ClusterAccess

namespace Algorithm

def curveKey : List UInt8 := [0x2a, 0x86, 0x48, 0xce, 0x3d, 0x02, 0x01]

def p256 : List UInt8 := [0x2a, 0x86, 0x48, 0xce, 0x3d, 0x03, 0x01, 0x07]

def rsaKey : List UInt8 := [0x2a, 0x86, 0x48, 0x86, 0xf7, 0x0d, 0x01, 0x01, 0x01]

def curveSha256 : List UInt8 := [0x2a, 0x86, 0x48, 0xce, 0x3d, 0x04, 0x03, 0x02]

def rsaSha256 : List UInt8 := [0x2a, 0x86, 0x48, 0x86, 0xf7, 0x0d, 0x01, 0x01, 0x0b]

def p256Key : Algorithm := ⟨curveKey, some ⟨6, p256⟩⟩

def rsaKeyPlain : Algorithm := ⟨rsaKey, some ⟨5, []⟩⟩

end Algorithm

namespace Crypto

open Der (Element)

inductive PublicNumbers where
  | curve (point : P256.Point)
  | rsa (key : Rsa.PublicKey)
  deriving DecidableEq, Repr

structure RsaNumbers where
  modulus : Nat
  exponent : Nat
  secretExponent : Nat
  prime1 : Nat
  prime2 : Nat
  exponent1 : Nat
  exponent2 : Nat
  coefficient : Nat
  deriving DecidableEq, Repr

/-- The public bits of a key on the curve are kept as they were encoded, if they are there. -/
inductive SecretNumbers where
  | curve (secret : Nat) (publicBits : Option (List UInt8))
  | rsa (numbers : RsaNumbers)
  deriving DecidableEq, Repr

namespace PublicNumbers

def rsa? (bytes : List UInt8) : Option Rsa.PublicKey := do
  match ← (← Der.element? bytes).sequence? with
  | [n, e] => return ⟨← n.natural?, ← e.natural?⟩
  | _ => none

def ofBytes? (algorithm : Algorithm) (bytes : List UInt8) : Option PublicNumbers :=
  if algorithm.number == Algorithm.curveKey then
    if algorithm == Algorithm.p256Key then (P256.Point.decode? bytes).map curve else none
  else if algorithm.number == Algorithm.rsaKey then (rsa? bytes).map rsa
  else none

def key : PublicNumbers → PublicKey
  | curve point => ⟨Algorithm.p256Key, point.encode⟩
  | rsa key => ⟨Algorithm.rsaKeyPlain,
      Der.encodeSequence (Der.encodeNatural key.modulus ++ Der.encodeNatural key.exponent)⟩

def ofKey? (k : PublicKey) : Option PublicNumbers := ofBytes? k.algorithm k.bits

def suits (n : PublicNumbers) (signature : Algorithm) : Bool :=
  match n with
  | curve _ => signature.number == Algorithm.curveSha256
  | rsa _ => signature.number == Algorithm.rsaSha256

def pair? (signature : List UInt8) : Option (Nat × Nat) := do
  match ← (← Der.element? signature).sequence? with
  | [r, s] => return (← r.natural?, ← s.natural?)
  | _ => none

def verify (n : PublicNumbers) (text signature : List UInt8) : Bool :=
  match n with
  | curve point =>
    match pair? signature with
    | some (r, s) => P256.verify point (Sha256.hash text) r s
    | none => false
  | rsa key => Rsa.verify key (Sha256.hash text) signature

end PublicNumbers

namespace SecretNumbers

def public? : SecretNumbers → Option PublicNumbers
  | curve _ (some bits) => (P256.Point.decode? bits).map .curve
  | curve secret none => (P256.publicPoint? secret).map .curve
  | rsa numbers => some (.rsa ⟨numbers.modulus, numbers.exponent⟩)

def bits : SecretNumbers → Nat
  | curve .. => 256
  | rsa numbers => Rsa.bitLength numbers.modulus

def leading? (bytes : List UInt8) : Option Element := (Der.read? bytes).map (·.1)

/-- Reads a key on a curve, whose curve may have been named outside. -/
def curveOfElement? (curveIsKnown : Bool) (e : Element) : Option SecretNumbers := do
  match ← e.sequence? with
  | version :: secret :: rest =>
    let _ ← version.integer?
    let secret ← secret.octets?
    let (parameters, rest) := match rest with
      | ⟨0xA0, content⟩ :: rest => (some content, rest)
      | rest => (none, rest)
    let isKnown := match parameters with
      | some content => content == (Element.mk 6 Algorithm.p256).encode
      | none => curveIsKnown
    if !isKnown then none
    else
      match rest with
      | [] => some (curve (ofBytes secret) none)
      | [⟨0xA1, content⟩] =>
        let bits ← (← Der.element? content).bits?
        let _ ← P256.Point.decode? bits
        some (curve (ofBytes secret) (some bits))
      | _ => none
  | _ => none

def rsaOfElement? (e : Element) : Option SecretNumbers := do
  match ← (← e.sequence?).mapM Element.natural? with
  | [_, modulus, exponent, secretExponent, prime1, prime2, exponent1, exponent2, coefficient] =>
    return rsa { modulus, exponent, secretExponent, prime1, prime2, exponent1, exponent2,
                 coefficient }
  | _ => none

def generalOfElement? (e : Element) : Option SecretNumbers := do
  match ← e.sequence? with
  | version :: algorithm :: key :: _ =>
    let _ ← version.integer?
    let algorithm ← Algorithm.ofElement? algorithm
    let key ← leading? (← key.octets?)
    if algorithm == Algorithm.p256Key then curveOfElement? true key
    else if algorithm.number == Algorithm.rsaKey then rsaOfElement? key
    else none
  | _ => none

def decode? (bytes : List UInt8) : Option SecretNumbers := do
  let e ← leading? bytes
  generalOfElement? e <|> curveOfElement? false e <|> rsaOfElement? e

def ofBlock? (b : Pem.Block) : Option SecretNumbers := do
  if b.hasHeader then none
  else
    let e ← leading? b.content
    if b.label == "PRIVATE KEY" then generalOfElement? e
    else if b.label == "EC PRIVATE KEY" then curveOfElement? false e
    else if b.label == "RSA PRIVATE KEY" then rsaOfElement? e
    else none

def ofPem? (bytes : List UInt8) : Option SecretNumbers :=
  (Pem.blocks bytes).findSome? fun b => b.bind ofBlock?

def encodeOwn : SecretNumbers → List UInt8
  | curve secret publicBits =>
    let point := match publicBits with
      | some bits => (Element.mk 0xA1 (Element.mk 3 (0 :: bits)).encode).encode
      | none => []
    Der.encodeSequence (Der.encodeNatural 1 ++ (Element.mk 4 (toBytes 32 secret)).encode ++ point)
  | rsa n =>
    Der.encodeSequence (Der.encodeNatural 0 ++
      [n.modulus, n.exponent, n.secretExponent, n.prime1, n.prime2, n.exponent1, n.exponent2,
        n.coefficient].flatMap Der.encodeNatural)

def algorithm : SecretNumbers → Algorithm
  | curve .. => Algorithm.p256Key
  | rsa _ => Algorithm.rsaKeyPlain

def encode (n : SecretNumbers) : List UInt8 :=
  Der.encodeSequence
    (Der.encodeNatural 0 ++ n.algorithm.encode ++ (Element.mk 4 n.encodeOwn).encode)

def isProper (n : SecretNumbers) : Bool :=
  n.encode.length < Nat.pow 256 Der.maxLengthBytes &&
    match n with
    | curve secret bits =>
      secret < Nat.pow 256 32 && bits.all fun bits => (P256.Point.decode? bits).isSome
    | rsa _ => true

/-- A key is known by its general form, unless it is too long for that. -/
def key? (n : SecretNumbers) : Option PrivateKey := if n.isProper then some ⟨n.encode⟩ else none

def ofKey? (k : PrivateKey) : Option SecretNumbers := (leading? k.bytes).bind generalOfElement?

end SecretNumbers

/-- The library of keys on the curve P-256 and of RSA keys. -/
instance : Library where
  certificate? := Certificate.decode?
  certificate?_encode := Certificate.decode?_encode
  keyOfPem? bytes := (SecretNumbers.ofPem? bytes).bind SecretNumbers.key?
  keyOfDer? bytes := (SecretNumbers.decode? bytes).bind SecretNumbers.key?
  keyToPem k := Pem.encode "PRIVATE KEY" k.bytes
  keyBits k := (SecretNumbers.ofKey? k).elim 0 SecretNumbers.bits
  publicPart? k := ((SecretNumbers.ofKey? k).bind SecretNumbers.public?).map PublicNumbers.key
  certified? algorithm bytes := (PublicNumbers.ofBytes? algorithm bytes).map PublicNumbers.key
  suits k signature := (PublicNumbers.ofKey? k).any (·.suits signature)
  verify k _ text signature := (PublicNumbers.ofKey? k).any (·.verify text signature)

end Crypto

end ClusterAccess
