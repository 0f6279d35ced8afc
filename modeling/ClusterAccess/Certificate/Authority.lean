import ClusterAccess.Certificate.Summary
import ClusterAccess.Library

namespace ClusterAccess

structure KeyReference where
  keyId : Option (List UInt8)
  issuer : Option Name
  serial : Option (List UInt8)
  deriving DecidableEq, Repr

structure Authority where
  isFirstVersion : Bool
  isSelfIssued : Bool
  constraints : Option (Bool × Option Nat)
  usage : Option (List UInt8)
  oldType : Option UInt8
  keyId : Option (List UInt8)
  signer : Option KeyReference
  hasUnknownCritical : Bool
  isProxy : Bool
  deriving DecidableEq, Repr

namespace Certificate

/-- The kinds of extensions that may be critical, by their last numbers under 2.5.29. -/
def knownKinds : List UInt8 := [0x0f, 0x11, 0x13, 0x1e, 0x1f, 0x20, 0x21, 0x24, 0x25, 0x36]

def kind (last : UInt8) : List UInt8 := [0x55, 0x1d, last]

def oldTypeKind : List UInt8 := [0x60, 0x86, 0x48, 0x01, 0x86, 0xf8, 0x42, 0x01, 0x01]

def proxyKind : List UInt8 := [0x2b, 0x06, 0x01, 0x05, 0x05, 0x07, 0x01, 0x0e]

/-- Address blocks, system numbers and the waiver of status checks. -/
def otherKinds : List (List UInt8) :=
  [[0x2b, 0x06, 0x01, 0x05, 0x05, 0x07, 0x01, 0x07], [0x2b, 0x06, 0x01, 0x05, 0x05, 0x07, 0x01, 0x08],
    [0x2b, 0x06, 0x01, 0x05, 0x05, 0x07, 0x30, 0x01, 0x05]]

def isKnownKind (k : List UInt8) : Bool :=
  knownKinds.any (kind · == k) || k == oldTypeKind || k == proxyKind || otherKinds.contains k

/-- The limit that the bytes of an integer set; `none` if it is negative. -/
def limit? (bytes : List UInt8) : Option Nat :=
  if bytes.head?.any (128 ≤ ·) then none else some (Crypto.ofBytes bytes)

def limits? (value : List UInt8) : Option (Bool × Option Nat) := do
  match ← constraints? value with
  | (isAuthority, none) => some (isAuthority, none)
  | (isAuthority, some n) => (limit? n).map fun n => (isAuthority, some n)

def directoryName? (names : List Der.Element) : Option Name :=
  (names.find? (·.identifier == 0xA4)).bind fun e => (Statement.single? e).bind Name.ofElement?

def keyReference? (value : List UInt8) : Option KeyReference := do
  let parts ← (← Der.element? value).sequence?
  let (keyId, parts) := Statement.takeTagged 0x80 parts
  let (names, parts) := Statement.takeTagged 0xA1 parts
  let (serial, parts) := Statement.takeTagged 0x82 parts
  if !parts.isEmpty then none
  else
    let names ← match names with
      | some e => e.parts?
      | none => some []
    return ⟨keyId.map (·.content), directoryName? names, serial.map (·.content)⟩

/-- An extension that stands twice or cannot be read is a fault. -/
def understood? {α : Type} (c : Certificate) (k : List UInt8) (read : List UInt8 → Option α) :
    Option (Option α) :=
  match c.statement.extensions.filter (·.kind == k) with
  | [] => some none
  | [e] => (read e.value).map some
  | _ => none

def usage? (value : List UInt8) : Option (List UInt8) := do
  let bits ← (← Der.element? value).bits?
  if bits.all (· == 0) then none else some bits

def firstBits? (value : List UInt8) : Option UInt8 :=
  ((Der.element? value).bind Der.Element.bits?).map fun bits => bits.headD 0

def keyId? (value : List UInt8) : Option (List UInt8) :=
  (Der.element? value).bind Der.Element.octets?

/-- The kinds of extensions that are not read here but may stand only once. -/
def unreadKinds : List UInt8 := [0x11, 0x12, 0x1e, 0x1f, 0x25]

def authority? (c : Certificate) : Option Authority := do
  let s := c.statement
  for k in unreadKinds do
    let _ ← understood? c (kind k) some
  let limits ← understood? c basicConstraints limits?
  let usage ← understood? c (kind 0x0f) usage?
  let oldType ← understood? c oldTypeKind firstBits?
  let keyId ← understood? c (kind 0x0e) keyId?
  let signer ← understood? c (kind 0x23) keyReference?
  return { isFirstVersion := s.version.all fun v => v == [0]
           isSelfIssued := s.subject.same s.issuer
           constraints := limits
           usage
           oldType
           keyId
           signer
           hasUnknownCritical := s.extensions.any fun e => e.isCritical && !isKnownKind e.kind
           isProxy := s.extensions.any (·.kind == proxyKind) }

/-- A reference names the key of an issuer; what it leaves out is not compared. -/
def KeyReference.names (r : KeyReference) (issuer : Certificate) (a : Authority) : Bool :=
  (match r.keyId, a.keyId with
    | some i, some j => i == j
    | _, _ => true) &&
  r.serial.all (· == issuer.statement.serial) && r.issuer.all (·.same issuer.statement.issuer)

/-- As far as names, key references and algorithms tell, a certificate has issued another. -/
def mayIssue [Library] (issuer subject : Certificate) : Bool :=
  issuer.statement.subject.same subject.statement.issuer &&
    match issuer.authority?, subject.authority? with
    | some a, some b =>
      b.signer.all (KeyReference.names · issuer a) &&
        issuer.publicKey?.any (·.suits subject.statement.algorithm)
    | _, _ => false

def isSelfSigned [Library] (c : Certificate) : Bool := c.mayIssue c

end Certificate

namespace Authority

def signsCertificates : UInt8 := 4

def oldAuthority : UInt8 := 7

def maySign (a : Authority) : Bool :=
  a.usage.all fun bits => bits.headD 0 &&& signsCertificates != 0

inductive Claim where
  | no
  | stated
  | tolerated
  deriving DecidableEq, Repr

/-- What its constraints state, or else what its age or usage lets suppose. -/
def claim (a : Authority) (isSelfSigned : Bool) : Claim :=
  if !a.maySign then .no
  else
    match a.constraints with
    | some (isAuthority, _) => if isAuthority then .stated else .no
    | none =>
      if (a.isFirstVersion && isSelfSigned) || a.usage.isSome ||
        a.oldType.any (fun t => t &&& oldAuthority != 0) then .tolerated
      else .no

end Authority

end ClusterAccess
