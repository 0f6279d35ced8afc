import ClusterAccess.Certificate.Algorithm
import ClusterAccess.Certificate.Name
import ClusterAccess.Time.Instant
import ClusterAccess.Text.Digits

namespace ClusterAccess

structure Extension where
  kind : List UInt8
  isCritical : Bool
  value : List UInt8
  deriving DecidableEq, Repr

structure Statement where
  version : Option (List UInt8)
  serial : List UInt8
  algorithm : Algorithm
  issuer : Name
  notBefore : Der.Element
  notAfter : Der.Element
  subject : Name
  keyAlgorithm : Algorithm
  keyBits : List UInt8
  extensions : List Extension
  deriving DecidableEq, Repr

/-- A certificate: its signed part as it stands and as it reads, and the signature. -/
structure Certificate where
  signed : Der.Element
  statement : Statement
  algorithm : Algorithm
  signature : Der.Element
  deriving DecidableEq, Repr

def Extension.ofElement? (e : Der.Element) : Option Extension := do
  match ← e.sequence? with
  | [kind, value] => return ⟨← kind.objectId?, false, ← value.octets?⟩
  | [kind, critical, value] =>
    match critical with
    | ⟨1, [b]⟩ => return ⟨← kind.objectId?, b != 0, ← value.octets?⟩
    | _ => none
  | _ => none

namespace Statement

def takeTagged (identifier : UInt8) : List Der.Element → Option Der.Element × List Der.Element
  | e :: rest => if e.identifier == identifier then (some e, rest) else (none, e :: rest)
  | [] => (none, [])

def single? (e : Der.Element) : Option Der.Element := do
  match ← e.parts? with
  | [inner] => some inner
  | _ => none

def period? (e : Der.Element) : Option (Der.Element × Der.Element) := do
  match ← e.sequence? with
  | [a, b] =>
    if [a, b].all fun t => t.identifier == 23 || t.identifier == 24 then some (a, b) else none
  | _ => none

def key? (e : Der.Element) : Option (Algorithm × List UInt8) := do
  match ← e.sequence? with
  | [algorithm, bits] => return (← Algorithm.ofElement? algorithm, ← bits.bits?)
  | _ => none

def extensions? (parts : List Der.Element) : Option (List Extension) :=
  let (issuerId, parts) := takeTagged 0x81 parts
  let (subjectId, parts) := takeTagged 0x82 parts
  let isSound := fun (e : Option Der.Element) =>
    e.all fun e => (Der.Element.mk 3 e.content).bits?.isSome
  if !(isSound issuerId && isSound subjectId) then none
  else
    match parts with
    | [] => some []
    | [e] =>
      if e.identifier == 0xA3 then (single? e).bind fun inner =>
        inner.sequence?.bind (·.mapM Extension.ofElement?)
      else none
    | _ => none

def ofElement? (e : Der.Element) : Option Statement := do
  let (versionPart, parts) := takeTagged 0xA0 (← e.sequence?)
  let version ← match versionPart with
    | some v => (single? v).bind fun n => n.integer?.map some
    | none => some none
  match parts with
  | serial :: algorithm :: issuer :: period :: subject :: key :: rest =>
    let serial ← serial.integer?
    let algorithm ← Algorithm.ofElement? algorithm
    let issuer ← Name.ofElement? issuer
    let (notBefore, notAfter) ← period? period
    let subject ← Name.ofElement? subject
    let (keyAlgorithm, keyBits) ← key? key
    let extensions ← extensions? rest
    return { version, serial, algorithm, issuer, notBefore, notAfter, subject, keyAlgorithm,
             keyBits, extensions }
  | _ => none

end Statement

namespace Certificate

def encode (c : Certificate) : List UInt8 :=
  Der.encodeSequence (c.signed.encode ++ c.algorithm.encode ++ c.signature.encode)

def ofElement? (e : Der.Element) : Option Certificate := do
  match ← e.sequence? with
  | [signed, algorithm, signature] =>
    let statement ← Statement.ofElement? signed
    let algorithm ← Algorithm.ofElement? algorithm
    let _ ← signature.bits?
    return { signed, statement, algorithm, signature }
  | _ => none

/-- Lengths are definite and of at most four bytes, and strings are not constructed. -/
def decode? (bytes : List UInt8) : Option Certificate := do
  let (e, _) ← Der.read? bytes
  ofElement? e

end Certificate

end ClusterAccess
