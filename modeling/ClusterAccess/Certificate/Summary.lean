import ClusterAccess.Certificate.Period
import ClusterAccess.Error
import ClusterAccess.Json.Basic
import ClusterAccess.Time.Timestamp

namespace ClusterAccess

open Time

structure Summary where
  subject : String
  issuer : String
  notBefore : Instant
  notAfter : Instant
  serial : String
  fingerprint : String
  isAuthority : Bool
  deriving DecidableEq, Repr

namespace Certificate

def basicConstraints : List UInt8 := [0x55, 0x1d, 0x13]

def constraints? (value : List UInt8) : Option (Bool × Option (List UInt8)) := do
  let (e, rest) ← Der.read? value
  if !rest.isEmpty then none
  else
    match ← e.sequence? with
    | [] => some (false, none)
    | [⟨1, [b]⟩] => some (b != 0, none)
    | [⟨1, [b]⟩, n] => n.integer?.map fun n => (b != 0, some n)
    | [n] => n.integer?.map fun n => (false, some n)
    | _ => none

def isAuthority (c : Certificate) : Bool :=
  ((c.statement.extensions.filter (·.kind == basicConstraints)).findSome? fun e =>
    (constraints? e.value).map (·.1)).getD false

def summary? (c : Certificate) : Option Summary := do
  let subject ← c.statement.subject.text?
  let issuer ← c.statement.issuer.text?
  let notBefore ← c.notBefore?
  let notAfter ← c.notAfter?
  return { subject, issuer, notBefore, notAfter, serial := Text.hex c.statement.serial,
           fingerprint := Text.hex (Crypto.Sha256.hash c.encode), isAuthority := c.isAuthority }

def malformed : String := "malformed certificate"

def summary (c : Certificate) : Except Error Summary :=
  match c.summary? with
  | some s => .ok s
  | none => .error (.badCertificate "certificate" malformed)

def subjectText (c : Certificate) : String := (c.summary?.map (·.subject)).getD "<unparseable>"

end Certificate

namespace Summary

def isExpiredAt (s : Summary) (now : Instant) : Bool := !now.before s.notAfter

def toJson (s : Summary) : Json :=
  .object [("subject", .string s.subject), ("issuer", .string s.issuer),
    ("not_before", .string s.notBefore.timestampZ), ("not_after", .string s.notAfter.timestampZ),
    ("serial", .string s.serial), ("fingerprint", .string s.fingerprint),
    ("is_ca", .bool s.isAuthority)]

end Summary

end ClusterAccess
