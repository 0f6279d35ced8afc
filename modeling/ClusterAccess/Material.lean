import ClusterAccess.Certificate.Summary
import ClusterAccess.FileSystem
import ClusterAccess.Library
import ClusterAccess.Pem

namespace ClusterAccess

inductive Material where
  | inline (data : String)
  | file (path : String)
  deriving DecidableEq, Repr

namespace Material

def describe (m : Material) (what : String) : String :=
  match m with
  | inline _ => "inline " ++ what
  | file path => what ++ " file " ++ path

def read (h : Host) (m : Material) (what : String) : Except Error (List UInt8) :=
  match m with
  | inline data => (Base64.decodeText data).mapError fun e =>
      .badCertificate (m.describe what) e.message
  | file path => (h.read path).mapError fun e => .badCertificate (m.describe what) e.message

end Material

/-- How the objects of a kind are read, armoured and in binary, and what is said of them. -/
structure Reader (α : Type) where
  what : String
  malformed : String
  ofPem? : List UInt8 → Option α
  ofDer? : List UInt8 → Option α

namespace Reader

variable {α : Type}

def ofBytes? (r : Reader α) (bytes : List UInt8) : Option α :=
  if Pem.isArmoured bytes then r.ofPem? bytes else r.ofDer? bytes

def parse (r : Reader α) (bytes : List UInt8) (source : String) : Except Error α :=
  match r.ofBytes? bytes with
  | some a => .ok a
  | none => .error (.badCertificate source r.malformed)

def load (r : Reader α) (h : Host) (m : Material) : Except Error α := do
  r.parse (← m.read h r.what) (m.describe r.what)

end Reader

namespace Certificate

variable [Library]

def ofPem? (bytes : List UInt8) : Option Certificate :=
  (Pem.first? ["CERTIFICATE", "X509 CERTIFICATE"] (Pem.blocks bytes)).bind Library.certificate?

def reader : Reader Certificate := ⟨"certificate", malformed, ofPem?, Library.certificate?⟩

def ofBytes? : List UInt8 → Option Certificate := reader.ofBytes?

def parse : List UInt8 → String → Except Error Certificate := reader.parse

def load : Host → Material → Except Error Certificate := reader.load

def toPem (c : Certificate) : List UInt8 := Pem.encode "CERTIFICATE" c.encode

end Certificate

namespace PrivateKey

variable [Library]

def malformed : String := "malformed private key"

def reader : Reader PrivateKey :=
  ⟨"private key", malformed, Library.keyOfPem?, Library.keyOfDer?⟩

def ofBytes? : List UInt8 → Option PrivateKey := reader.ofBytes?

def parse : List UInt8 → String → Except Error PrivateKey := reader.parse

def load : Host → Material → Except Error PrivateKey := reader.load

end PrivateKey

end ClusterAccess
