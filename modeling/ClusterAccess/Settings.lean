import ClusterAccess.Error
import ClusterAccess.FileSystem
import ClusterAccess.Json.Printer
import ClusterAccess.Time.Instant

namespace ClusterAccess

structure Settings where
  commandTimeout : Nat
  refreshMargin : Nat
  credentialWait : Nat
  defaultNamespace : String
  logHeaders : Bool
  deriving DecidableEq, Repr

namespace Settings

def default : Settings := ⟨30, 60, 60, "default", false⟩

def maxRefreshMargin : Nat := 24 * 60 * 60

def validate (s : Settings) : Except Error Unit :=
  if s.commandTimeout == 0 then
    .error (.badOptions "exec_timeout_secs must be greater than zero")
  else if s.credentialWait == 0 then
    .error (.badOptions "credential_wait_secs must be greater than zero")
  else if maxRefreshMargin < s.refreshMargin then
    .error (.badOptions ("refresh_margin_secs must be at most " ++ Text.decimal maxRefreshMargin))
  else if Text.isBlankText s.defaultNamespace then
    .error (.badOptions "default_namespace must not be empty")
  else .ok ()

/-- A number of 64 bits as one of 64 bits with a sign, if it is not too large for that. -/
def signed? (n : Nat) : Option Int := if n < Nat.pow 2 63 then some n else none

def margin (s : Settings) : Except Error Time.Span :=
  let seconds := (signed? s.refreshMargin).filter fun n => n.toNat ≤ maxRefreshMargin
  match seconds.bind Time.Span.ofSeconds? with
  | some span => .ok span
  | none =>
    .error (.badOptions
      ("refresh_margin_secs " ++ Text.decimal s.refreshMargin ++ " is out of range"))

def fieldNames : List String :=
  ["exec_timeout_secs", "refresh_margin_secs", "credential_wait_secs", "default_namespace",
    "log_headers"]

def toJson (s : Settings) : Json :=
  .object [("exec_timeout_secs", .number (.natural s.commandTimeout)),
    ("refresh_margin_secs", .number (.natural s.refreshMargin)),
    ("credential_wait_secs", .number (.natural s.credentialWait)),
    ("default_namespace", .string s.defaultNamespace), ("log_headers", .bool s.logHeaders)]

def parse? (text : String) : Option Settings := do
  let fs ← (← Json.Document.parse? text).fields? fieldNames
  pure {
    commandTimeout := ← fs.get? "exec_timeout_secs" default.commandTimeout Json.Document.natural?
    refreshMargin := ← fs.get? "refresh_margin_secs" default.refreshMargin Json.Document.natural?
    credentialWait :=
      ← fs.get? "credential_wait_secs" default.credentialWait Json.Document.natural?
    defaultNamespace := ← fs.get? "default_namespace" default.defaultNamespace Json.Document.text?
    logHeaders := ← fs.get? "log_headers" default.logHeaders Json.Document.bool? }

def malformed : String := "malformed JSON"

def load (h : Host) (path : String) : Except Error Settings :=
  match h.readText (Path.expandHome h.home path) with
  | .error e => .error (.badConfiguration path e.message)
  | .ok text =>
    match parse? text with
    | none => .error (.badConfiguration path malformed)
    | some s => s.validate.map fun _ => s

def save (s : Settings) (h : Host) (path : String) : Except Error Host :=
  let written : Except FileError Host := do
    let h ←
      match Path.parent? path with
      | some p => h.makeDirectories p
      | none => pure h
    h.write path (Text.utf8 s.toJson.indented)
  written.mapError fun e => .badConfiguration path e.message

end Settings

end ClusterAccess
