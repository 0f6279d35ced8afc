import ClusterAccess.Command
import ClusterAccess.Credential
import ClusterAccess.Kubeconfig.Basic
import ClusterAccess.Provider.Selector

namespace ClusterAccess

open Time

structure Provider where
  name : String
  command : Option String
  args : List String
  tokenSelector : Option String
  expirySelector : Option String
  initialToken : Option String
  initialExpiry : Option Instant
  deriving DecidableEq, Repr

namespace Provider

def expiryOfConfig (p : AuthProvider) : Except Error (Option Instant) :=
  match p.value? "expiry" with
  | none => .ok none
  | some raw =>
    match parseTimestamp raw with
    | some t => .ok (some t)
    | none => .error (.badAuthentication
        ("auth provider '" ++ p.name ++ "' has an unparseable expiry '" ++ raw ++ "'"))

def ofConfig (p : AuthProvider) : Except Error Provider := do
  let initialExpiry ← expiryOfConfig p
  return {
    name := p.name
    command := p.value? "cmd-path"
    args := ((p.value? "cmd-args").map Text.words).getD []
    tokenSelector := p.value? "token-key"
    expirySelector := p.value? "expiry-key"
    initialToken := p.value? "access-token"
    initialExpiry }

def initialCredential (p : Provider) : Option Credential :=
  p.initialToken.map fun t => .bearer t p.initialExpiry

def describe (p : Provider) : String := p.command.getD ("auth provider '" ++ p.name ++ "'")

def validate (p : Provider) : Except Error Unit :=
  if p.command.isNone && p.initialToken.isNone then
    .error (.badAuthentication
      ("auth provider '" ++ p.name ++ "' needs either cmd-path or access-token"))
  else .ok ()

def tokenAt (document : Json) (selector : String) : Except Error String :=
  match ((Selector.select? document selector).bind Json.string?).filter (!Text.isBlankText ·) with
  | some t => .ok (Text.trim t)
  | none => .error (.badCommandOutput ("no access token found at '" ++ selector ++ "'"))

def instantAt (document : Json) (selector : String) : Except Error Instant :=
  match (Selector.select? document selector).bind Json.string? with
  | none => .error (.badCommandOutput ("no token expiry found at '" ++ selector ++ "'"))
  | some raw =>
    match parseTimestamp raw with
    | some t => .ok t
    | none => .error (.badCommandOutput
        ("token expiry '" ++ raw ++ "' is not an RFC3339 timestamp"))

def document (p : Provider) (text : String) : Except Error Json :=
  match Json.parse? text with
  | some d => .ok d
  | none => .error (.badCommandOutput
      ("output of '" ++ p.describe ++ "' is not valid JSON: malformed JSON"))

def parseOutput (p : Provider) (stdout : String) : Except Error Credential :=
  let text := Text.trim stdout
  if text.isEmpty then
    .error (.badCommandOutput ("'" ++ p.describe ++ "' produced no output"))
  else
    match p.tokenSelector with
    | none => .ok (.bearer text none)
    | some tokenSelector => do
      let document ← p.document text
      let token ← tokenAt document tokenSelector
      match p.expirySelector with
      | none => return .bearer token none
      | some expirySelector => return .bearer token (some (← instantAt document expirySelector))

def invocation (p : Provider) : Except Error Invocation :=
  match p.command with
  | some program => .ok ⟨program, p.args, []⟩
  | none => .error (.badAuthentication
      ("the access token for auth provider '" ++ p.name ++
        "' expired and no cmd-path is configured"))

def debug (p : Provider) : String :=
  Text.record "AuthProviderCommand"
    [("provider_name", Text.quoted p.name), ("command", Text.optionalQuoted p.command),
      ("args", Text.quotedList p.args), ("token_selector", Text.optionalQuoted p.tokenSelector),
      ("expiry_selector", Text.optionalQuoted p.expirySelector),
      ("initial_token", Text.optional (p.initialToken.map fun _ => Text.redacted)),
      ("initial_expiry", Credential.debugInstant p.initialExpiry)]

end Provider

end ClusterAccess
