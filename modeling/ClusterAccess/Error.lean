import ClusterAccess.Text.Blank
import ClusterAccess.Text.Diagnostic

namespace ClusterAccess

/-- The causes of failure. A refresh failure wraps the error that made the refresh fail. -/
inductive Error where
  | noContext
  | unknownContext (name : String)
  | unknownCluster (name : String)
  | unknownUser (name : String)
  | badAuthentication (detail : String)
  | badCertificate (source reason : String)
  | commandFailed (command : String) (exitCode : Option Int) (stderr : String) (timedOut : Bool)
  | badCommandOutput (detail : String)
  | refreshFailed (cause : Error)
  | untrustedServer (detail : String)
  | badEndpoint (endpoint reason : String)
  | badOptions (detail : String)
  | badConfiguration (path reason : String)
  | noServiceAccount (detail : String)
  deriving DecidableEq, Repr

namespace Error

def kind : Error → String
  | noContext => "NoContextSpecified"
  | unknownContext _ => "ContextNotFound"
  | unknownCluster _ => "ClusterNotFound"
  | unknownUser _ => "UserNotFound"
  | badAuthentication _ => "InvalidAuthConfiguration"
  | badCertificate .. => "CertificateLoadFailure"
  | commandFailed .. => "ExecPluginFailure"
  | badCommandOutput _ => "ExecPluginOutputInvalid"
  | refreshFailed _ => "CredentialRefreshFailure"
  | untrustedServer _ => "TlsValidationFailure"
  | badEndpoint .. => "InvalidEndpoint"
  | badOptions _ => "InvalidOptions"
  | badConfiguration .. => "ConfigLoadFailure"
  | noServiceAccount _ => "ServiceAccountUnavailable"

def rootCause : Error → Error
  | refreshFailed cause => cause.rootCause
  | e => e

def excerptLength : Nat := 512

def commandStatus (command : String) (exitCode : Option Int) (timedOut : Bool) : String :=
  let subject := "credential command '" ++ command ++ "'"
  if timedOut then subject ++ " timed out"
  else
    match exitCode with
    | some code => subject ++ " exited with status " ++ Text.decimalInt code
    | none => subject ++ " failed"

/-- The beginning of an error stream, after a colon, unless the stream is blank. -/
def excerpt (stderr : String) : String :=
  if Text.isBlankText stderr then ""
  else ": " ++ String.ofList ((Text.trimChars stderr.toList).take excerptLength)

def message : Error → String
  | noContext => "no context was specified and the configuration has no current context"
  | unknownContext name => "cannot find a context named '" ++ name ++ "'"
  | unknownCluster name => "cannot find a cluster named '" ++ name ++ "'"
  | unknownUser name => "cannot find a user identity named '" ++ name ++ "'"
  | badAuthentication detail => "invalid authentication configuration: " ++ detail
  | badCertificate source reason =>
    "failed to load certificate material from " ++ source ++ ": " ++ reason
  | commandFailed command exitCode stderr timedOut =>
    commandStatus command exitCode timedOut ++ excerpt stderr
  | badCommandOutput detail => "credential plugin produced invalid output: " ++ detail
  | refreshFailed cause => "failed to refresh credential: " ++ cause.message
  | untrustedServer detail => "server certificate validation failed: " ++ detail
  | badEndpoint endpoint reason => "invalid API endpoint '" ++ endpoint ++ "': " ++ reason
  | badOptions detail => "invalid connection options: " ++ detail
  | badConfiguration path reason => "failed to load configuration from " ++ path ++ ": " ++ reason
  | noServiceAccount detail => "pod service account is unavailable: " ++ detail

def debug : Error → String
  | noContext => "NoContextSpecified"
  | unknownContext name => Text.call "ContextNotFound" [Text.quoted name]
  | unknownCluster name => Text.call "ClusterNotFound" [Text.quoted name]
  | unknownUser name => Text.call "UserNotFound" [Text.quoted name]
  | badAuthentication detail => Text.call "InvalidAuthConfiguration" [Text.quoted detail]
  | badCertificate source reason =>
    Text.record "CertificateLoadFailure"
      [("source_name", Text.quoted source), ("reason", Text.quoted reason)]
  | commandFailed command exitCode stderr timedOut =>
    Text.record "ExecPluginFailure"
      [("command", Text.quoted command), ("exit_code", Text.optional (exitCode.map Text.decimalInt)),
        ("stderr", Text.quoted stderr), ("timed_out", Text.truth timedOut)]
  | badCommandOutput detail => Text.call "ExecPluginOutputInvalid" [Text.quoted detail]
  | refreshFailed cause => Text.call "CredentialRefreshFailure" [cause.debug]
  | untrustedServer detail => Text.call "TlsValidationFailure" [Text.quoted detail]
  | badEndpoint endpoint reason =>
    Text.record "InvalidEndpoint"
      [("endpoint", Text.quoted endpoint), ("reason", Text.quoted reason)]
  | badOptions detail => Text.call "InvalidOptions" [Text.quoted detail]
  | badConfiguration path reason =>
    Text.record "ConfigLoadFailure" [("path", Text.quoted path), ("reason", Text.quoted reason)]
  | noServiceAccount detail => Text.call "ServiceAccountUnavailable" [Text.quoted detail]

/-- Wraps an error as the cause of a refresh failure, unless it is one already. -/
def asRefreshFailure : Error → Error
  | refreshFailed cause => refreshFailed cause
  | e => refreshFailed e

end Error

end ClusterAccess
