import ClusterAccess.Log
import ClusterAccess.Plugin
import ClusterAccess.Provider

namespace ClusterAccess

open Time

variable [Library]

inductive CredentialSource where
  | provider (p : Provider)
  | plugin (p : Plugin)
  deriving DecidableEq, Repr

namespace CredentialSource

def kind : CredentialSource → String
  | provider _ => "auth-provider"
  | plugin _ => "exec-plugin"

def describe : CredentialSource → String
  | provider p => p.describe
  | plugin p => p.describe

def validate : CredentialSource → Except Error Unit
  | provider p => p.validate
  | plugin p => p.validate

def invocation : CredentialSource → Except Error Invocation
  | provider p => p.invocation
  | plugin p => .ok p.invocation

def installHint : CredentialSource → Option String
  | provider _ => none
  | plugin p => p.installHint

def parseOutput : CredentialSource → String → Except Error Credential
  | provider p => p.parseOutput
  | plugin p => p.parseOutput

def startEntry (s : CredentialSource) (i : Invocation) : LogEntry :=
  let run := i.program ++ " " ++ " ".intercalate i.args
  match s with
  | provider _ => .detail ("Running auth provider command: " ++ run)
  | plugin _ => .detail ("Running credential plugin: " ++ run)

def failureEntry (s : CredentialSource) (i : Invocation) (exitCode : Option Int) : LogEntry :=
  match s with
  | provider _ => .message ("Auth provider command " ++ i.program ++ " failed")
  | plugin _ => .message ("Credential plugin " ++ i.program ++ " exited with " ++
      Text.optional (exitCode.map Text.decimalInt))

def conclude (s : CredentialSource) (i : Invocation) : CommandOutcome → Except Error Credential
  | .error e => .error (e.toError i.program s.installHint)
  | .ok r => if r.succeeded then s.parseOutput r.stdout else .error (r.toError i.program)

def fetch {m : Type → Type} [Monad m] (s : CredentialSource) (run : Invocation → m CommandOutcome)
    (log : LogEntry → m Unit) : m (Except Error Credential) :=
  match s.invocation with
  | .error e => return .error e
  | .ok i => do
    log (s.startEntry i)
    let o ← run i
    if let .ok r := o then
      unless r.succeeded do log (s.failureEntry i r.exitCode)
    return s.conclude i o

def beginEntry (s : CredentialSource) : LogEntry :=
  .detail ("Refreshing credential via " ++ s.describe)

def endEntry (s : CredentialSource) : Except Error Credential → LogEntry
  | .ok c => .detail ("Obtained credential from " ++ s.describe ++ " (expires: " ++
      (c.expiresAt.map Instant.timestamp).getD "never" ++ ")")
  | .error e => .message ("Credential refresh via " ++ s.describe ++ " failed: " ++ e.message)

def debug : CredentialSource → String
  | provider p => p.debug
  | plugin p => p.debug

end CredentialSource

end ClusterAccess
