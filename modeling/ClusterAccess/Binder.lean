import ClusterAccess.Handshake
import ClusterAccess.Options

namespace ClusterAccess.Options

/-- Attaches a strategy's credential; without one, the certificate that goes with the options. -/
def authenticate {τ : Type} [CredentialTarget τ] (o : Options) (credential : Option Credential)
    (t : τ) : τ :=
  match credential, o.certificate with
  | some c, _ => c.applyTo t
  | none, some certificate => CredentialTarget.addCertificate t certificate
  | none, none => t

theorem authenticate_handshake (o : Options) (credential : Option Credential) (h : Handshake) :
    o.authenticate credential h = { h with request := o.authenticate credential h.request } := by
  cases credential with
  | none =>
    cases hc : o.certificate with
    | none => simp only [authenticate, hc]
    | some c =>
      simp only [authenticate, hc]
      rfl
  | some c =>
    obtain ⟨secret, expiresAt⟩ := c
    cases secret with
    | token t => rfl
    | basic username password => rfl
    | certificate c => rfl

def authenticationEntries (o : Options) (credential : Option Credential) : List LogEntry :=
  if o.logHeaders && (credential.bind (·.authorization?)).isSome then
    [.detail "Setting request header Authorization: <redacted>"]
  else []

def request (o : Options) (credential : Option Credential) : Request :=
  o.authenticate credential .empty

def handshakeTrust (o : Options) : Option TrustPolicy :=
  match o.trustPolicy with
  | .platformRoots => none
  | p => some p

def serverValidator (o : Options) (check : ChainCheck) : Option ServerValidator :=
  o.handshakeTrust.map fun p => ⟨p, check⟩

def bareHandshake (o : Options) : Handshake := { Handshake.default with trust := o.handshakeTrust }

def handshake (o : Options) (credential : Option Credential) : Handshake :=
  o.authenticate credential o.bareHandshake

def handshakeEntries (o : Options) (credential : Option Credential) : List LogEntry :=
  o.authenticationEntries credential ++
    if o.logHeaders then
      [.detail ("WebSocket handshake headers: " ++
        ", ".intercalate (o.handshake credential).request.headers.names)]
    else []

def waitError (o : Options) : Error :=
  .refreshFailed (.commandFailed o.strategy.sourceName none "" true)

/-- `answer` is what the cache of renewable credentials answers, if it came in time. -/
def currentCredential (o : Options) : Option Outcome → Except Error (Option Credential)
  | some answer => o.strategy.resolve answer
  | none => o.strategy.fixedCredential?.elim (.error o.waitError) .ok

theorem currentCredential_of_fixed {o : Options} {credential : Option Credential}
    (h : o.strategy.fixedCredential? = some credential) (answer : Option Outcome) :
    o.currentCredential answer = .ok credential := by
  cases answer <;> simp only [currentCredential, Strategy.resolve, h, Option.elim_some]

theorem currentCredential_of_renewable {o : Options} {r : Renewable}
    (h : o.strategy = .renewable r) (answer : Option Outcome) :
    o.currentCredential answer = answer.elim (.error o.waitError) fun answer =>
      (answer.map some).mapError Error.asRefreshFailure := by
  cases answer <;> simp only [currentCredential, Strategy.resolve, h, Strategy.fixedCredential?,
    Option.elim_none, Option.elim_some]

/-- Attaches the current credential to a target, and says whether there was one to be had. -/
def attach {τ : Type} [CredentialTarget τ] (o : Options) (answer : Option Outcome) (t : τ) :
    Except Error Unit × τ :=
  match o.currentCredential answer with
  | .ok credential => (.ok (), o.authenticate credential t)
  | .error e => (.error e, t)

def attached {τ : Type} [CredentialTarget τ] (o : Options) (answer : Option Outcome) (t : τ) :
    Except Error τ :=
  let (done, t) := o.attach answer t
  done.map fun _ => t

theorem attached_eq {τ : Type} [CredentialTarget τ] (o : Options) (answer : Option Outcome)
    (t : τ) : o.attached answer t = (o.currentCredential answer).map (o.authenticate · t) := by
  rw [attached, attach]
  cases o.currentCredential answer <;> rfl

def waitEntry (o : Options) : LogEntry :=
  .message ("Gave up waiting " ++ Text.decimal (o.credentialWait / 1000) ++ "s for " ++
    o.strategy.kind ++ " credential")

end ClusterAccess.Options
