import ClusterAccess.CommandLine.Arguments
import ClusterAccess.Crypto.Keys
import ClusterAccess.Kubeconfig.Decode
import ClusterAccess.Launch
import ClusterAccess.Pod
import ClusterAccess.Resolver
import ClusterAccess.Simulation.Session

namespace ClusterAccess.CommandLine

open Time

variable [Library]

structure Surroundings where
  host : Host
  environment : TextTable
  now : Instant
  [launcher : Launcher]

structure Report where
  output : List String
  errors : List String
  host : Host

abbrev Job := ExceptT Error (StateM Report)

structure Audience where
  wantsDetails : Bool
  file : Option FileLog
  now : Instant

namespace Job

def say (line : String) : Job Unit := modify fun r => { r with output := r.output ++ [line] }

def ofExcept {α : Type} (r : Except Error α) : Job α := MonadExcept.ofExcept r

end Job

def timeOfDay (t : Instant) : String := String.ofList ((t.toReading.chars.drop 11).take 8)

def dateAndTime (t : Instant) : String :=
  String.ofList (t.toReading.chars.take 10) ++ " " ++ timeOfDay t

def lostEntry : LogEntry → String
  | .message _ => "Failed to write to log file: "
  | .detail _ => "Failed to write debug log: "

def Report.note (r : Report) (a : Audience) (e : LogEntry) : Report :=
  if !e.isKept a.wantsDetails then r
  else
    let r := { r with errors := r.errors ++ [timeOfDay a.now ++ ": " ++ e.text] }
    match a.file with
    | none => r
    | some log =>
      match log.append r.host (dateAndTime a.now) e.text with
      | .ok h => { r with host := h }
      | .error fault => { r with errors := r.errors ++ [lostEntry e ++ fault.message] }

def Audience.tell (a : Audience) (entries : List LogEntry) : Job Unit :=
  modify fun r => entries.foldl (fun r e => r.note a e) r

def audience (args : Arguments) (now : Instant) : Job Audience := do
  let details := args.flag .debug
  match args.value .logFile with
  | none => return ⟨details, none, now⟩
  | some path =>
    let made := FileLog.create (← get).host path details
    let (log, host) ← Job.ofExcept (made.mapError fun e => .badConfiguration path e.message)
    modify fun r => { r with host := host }
    return ⟨details, some log, now⟩

/-- The given path, the first that the environment names, or the usual one. -/
def kubeconfigPath (args : Arguments) (s : Surroundings) : Except Error String :=
  match args.value .kubeconfig with
  | some path => .ok path
  | none =>
    let named := (s.environment.lookup "KUBECONFIG").bind fun paths =>
      (Text.splitChars (· == ':') paths.toList).find? (!·.isEmpty)
    match named.map String.ofList, Kubeconfig.defaultPath? s.host with
    | some path, _ => .ok path
    | none, some path => .ok path
    | none, none =>
      .error (.badConfiguration "~/.kube/config" "cannot determine the home directory")

def pod (s : Surroundings) : Pod :=
  ⟨s.environment.lookup Pod.hostVariable, s.environment.lookup Pod.portVariable⟩

/-- A namespace of the command line takes the place of the account's as it is. -/
def podOptions (args : Arguments) (s : Surroundings) (settings : Settings) : Except Error Options :=
  ((pod s).options s.host Pod.accountDirectory).map fun o =>
    { o with
      namespaceName := (args.value .namespaceName).getD o.namespaceName
      logHeaders := settings.logHeaders
      credentialWait := settings.credentialWait * 1000 }

def contextOptions (args : Arguments) (s : Surroundings) (settings : Settings) (path : String) :
    List LogEntry × Except Error Options :=
  match Kubeconfig.load s.host path with
  | .error e => ([], .error e)
  | .ok k => Resolver.resolve s.host settings k (args.value .context) (args.value .namespaceName)

def connectionOptions (args : Arguments) (s : Surroundings) (settings : Settings) :
    List LogEntry × Except Error Options :=
  if args.flag .inCluster then
    ([.detail ("Using service account at " ++ Pod.accountDirectory)], podOptions args s settings)
  else
    match kubeconfigPath args s with
    | .error e => ([], .error e)
    | .ok path =>
      let (entries, options) := contextOptions args s settings path
      (.detail ("Loading kubeconfig from " ++ path) :: entries, options)

def describeCertificate (label : String) (c : Certificate) : Job Unit := do
  let s ← Job.ofExcept c.summary
  [label ++ ":", "  Subject:     " ++ s.subject, "  Issuer:      " ++ s.issuer,
    "  Not after:   " ++ s.notAfter.timestamp, "  Fingerprint: " ++ s.fingerprint].forM Job.say

def describe (o : Options) : Job Unit := do
  Job.say ("Endpoint:  " ++ o.endpoint.text)
  Job.say ("Namespace: " ++ o.namespaceName)
  Job.say ("Auth:      " ++ o.strategy.kind)
  match o.trustPolicy with
  | .platformRoots => Job.say "TLS:       platform roots"
  | .insecure => Job.say "TLS:       INSECURE (server certificate not verified)"
  | .authority ca =>
    Job.say "TLS:       cluster CA"
    describeCertificate "Cluster CA" ca
  match o.certificate with
  | some c => describeCertificate "Client certificate" c.certificate
  | none => return

def runs (o : Options) (s : Surroundings) (settings : Settings) (h : Host) :
    List Simulation.ScriptedRun :=
  match o.strategy with
  | .renewable r =>
    match r.source.invocation with
    | .ok i =>
      let launched := s.launcher.launch i h s.environment (settings.commandTimeout * 1000)
      [⟨launched.time, some launched.outcome⟩]
    | .error _ => []
  | _ => []

def describeCredential (c : Credential) : String :=
  let kind := match c.secret with
    | .token _ => "bearer token"
    | .basic .. => "basic"
    | .certificate _ => "client certificate"
  "Credential: " ++ kind ++ " (expires: " ++ (c.expiresAt.map Instant.timestamp).getD "never" ++ ")"

def fetch (o : Options) (s : Surroundings) (settings : Settings) (a : Audience) : Job Unit := do
  Job.ofExcept o.validate
  let session := (Simulation.Session.ofScript (runs o s settings (← get).host) s.now).add o
  match session.connections with
  | [] => return
  | c :: _ =>
    let (session, answers) := session.ask c 1 .current
    a.tell session.world.log
    match answers with
    | [.error e] => throw e
    | [.ok (.credential (some c))] => Job.say (describeCredential c)
    | _ => Job.say "Credential: none"

def work (args : Arguments) (s : Surroundings) : Job Unit := do
  let a ← audience args s.now
  let settings ← match args.value .settings with
    | some path => Job.ofExcept (Settings.load (← get).host path)
    | none => pure Settings.default
  let (entries, options) := connectionOptions args { s with host := (← get).host } settings
  a.tell entries
  let o ← Job.ofExcept options
  describe o
  if args.flag .fetchCredential then fetch o s settings a

/-- The report of the work, and whether it succeeded. An error is its last line. -/
def report (args : Arguments) (s : Surroundings) : Report × Bool :=
  let (result, r) := (work args s).run.run ⟨[], [], s.host⟩
  match result with
  | .ok () => (r, true)
  | .error e => ({ r with errors := r.errors ++ ["Error: " ++ e.message] }, false)

end ClusterAccess.CommandLine
