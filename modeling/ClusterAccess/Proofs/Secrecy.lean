import ClusterAccess.Proofs.Secrecy.CommandLine

namespace ClusterAccess

open CommandLine Simulation

/-- What is logged of a context, and of the operations on a connection by its options. -/
def transcript [Library] (h : Host) (s : Settings) (k : Kubeconfig)
    (context namespaceName : Option String)
    (script : List ScriptedRun) (today : Time.Instant) (xs : List Operation) : List LogEntry :=
  let (entries, options) := Resolver.resolve h s k context namespaceName
  entries ++ match options with
    | .ok o => Session.serve script today o xs
    | .error _ => []

theorem transcript_eq [Library] {h h' : Host} {k k' : Kubeconfig} {context : Option String}
    {script script' : List ScriptedRun} (hk : k.Resembles k')
    (hr : Resolver.ReadsAlike h h' k context) (s : Settings) (namespaceName : Option String)
    (hs : ∀ o, (Resolver.resolve h s k context namespaceName).2 = .ok o →
      List.Forall₂ o.RunsAlike script script') (today : Time.Instant) (xs : List Operation) :
    transcript h' s k' context namespaceName script' today xs =
      transcript h s k context namespaceName script today xs := by
  obtain ⟨hentries, hoptions⟩ := Resolver.resolve_resembles hk s hr namespaceName
  rw [transcript, transcript]
  dsimp only
  rw [hentries]
  generalize (Resolver.resolve h s k context namespaceName).2 = x at hoptions hs
  generalize (Resolver.resolve h' s k' context namespaceName).2 = x' at hoptions
  cases hoptions with
  | error he => rfl
  | ok ho => exact congrArg (_ ++ ·) (Session.serve_eq ho (hs _ rfl) today xs)

/-- Runs that differ only in secrets are logged and printed alike. -/
structure SecretsUnlogged [Library] : Prop where
  transcript : ∀ (h h' : Host) (s : Settings) (k k' : Kubeconfig)
    (context namespaceName : Option String) (script script' : List ScriptedRun)
    (today : Time.Instant) (xs : List Operation), k.Resembles k' →
      Resolver.ReadsAlike h h' k context →
      (∀ o, (Resolver.resolve h s k context namespaceName).2 = .ok o →
        List.Forall₂ o.RunsAlike script script') →
      transcript h' s k' context namespaceName script' today xs =
        transcript h s k context namespaceName script today xs
  output : ∀ (args : Arguments) (s s' : Surroundings), Surroundings.Resembles args s s' →
    (report args s').1.output = (report args s).1.output
  errors : ∀ (args : Arguments) (s s' : Surroundings), Surroundings.Resembles args s s' →
    args.value .logFile = none → (report args s').1.errors = (report args s).1.errors

theorem secrets_unlogged [Library] : SecretsUnlogged where
  transcript _ _ s _ _ _ namespaceName _ _ today xs hk hr hs :=
    transcript_eq hk hr s namespaceName hs today xs
  output _ _ _ h := (report_same h).2.output
  errors _ _ _ h hbare := (report_same h).2.errors hbare

/-- A kubeconfig whose provider was given a token that has expired, and a command for more. -/
def seededKubeconfig (seed : String) : Kubeconfig :=
  { Kubeconfig.empty with
    contexts := [⟨"c", ⟨"k", "u", none⟩⟩]
    clusters := [⟨"k", ⟨"https://h", none, none, false⟩⟩]
    users := [⟨"u", { User.anonymous with
      authProvider := some ⟨"p", [("access-token", .string seed), ("cmd-path", .string "get-token"),
        ("expiry", .string "2020-01-01T00:00:00Z")]⟩ }⟩] }

theorem seededKubeconfig_resembles {seed seed' : String} (h : Text.isBlankText seed = false)
    (h' : Text.isBlankText seed' = false) :
    (seededKubeconfig seed).Resembles (seededKubeconfig seed') := by
  have hvalue {seed : String} (h : Text.isBlankText seed = false) :
      Text.nonBlank? (some seed) = some seed := by
    rw [Text.nonBlank?, Option.filter_some, h, Bool.not_false, if_pos rfl]
  have hprovider : AuthProvider.Resembles
      ⟨"p", [("access-token", .string seed), ("cmd-path", .string "get-token"),
        ("expiry", .string "2020-01-01T00:00:00Z")]⟩
      ⟨"p", [("access-token", .string seed'), ("cmd-path", .string "get-token"),
        ("expiry", .string "2020-01-01T00:00:00Z")]⟩ := by
    refine ⟨rfl, fun key hkey => ?_, ?_⟩
    · have hne : (key == "access-token") = false := beq_false_of_ne hkey
      simp only [AuthProvider.value?, List.lookup_cons, hne]
    · change SameSecret (Text.nonBlank? (some seed)) (Text.nonBlank? (some seed'))
      rw [hvalue h, hvalue h']
      exact .other h h'
  exact .intro (.cons ⟨rfl, .intro (.same _) (.same _) (.some hprovider) .none⟩ .nil)

def tokenRun (token : String) : ScriptedRun := ⟨1000, some (.ok ⟨some 0, token, ""⟩)⟩

def commandText : String :=
  "contexts: [\x7bname: c, context: \x7bcluster: c, user: c\x7d\x7d]\n" ++
    "clusters: [\x7bname: c, cluster: \x7bserver: http://h\x7d\x7d]\n" ++
      "users: [\x7bname: c, user: " ++
        "\x7bauth-provider: \x7bname: p, config: \x7bcmd-path: g\x7d\x7d\x7d\x7d]"

def puttingOut (token : String) : Surroundings where
  host := ⟨FileSystem.empty.put ["config"] (.file (Text.utf8 commandText)), none, []⟩
  environment := []
  now := .ofUnixSeconds 1700000000
  launcher := ⟨fun _ _ _ _ => ⟨1000, .ok ⟨some 0, token, ""⟩⟩⟩

/-- `--kubeconfig /config --context c --fetch-credential` -/
def fetching : Arguments where
  value
    | .kubeconfig => some "/config"
    | .context => some "c"
    | _ => none
  flag := fun f => f = .fetchCredential

theorem secrets_unlogged_seeded :
    let log := fun (seed token : String) =>
      transcript ⟨.empty, none, []⟩ .default (seededKubeconfig seed) (some "c") none
        [tokenRun token] (.ofUnixSeconds 1700000000) [.ask 2 .request, .advance 1000, .ask 1 .handshake]
    let output := fun (token : String) => (report fetching (puttingOut token)).1.output
    log "alpha" "beta" = log "gamma" "delta" ∧ output "beta" = output "delta" ∧
      (output "beta").getLast? = some "Credential: bearer token (expires: never)" := by
  have halike {p : Provider} (hp : p.tokenSelector = none) :
      ScriptedRun.Alike (.provider p) (tokenRun "delta") (tokenRun "beta") :=
    ⟨rfl, .some (.ended fun _ => .plain hp (by decide) (by decide))⟩
  have hlog := secrets_unlogged.transcript ⟨.empty, none, []⟩ ⟨.empty, none, []⟩ .default
    (seededKubeconfig "gamma") (seededKubeconfig "alpha") (some "c") none [tokenRun "delta"]
    [tokenRun "beta"] (.ofUnixSeconds 1700000000) [.ask 2 .request, .advance 1000, .ask 1 .handshake]
    (seededKubeconfig_resembles (by decide) (by decide))
    ⟨rfl, fun _ _ _ _ _ _ _ => rfl, fun _ _ _ _ _ => .other fun _ _ => rfl⟩ fun o ho => by
      cases ho
      exact .cons (halike rfl) .nil
  -- one evaluation, as the kubeconfig is read in both
  obtain ⟨hstrategy, hlast⟩ := Prod.mk.inj (by decide +kernel :
    ((prepared fetching (puttingOut "delta")).1.toOption.map (·.2.2.strategy),
        (report fetching (puttingOut "delta")).1.output.getLast?) =
      (some (.renewable
        ⟨.provider ⟨"p", some "g", [], none, none, none, none⟩, none, .ofSeconds 60⟩),
        some "Credential: bearer token (expires: never)"))
  have houtput := secrets_unlogged.output fetching (puttingOut "delta") (puttingOut "beta")
    (Surroundings.resembles_of_runs fun a settings o r hprepared => by
      rw [hprepared] at hstrategy
      have ho : o.strategy = _ := Option.some.inj hstrategy
      rw [Options.runsAlike_of_renewable ho, runs, runs, ho]
      exact .cons (halike rfl) .nil)
  exact ⟨hlog, houtput, (congrArg List.getLast? houtput).trans hlast⟩

end ClusterAccess
