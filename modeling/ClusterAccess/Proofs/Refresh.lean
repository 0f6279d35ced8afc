import ClusterAccess.Cache
import ClusterAccess.CredentialSource
import ClusterAccess.Proofs.Except

namespace ClusterAccess

/-- What fails, fails for bad output. -/
def BlamesOutput {α : Type} (x : Except Error α) : Prop :=
  ∀ e, x = .error e → ∃ detail, e = .badCommandOutput detail

namespace BlamesOutput

variable {α β : Type}

theorem ok (a : α) : BlamesOutput (.ok a) := nofun

theorem fault (detail : String) :
    BlamesOutput (.error (.badCommandOutput detail) : Except Error α) :=
  fun _ h => ⟨detail, (Except.error.inj h).symm⟩

theorem bind {x : Except Error α} {f : α → Except Error β} (hx : BlamesOutput x)
    (hf : ∀ a, BlamesOutput (f a)) : BlamesOutput (x >>= f) := fun e h => by
  rcases Except.bind_eq_error_iff.1 h with h | ⟨a, -, h⟩
  · exact hx e h
  · exact hf a e h

end BlamesOutput

namespace Plugin

theorem blamesOutput_status (p : Plugin) (r : Response) : BlamesOutput (p.status r) := by
  rw [status]
  split
  · exact .fault _
  · split
    · exact .fault _
    · split
      · exact .ok _
      · exact .fault _

theorem blamesOutput_expiresAt (s : Status) : BlamesOutput s.expiresAt := by
  rw [Status.expiresAt]
  split
  · exact .ok _
  · split
    · exact .ok _
    · exact .fault _

theorem blamesOutput_credential [Library] (s : Status) : BlamesOutput s.credential := by
  refine .bind (blamesOutput_expiresAt s) fun expiresAt => ?_
  split
  · split
    · exact .ok _
    · exact .fault _
  · split
    · exact .ok _
    · exact .fault _
  · exact .fault _

theorem blamesOutput_parseOutput [Library] (p : Plugin) (stdout : String) :
    BlamesOutput (p.parseOutput stdout) := by
  rw [parseOutput]
  split
  · exact .fault _
  · exact .bind (blamesOutput_status p _) blamesOutput_credential

end Plugin

namespace Provider

theorem blamesOutput_tokenAt (document : Json) (selector : String) :
    BlamesOutput (tokenAt document selector) := by
  rw [tokenAt]
  split
  · exact .ok _
  · exact .fault _

theorem blamesOutput_instantAt (document : Json) (selector : String) :
    BlamesOutput (instantAt document selector) := by
  rw [instantAt]
  split
  · exact .fault _
  · split
    · exact .ok _
    · exact .fault _

theorem blamesOutput_document (p : Provider) (text : String) : BlamesOutput (p.document text) := by
  rw [document]
  split
  · exact .ok _
  · exact .fault _

theorem blamesOutput_parseOutput (p : Provider) (stdout : String) :
    BlamesOutput (p.parseOutput stdout) := by
  simp only [parseOutput]
  split
  · exact .fault _
  · split
    · exact .ok _
    · refine .bind (blamesOutput_document p _) fun document => ?_
      refine .bind (blamesOutput_tokenAt document _) fun token => ?_
      split
      · exact .ok _
      · exact .bind (blamesOutput_instantAt document _) fun _ => .ok _

end Provider

namespace CredentialSource

/-- What a run of a source's command is worth, by its end. -/
inductive Yields [Library] (s : CredentialSource) (i : Invocation) :
    CommandOutcome → Outcome → Prop where
  | made {stdout stderr : String} {c : Credential} (hp : s.parseOutput stdout = .ok c) :
    Yields s i (.ok ⟨some 0, stdout, stderr⟩) (.ok c)
  | spoilt {stdout stderr detail : String}
    (hp : s.parseOutput stdout = .error (.badCommandOutput detail)) :
    Yields s i (.ok ⟨some 0, stdout, stderr⟩) (.error (.badCommandOutput detail))
  | exited {code : Option Int} {stdout stderr : String} (hc : code ≠ some 0) :
    Yields s i (.ok ⟨code, stdout, stderr⟩) (.error (.commandFailed i.program code stderr false))
  | missing : Yields s i (.error .notFound)
    (.error (.commandFailed i.program none (LaunchError.notFoundText i.program s.installHint) false))
  | timedOut : Yields s i (.error .timedOut) (.error (.commandFailed i.program none "" true))
  | unlaunched (reason : String) :
    Yields s i (.error (.failed reason)) (.error (.commandFailed i.program none reason false))

/-- What a refresh runs, and what comes of it. -/
inductive Refreshes [Library] (s : CredentialSource) (runner : Invocation → CommandOutcome) :
    List Invocation → Outcome → Prop where
  | idle {detail : String} (h : s.invocation = .error (.badAuthentication detail)) :
    Refreshes s runner [] (.error (.badAuthentication detail))
  | ran {i : Invocation} {o : Outcome} (h : s.invocation = .ok i) (hy : s.Yields i (runner i) o) :
    Refreshes s runner [i] o

/-- What a refresh comes to if commands end as a runner has it. -/
def outcome [Library] (s : CredentialSource) (runner : Invocation → CommandOutcome) : Outcome :=
  s.fetch (m := Id) runner fun _ => ()

def Gives [Library] (s : CredentialSource) (o : Outcome) : Prop := ∃ runner, s.outcome runner = o

/-- A runner that keeps a record of what it runs. -/
def recording (runner : Invocation → CommandOutcome) (i : Invocation) :
    StateM (List Invocation) CommandOutcome := do
  modify (· ++ [i])
  return runner i

variable {s : CredentialSource} {i : Invocation} {runner : Invocation → CommandOutcome}
  {r : CommandOutcome} {o : Outcome} {e : Error} {c : Credential} {ran : List Invocation}

theorem blamesOutput_parseOutput [Library] (s : CredentialSource) (stdout : String) :
    BlamesOutput (s.parseOutput stdout) := by
  cases s with
  | provider p => exact p.blamesOutput_parseOutput stdout
  | plugin p => exact p.blamesOutput_parseOutput stdout

theorem invocation_error (h : s.invocation = .error e) :
    ∃ p, s = .provider p ∧ p.command = none ∧ ∃ detail, e = .badAuthentication detail := by
  cases s with
  | plugin p => cases h
  | provider p =>
    simp only [invocation, Provider.invocation] at h
    cases hc : p.command with
    | some program => simp [hc] at h
    | none =>
      simp only [hc] at h
      cases h
      exact ⟨p, rfl, hc, _, rfl⟩

variable [Library]

theorem yields_conclude (s : CredentialSource) (i : Invocation) (o : CommandOutcome) :
    s.Yields i o (s.conclude i o) := by
  rcases o with e | ⟨code, stdout, stderr⟩
  · cases e with
    | notFound => exact .missing
    | timedOut => exact .timedOut
    | failed reason => exact .unlaunched reason
  · by_cases hc : code = some 0
    · subst hc
      rw [conclude, CommandResult.succeeded, if_pos (beq_self_eq_true _)]
      cases hp : s.parseOutput stdout with
      | ok c => exact .made hp
      | error e =>
        obtain ⟨detail, rfl⟩ := s.blamesOutput_parseOutput stdout e hp
        exact .spoilt hp
    · rw [conclude, CommandResult.succeeded, if_neg (by simpa using hc)]
      exact .exited hc

/-- But for what it logs, a refresh is a run of the command. -/
theorem fetch_silent {m : Type → Type} [Monad m] [LawfulMonad m] (h : s.invocation = .ok i)
    (run : Invocation → m CommandOutcome) :
    s.fetch run (fun _ => pure ()) = s.conclude i <$> run i := by
  rw [fetch, h]
  simp only [pure_bind, map_eq_pure_bind]
  refine bind_congr fun o => ?_
  -- how the run ended decides only whether there is one more entry to log
  cases o with
  | error e => rfl
  | ok r => exact ite_self _

theorem fetch_of_error {m : Type → Type} [Monad m] (h : s.invocation = .error e)
    (run : Invocation → m CommandOutcome) (log : LogEntry → m Unit) :
    s.fetch run log = pure (.error e) := by
  rw [fetch, h]

theorem outcome_of_invocation (h : s.invocation = .ok i) :
    s.outcome runner = s.conclude i (runner i) :=
  fetch_silent (m := Id) h runner

theorem outcome_of_error (h : s.invocation = .error e) : s.outcome runner = .error e :=
  fetch_of_error (m := Id) h runner _

/-- A refresh runs the command of its source once, if there is one, and otherwise nothing. -/
theorem run_fetch (s : CredentialSource) (runner : Invocation → CommandOutcome)
    (record : List Invocation) : ∃ ran, s.Refreshes runner ran (s.outcome runner) ∧
      (s.fetch (recording runner) fun _ => pure ()).run record =
        (s.outcome runner, record ++ ran) := by
  cases h : s.invocation with
  | error e =>
    obtain ⟨-, -, -, detail, rfl⟩ := invocation_error h
    rw [outcome_of_error h, fetch_of_error h]
    exact ⟨[], .idle h, congrArg _ (List.append_nil record).symm⟩
  | ok i =>
    rw [outcome_of_invocation h, fetch_silent h]
    exact ⟨[i], .ran h (s.yields_conclude i _), rfl⟩

theorem refreshes_outcome (s : CredentialSource) (runner : Invocation → CommandOutcome) :
    ∃ ran, s.Refreshes runner ran (s.outcome runner) :=
  (s.run_fetch runner []).imp fun _ h => h.1

theorem outcome_eq_ok_iff : s.outcome runner = .ok c ↔ ∃ i r, s.invocation = .ok i ∧
    runner i = .ok r ∧ r.exitCode = some 0 ∧ s.parseOutput r.stdout = .ok c := by
  constructor
  · intro h
    obtain ⟨ran, hr⟩ := s.refreshes_outcome runner
    rw [h] at hr
    cases hr with
    | ran hi hy =>
      generalize ho : runner _ = o at hy
      cases hy with
      | made hp => exact ⟨_, _, hi, ho, rfl, hp⟩
  · rintro ⟨i, r, hi, hr, hc, hp⟩
    rw [outcome_of_invocation hi, hr, conclude, CommandResult.succeeded,
      if_pos (beq_iff_eq.2 hc), hp]

theorem gives_ok_iff : s.Gives (.ok c) ↔
    (∃ i, s.invocation = .ok i) ∧ ∃ stdout, s.parseOutput stdout = .ok c := by
  constructor
  · rintro ⟨runner, h⟩
    obtain ⟨i, r, hi, -, -, hp⟩ := outcome_eq_ok_iff.1 h
    exact ⟨⟨i, hi⟩, r.stdout, hp⟩
  · rintro ⟨⟨i, hi⟩, stdout, hp⟩
    have hrun : s.outcome (fun _ => .ok ⟨some 0, stdout, ""⟩) = .ok c :=
      outcome_eq_ok_iff.2 ⟨i, _, hi, rfl, rfl, hp⟩
    exact ⟨_, hrun⟩

/-- A failure is said to be a timeout if it is one, and only then. -/
theorem outcome_timedOut_iff :
    (∃ command code stderr, s.outcome runner = .error (.commandFailed command code stderr true)) ↔
      ∃ i, s.invocation = .ok i ∧ runner i = .error .timedOut := by
  constructor
  · rintro ⟨command, code, stderr, h⟩
    obtain ⟨ran, hr⟩ := s.refreshes_outcome runner
    rw [h] at hr
    cases hr with
    | ran hi hy =>
      generalize ho : runner _ = o at hy
      cases hy with
      | timedOut => exact ⟨_, hi, ho⟩
  · rintro ⟨i, hi, hr⟩
    rw [outcome_of_invocation hi, hr]
    exact ⟨_, _, _, rfl⟩

end CredentialSource

end ClusterAccess
