import ClusterAccess.Proofs.Session

namespace ClusterAccess

def Error.IsPlain (e : Error) : Prop := ∀ cause, e ≠ .refreshFailed cause

/-- A failure to refresh whose cause is none. -/
def Error.WrapsOnce (e : Error) : Prop := ∃ cause, e = .refreshFailed cause ∧ cause.IsPlain

namespace Error

variable {e : Error}

theorem IsPlain.asRefreshFailure_eq (h : e.IsPlain) : e.asRefreshFailure = .refreshFailed e := by
  cases e with
  | refreshFailed cause => exact absurd rfl (h cause)
  | _ => rfl

theorem IsPlain.asRefreshFailure (h : e.IsPlain) : e.asRefreshFailure.WrapsOnce :=
  ⟨e, h.asRefreshFailure_eq, h⟩

theorem WrapsOnce.asRefreshFailure (h : e.WrapsOnce) : e.asRefreshFailure.WrapsOnce := by
  obtain ⟨cause, rfl, hc⟩ := h
  exact ⟨cause, rfl, hc⟩

end Error

namespace CredentialSource

variable {s : CredentialSource} {runner : Invocation → CommandOutcome} {e : Error}

theorem isPlain_of_outcome [Library] (h : s.outcome runner = .error e) : e.IsPlain := by
  obtain ⟨ran, hr⟩ := s.refreshes_outcome runner
  rw [h] at hr
  cases hr with
  | idle => exact nofun
  | ran hi hy =>
    generalize runner _ = o at hy
    cases hy <;> exact nofun

end CredentialSource

/-- What a caller of a cache is told of a failure is one to refresh, or the cause of one. -/
theorem Cache.Fed.asRefreshFailure [Library] {c : Cache} {i : Nat} {e : Error}
    (h : c.Fed Simulation.Session.Genuine) (ha : c.answer? i = some (.error e)) :
    e.asRefreshFailure.WrapsOnce := by
  obtain ⟨initial, es, hr, hf⟩ := h
  rcases answer_origin hr ha with ⟨v, -, hv⟩ | ⟨k, hk⟩ | hl
  · cases hv
  · obtain ⟨s, runner, ho⟩ := hf k _ hk
    exact (CredentialSource.isPlain_of_outcome ho).asRefreshFailure
  · cases hl
    exact Error.WrapsOnce.asRefreshFailure ⟨_, rfl, nofun⟩

namespace Options

theorem waitError_wrapsOnce (o : Options) : o.waitError.WrapsOnce :=
  ⟨_, rfl, fun _ h => by cases h⟩

variable {o : Options} {answer : Option Outcome} {e : Error}

theorem wrapsOnce_of_currentCredential
    (ha : ∀ cause, answer = some (.error cause) → cause.asRefreshFailure.WrapsOnce)
    (he : o.currentCredential answer = .error e) : e.WrapsOnce := by
  cases hf : o.strategy.fixedCredential? with
  | some credential => cases (currentCredential_of_fixed hf answer).symm.trans he
  | none =>
    cases answer with
    | none =>
      simp only [currentCredential, hf, Option.elim_none, Except.error.injEq] at he
      rw [← he]
      exact o.waitError_wrapsOnce
    | some outcome =>
      simp only [currentCredential, Strategy.resolve, hf] at he
      cases outcome with
      | ok c => cases he
      | error cause =>
        cases he
        exact ha cause rfl

end Options

namespace Simulation

variable {p : Purpose} {o : Options} {answer : Option Outcome} {e : Error}

/-- Whatever the current credential is wanted for, it fails as the credential does. -/
theorem Purpose.currentCredential_of_result (h : p.result o answer = .error e) :
    o.currentCredential answer = .error e := by
  cases p with
  | resolve | current | apply => exact Except.map_eq_error_iff.1 h
  | request | handshake | authenticate =>
    have ha := Except.map_eq_error_iff.1 h
    rw [Options.attached_eq] at ha
    exact Except.map_eq_error_iff.1 ha

theorem Session.Reachable.wrapsOnce [Library] {s : Session} (h : Reachable s) {c : Connection}
    {callers : Nat} (he : .error e ∈ (s.ask c callers p).2) : e.WrapsOnce := by
  obtain ⟨answer, hr, ha⟩ := (fed_ask h.fed c callers p).2 _ he
  refine Options.wrapsOnce_of_currentCredential (fun cause hc => ?_)
    (Purpose.currentCredential_of_result hr.symm)
  obtain ⟨d, hd, i, hi⟩ := ha _ hc
  exact hd.asRefreshFailure hi

end Simulation

namespace CredentialSource

open Cache Simulation

structure Faithful [Library] (s : CredentialSource) : Prop where
  runs : ∀ runner record, ∃ ran, s.Refreshes runner ran (s.outcome runner) ∧
    (s.fetch (recording runner) fun _ => pure ()).run record = (s.outcome runner, record ++ ran)
  made : ∀ runner c, s.outcome runner = .ok c ↔ ∃ i r, s.invocation = .ok i ∧ runner i = .ok r ∧
    r.exitCode = some 0 ∧ s.parseOutput r.stdout = .ok c
  timedOut : ∀ runner, (∃ command code stderr,
    s.outcome runner = .error (.commandFailed command code stderr true)) ↔
      ∃ i, s.invocation = .ok i ∧ runner i = .error .timedOut
  idle : ∀ p, s = .provider p → p.command = none → ∃ detail, ∀ (m : Type → Type) [Monad m]
    (run : Invocation → m CommandOutcome) (log : LogEntry → m Unit),
      s.fetch run log = pure (.error (.badAuthentication detail))
  answers : ∀ initial es c, (ofInitial initial).run es = some c → FedBy s.Gives es →
    ∀ i o, c.answer? i = some o →
      (∃ v, initial = some v ∧ o = .ok v) ∨ s.Gives o ∨ o = .error lostError
  passes : ∀ (options : Options) r, options.strategy = .renewable r →
    (∀ c, options.currentCredential (some (.ok c)) = .ok (some c)) ∧
      ∀ cause, cause.IsPlain →
        options.currentCredential (some (.error cause)) = .error (.refreshFailed cause)
  told : ∀ (options : Options) initial es c, (ofInitial initial).run es = some c →
    FedBy s.Gives es → ∀ i e,
      (options.currentCredential (c.answer? i) = .error e → e.WrapsOnce) ∧
        ∀ o, c.answer? i = some o → options.strategy.resolve o = .error e → e.WrapsOnce
  asked : ∀ session, Session.Reachable session → ∀ connection callers purpose e,
    .error e ∈ (session.ask connection callers purpose).2 → e.WrapsOnce

/-- No failed command makes a credential, and all who wait are told of it in one form. -/
theorem refresh_faithful [Library] (s : CredentialSource) : s.Faithful where
  runs := s.run_fetch
  made _ _ := outcome_eq_ok_iff
  timedOut _ := outcome_timedOut_iff
  idle p hs hc := by
    subst hs
    have hi : (provider p).invocation = .error (.badAuthentication
        ("the access token for auth provider '" ++ p.name ++
          "' expired and no cmd-path is configured")) := by
      simp only [invocation, Provider.invocation, hc]
    exact ⟨_, fun m _ => fetch_of_error hi⟩
  answers initial es c h hf i o ha :=
    (answer_origin h ha).imp_right (.imp_left fun ⟨k, hk⟩ => hf k o hk)
  passes options r hr := by
    refine ⟨fun c => ?_, fun cause hc => ?_⟩
    · rw [Options.currentCredential_of_renewable hr]
      rfl
    · rw [Options.currentCredential_of_renewable hr, ← hc.asRefreshFailure_eq]
      rfl
  told options initial es c h hf i e := by
    have hc : c.Fed Session.Genuine := ⟨initial, es, h, fun k o hk => ⟨s, hf k o hk⟩⟩
    have ht : options.currentCredential (c.answer? i) = .error e → e.WrapsOnce :=
      Options.wrapsOnce_of_currentCredential fun cause ha => hc.asRefreshFailure ha
    refine ⟨ht, fun o ha he => ht ?_⟩
    rw [ha]
    exact he
  asked session h connection callers purpose e := h.wrapsOnce

/-- One who waits for the refresh of another is told of its failure as if it were its own. -/
example (r : Renewable) (now : Time.Instant) (margin : Time.Span) (detail : String) :
    (((ofInitial none).run [.call now margin, .call now margin, .look 0, .look 1,
      .store 0 (.error (.badCommandOutput detail)), .announce 0, .wake 1]).bind
        fun c => (c.answer? 1).map (Strategy.renewable r).resolve) =
      some (.error (.refreshFailed (.badCommandOutput detail))) := rfl

end CredentialSource

end ClusterAccess
