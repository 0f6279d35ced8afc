import ClusterAccess.Simulation.World

namespace ClusterAccess

def CredentialSource.failureEntries (s : CredentialSource) (i : Invocation) :
    CommandOutcome → List LogEntry
  | .error _ => []
  | .ok r => if r.succeeded then [] else [s.failureEntry i r.exitCode]

namespace Simulation

/-- A refresh whose command is in a run of the script from some time on. -/
def Pending.ofRun [Library] (s : CredentialSource) (i : Invocation) (k n clock : Nat)
    (r : ScriptedRun) : Pending where
  cache := k
  refresh := n
  due := clock + r.delay
  entries := r.outcome.elim [] (s.failureEntries i) ++
    ((r.outcome.map (s.conclude i)).map s.endEntry).toList
  outcome := r.outcome.map (s.conclude i)

namespace World

/-- The run that a script has next; one that is over has failures to launch. -/
def nextRun (script : List ScriptedRun) : ScriptedRun :=
  script.headD ⟨0, some (.error (.failed "script exhausted"))⟩

variable {s : CredentialSource}

variable [Library]

theorem Job.run_fetch {i : Invocation} (h : s.invocation = .ok i) (w : World) :
    (s.fetch Job.run Job.log).run.run ⟨w, none, []⟩ =
      ((nextRun w.script).outcome.map (s.conclude i),
        { world :=
            { w with
              log := w.log ++ [s.startEntry i]
              script := w.script.tail
              runs := w.runs ++ [i] }
          delay := some (nextRun w.script).delay
          entries := (nextRun w.script).outcome.elim [] (s.failureEntries i) }) := by
  simp only [CredentialSource.fetch, h]
  obtain ⟨clock, caches, pending, script, runs, begun, log⟩ := w
  cases script with
  | nil => rfl
  | cons run rest =>
    obtain ⟨delay, outcome⟩ := run
    cases outcome with
    | none => rfl
    | some o =>
      cases o with
      | error e => rfl
      | ok r =>
        change OptionT.run (if r.succeeded = true then pure (s.conclude i (.ok r))
          else Job.log (s.failureEntry i r.exitCode) >>= fun _ => pure (s.conclude i (.ok r))) _ = _
        simp only [nextRun, List.headD_cons, Option.elim_some, CredentialSource.failureEntries]
        split <;> rfl

theorem begin_of_error {e : Error} (h : s.invocation = .error e) (w : World) (k n : Nat) :
    w.begin k n (.source s) =
      { w with
        begun := w.begun + 1
        log := w.log ++ [s.beginEntry]
        pending := w.pending ++ [⟨k, n, w.clock, [s.endEntry (.error e)], some (.error e)⟩] } := by
  simp only [begin, CredentialSource.fetch, h]
  rfl

theorem begin_of_invocation {i : Invocation} (h : s.invocation = .ok i) (w : World) (k n : Nat) :
    w.begin k n (.source s) =
      { w with
        begun := w.begun + 1
        log := w.log ++ [s.beginEntry] ++ [s.startEntry i]
        script := w.script.tail
        runs := w.runs ++ [i]
        pending := w.pending ++ [.ofRun s i k n w.clock (nextRun w.script)] } := by
  simp only [begin, Job.run_fetch h]
  rfl

end World

end Simulation

end ClusterAccess
