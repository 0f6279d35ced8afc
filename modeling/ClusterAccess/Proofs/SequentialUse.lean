import ClusterAccess.Proofs.Cache.Memo
import ClusterAccess.Proofs.RefreshFailure
import ClusterAccess.Proofs.Work

namespace ClusterAccess

open Time

def Simulation.scriptOf (ends : List (Nat × CommandOutcome)) : List Simulation.ScriptedRun :=
  ends.map fun e => ⟨e.1, some e.2⟩

def Simulation.endOf (ends : List (Nat × CommandOutcome)) (n : Nat) : CommandOutcome :=
  (ends[n]?).elim (.error (.failed "script exhausted")) (·.2)

def CredentialSource.fetched [Library] (s : CredentialSource)
    (ends : List (Nat × CommandOutcome)) (n : Nat) : Outcome :=
  s.outcome fun _ => Simulation.endOf ends n

namespace Simulation

namespace World

/-- A world at rest whose one cache is as a memo is. -/
structure IsAs (s : CredentialSource) (ends : List (Nat × CommandOutcome)) (w : World) (m : Memo) :
    Prop where
  cache : ∃ c, w.caches = [c] ∧ c.IsAs m
  pending : w.pending = []
  begun : w.begun = m.fetches
  runs : ∀ i, s.invocation = .ok i → w.runs = List.replicate m.fetches i
  script : ∀ i, s.invocation = .ok i → w.script = scriptOf (ends.drop m.fetches)

variable {w : World} {c c' : Cache} {e : Cache.Event} {x : Waiter} {o : Outcome} {p : Pending}
  {s : CredentialSource} {ends : List (Nat × CommandOutcome)} {m : Memo} {now : Instant}
  {margin : Span} {n : Nat} {v : Credential}

section

variable (hw : w.caches = [c])

include hw

theorem happen_eq (hs : c.step e = some c') : w.happen 0 e = { w with caches := [c'] } := by
  simp only [happen, hw, List.getElem?_cons_zero, Option.bind_some, hs, List.set_cons_zero]

theorem happen_of_none (hs : c.step e = none) : w.happen 0 e = w := by
  simp only [happen, hw, List.getElem?_cons_zero, Option.bind_some, hs]

theorem started_eq : w.started 0 = c.refreshes.length := by
  rw [started, hw]
  rfl

theorem answer?_eq (hx : x.cache = 0) : w.answer? x = c.answer? x.caller := by
  rw [answer?, hx, hw]
  rfl

end

/-- A waiter that is answered in its turn, and starts no refresh. -/
theorem round_answered [Library] (ha : (w.turn x).answer? x = some o)
    (hn : (w.turn x).started x.cache = w.started x.cache) :
    w.round [x] = ((w.turn x).note (x.closing (some o)), []) := by
  simp only [round, turns, ha, hn, Nat.lt_irrefl, if_false, List.append_nil, List.foldl_nil]

/-- A waiter that starts a refresh in its turn. -/
theorem round_waiting [Library] (ha : (w.turn x).answer? x = none)
    (hn : w.started x.cache < (w.turn x).started x.cache) :
    w.round [x] = ((w.turn x).begin x.cache (w.started x.cache) x.work, [x]) := by
  simp only [round, turns, ha, if_pos hn, List.append_nil, List.foldl_cons, List.foldl_nil]

theorem await_nil [Library] (fuel : Nat) (w : World) : await fuel w [] = w := by
  cases fuel with
  | zero => rfl
  | succ fuel => rfl

theorem await_singleton [Library] (fuel : Nat) (hp : w.pending = [p]) (hx : x.deadline = none) :
    await (fuel + 1) w [x] = await fuel ((w.finish p).round [x]).1 ((w.finish p).round [x]).2 := by
  have hfirst : firstPending? w.pending = some p := by
    rw [hp]
    rfl
  have hlast : firstDeadline? [x] = none := by
    simp only [firstDeadline?, hx]
  simp only [await, List.isEmpty_cons, hfirst, hlast]
  rfl

structure Begins (s : CredentialSource) (o : Outcome) (n : Nat) (w w' : World) (p : Pending) :
    Prop where
  pending : w'.pending = w.pending ++ [p]
  cache : p.cache = 0
  refresh : p.refresh = n
  outcome : p.outcome = some o
  caches : w'.caches = w.caches
  begun : w'.begun = w.begun + 1
  runs : ∀ i, s.invocation = .ok i → w'.runs = w.runs ++ [i]
  script : ∀ i, s.invocation = .ok i → w'.script = w.script.tail

theorem finish_fetching {w₀ : World} (hb : Begins s o c.refreshes.length w₀ w p)
    (hp : w.pending = [p])
    (hw : w.caches = [c.fetching now margin .running m.cached (some c.refreshes.length)]) :
    w.finish p = ⟨max w.clock p.due, [c.fetching now margin (.announced o) (m.kept o) none], [],
      w.script, w.runs, w.begun, w.log ++ p.entries⟩ := by
  have herase : w.pending.eraseP (fun q => q.cache == p.cache && q.refresh == p.refresh) = [] := by
    simp only [hp, List.eraseP_cons, beq_self_eq_true, Bool.and_self, cond_true]
  have hended : (note (jump { w with pending := [] } p.due) p.entries).caches =
      [c.fetching now margin .running m.cached (some c.refreshes.length)] := hw
  rw [finish, herase, hb.outcome, hb.cache, hb.refresh]
  dsimp only
  rw [happen_eq hended (Cache.fetching_store m o), happen_eq rfl Cache.fetching_announce]
  rfl

theorem nextRun_scriptOf (ends : List (Nat × CommandOutcome)) (n : Nat) :
    (nextRun (scriptOf (ends.drop n))).outcome = some (endOf ends n) := by
  rw [nextRun, scriptOf, endOf, List.headD_eq_head?_getD, List.head?_map, List.head?_drop]
  cases ends[n]? <;> rfl

theorem tail_scriptOf (ends : List (Nat × CommandOutcome)) (n : Nat) :
    (scriptOf (ends.drop n)).tail = scriptOf (ends.drop (n + 1)) := by
  rw [scriptOf, scriptOf, ← List.map_tail, List.tail_drop]

theorem exists_begins [Library] (s : CredentialSource) (ends : List (Nat × CommandOutcome))
    (w : World) (k n : Nat) (hs : ∀ i, s.invocation = .ok i → w.script = scriptOf (ends.drop k)) :
    ∃ p, Begins s (s.fetched ends k) n w (w.begin 0 n (.source s)) p := by
  cases hi : s.invocation with
  | error e =>
    rw [begin_of_error hi, CredentialSource.fetched, CredentialSource.outcome_of_error hi]
    refine ⟨_, rfl, rfl, rfl, rfl, rfl, rfl, ?_, ?_⟩
    · intro i hi'
      cases hi.symm.trans hi'
    · intro i hi'
      cases hi.symm.trans hi'
  | ok i =>
    rw [begin_of_invocation hi, CredentialSource.fetched, CredentialSource.outcome_of_invocation hi]
    refine ⟨_, rfl, rfl, rfl, ?_, rfl, rfl, ?_, fun _ _ => rfl⟩
    · rw [Pending.ofRun, hs i hi, nextRun_scriptOf]
      rfl
    · intro j hj
      cases hi.symm.trans hj
      rfl

section

variable (hx : x.cache = 0) (hi : x.caller = c.callers.length)

include hx hi

theorem turn_fresh (hw : w.caches = [c.called now margin]) (hm : c.IsAs m)
    (hf : m.fresh? now margin = some v) : w.turn x = { w with caches :=
      [{ c with callers := c.callers ++ [⟨now, margin, none, .answered (.ok v)⟩] }] } := by
  have hwake : (c.called now margin).step (.wake c.callers.length) = none := by
    simp only [Cache.step, Cache.called, List.getElem?_concat_length]
  rw [turn, hx, hi, happen_of_none hw hwake, happen_eq hw (hm.look_fresh hf)]

theorem turn_stale (hw : w.caches = [c.called now margin]) (hm : c.IsAs m)
    (hs : m.fresh? now margin = none) : w.turn x = { w with caches :=
      [c.fetching now margin .running m.cached (some c.refreshes.length)] } := by
  have hwake : (c.called now margin).step (.wake c.callers.length) = none := by
    simp only [Cache.step, Cache.called, List.getElem?_concat_length]
  rw [turn, hx, hi, happen_of_none hw hwake, happen_eq hw (hm.look_stale hs)]

theorem turn_announced {cached : Option Credential}
    (hw : w.caches = [c.fetching now margin (.announced o) cached none]) :
    w.turn x = { w with caches := [c.fetched now margin o cached] } := by
  have hlook : (c.fetched now margin o cached).step (.look c.callers.length) = none := by
    simp only [Cache.step, Cache.fetched, List.getElem?_concat_length]
  rw [turn, hx, hi, happen_eq hw Cache.fetching_wake]
  exact happen_of_none rfl hlook

/-- A call that finds a fresh credential is over at once. -/
theorem wait_fresh [Library] (hw : w.caches = [c.called now margin]) (hm : c.IsAs m)
    (hf : m.fresh? now margin = some v) : w.wait [x] = note { w with caches :=
      [{ c with callers := c.callers ++ [⟨now, margin, none, .answered (.ok v)⟩] }] }
        (x.closing (some (.ok v))) := by
  have hturn := turn_fresh hx hi hw hm hf
  have hanswer : (w.turn x).answer? x = some (.ok v) := by
    rw [hturn, answer?_eq rfl hx, hi, Cache.answer?, List.getElem?_concat_length]
    rfl
  have hstarted : (w.turn x).started x.cache = w.started x.cache := by
    rw [hturn, hx, started_eq hw, started_eq rfl]
    rfl
  rw [wait, round_answered hanswer hstarted, hturn]
  exact await_nil _ _

theorem await_fetching [Library] {w₀ : World} (fuel : Nat) (hdeadline : x.deadline = none)
    (hb : Begins s o c.refreshes.length w₀ w p) (hp : w.pending = [p])
    (hw : w.caches = [c.fetching now margin .running m.cached (some c.refreshes.length)]) :
    await (fuel + 1) w [x] = ⟨max w.clock p.due, [c.fetched now margin o (m.kept o)], [], w.script,
      w.runs, w.begun, w.log ++ p.entries ++ x.closing (some o)⟩ := by
  have hfinish := finish_fetching hb hp hw
  have hturn := turn_announced hx hi (w := w.finish p) (by rw [hfinish])
  have hanswer : ((w.finish p).turn x).answer? x = some o := by
    rw [hturn, answer?_eq rfl hx, hi, Cache.answer?, Cache.fetched, List.getElem?_concat_length]
    rfl
  have hstarted : ((w.finish p).turn x).started x.cache = (w.finish p).started x.cache := by
    rw [hturn, hfinish, hx, started_eq rfl, started_eq rfl]
    simp only [Cache.fetched, Cache.fetching, List.length_append, List.length_singleton]
  rw [await_singleton fuel hp hdeadline, round_answered hanswer hstarted, await_nil, hturn, hfinish]
  rfl

theorem wait_stale [Library] (hwork : x.work = .source s) (hdeadline : x.deadline = none)
    (hw : w.caches = [c.called now margin]) (hpending : w.pending = [])
    (hscript : ∀ i, s.invocation = .ok i → w.script = scriptOf (ends.drop m.fetches))
    (hm : c.IsAs m) (hs : m.fresh? now margin = none) :
    (w.wait [x]).caches = [c.fetched now margin (s.fetched ends m.fetches)
      (m.kept (s.fetched ends m.fetches))] ∧ (w.wait [x]).pending = [] ∧
        (w.wait [x]).begun = w.begun + 1 ∧
          (∀ i, s.invocation = .ok i → (w.wait [x]).runs = w.runs ++ [i]) ∧
            ∀ i, s.invocation = .ok i → (w.wait [x]).script = w.script.tail := by
  have hturn := turn_stale hx hi hw hm hs
  have hnone : (w.turn x).answer? x = none := by
    rw [hturn, answer?_eq rfl hx, hi, Cache.answer?, Cache.fetching, List.getElem?_concat_length]
    rfl
  have hstarted : w.started x.cache = c.refreshes.length := by
    rw [hx, started_eq hw]
    rfl
  have hlt : w.started x.cache < (w.turn x).started x.cache := by
    rw [hstarted, hturn, hx, started_eq rfl, Cache.fetching, List.length_append]
    exact Nat.lt_succ_self _
  -- the refresh begins when the caller has had its turn
  obtain ⟨p, hb⟩ := exists_begins s ends (w.turn x) m.fetches c.refreshes.length
    (by rw [hturn]; exact hscript)
  have hround : w.round [x] = ((w.turn x).begin 0 c.refreshes.length (.source s), [x]) := by
    rw [round_waiting hnone hlt, hstarted, hx, hwork]
  generalize (w.turn x).begin 0 c.refreshes.length (.source s) = w' at hb hround
  rw [hturn] at hb
  have hpending' : w'.pending = [p] := by
    rw [hb.pending, hpending, List.nil_append]
  rw [wait, hround]
  dsimp only
  rw [await_fetching hx hi _ hdeadline hb hpending' hb.caches]
  exact ⟨rfl, rfl, hb.begun, hb.runs, hb.script⟩

end

theorem calls_one (hw : w.caches = [c]) (now : Instant) (margin : Span) :
    calls 0 now margin 1 w = ({ w with caches := [c.called now margin] }, [c.callers.length]) := by
  have hcall : c.step (.call now margin) = some (c.called now margin) := rfl
  simp only [calls, call, happen_eq hw hcall]
  rw [hw]
  rfl

theorem ask_one [Library] (hw : w.caches = [c]) (now : Instant) (margin : Span)
    (s : CredentialSource) {closing : Option Outcome → List LogEntry} {w' : World}
    (h : wait { w with caches := [c.called now margin] }
      [⟨0, c.callers.length, none, .source s, closing⟩] = w') :
    w.ask 0 1 now margin none (.source s) closing =
      (w', [w'.answer? ⟨0, c.callers.length, none, .source s, closing⟩]) := by
  subst h
  rw [World.ask, calls_one hw]
  rfl

/-- A world at rest answers as the memo does, and is as the memo is afterwards. -/
theorem IsAs.ask [Library] (h : IsAs s ends w m) (now : Instant) (margin : Span)
    (closing : Option Outcome → List LogEntry) :
    ∃ o, (w.ask 0 1 now margin none (.source s) closing).2 = [some o] ∧
      (∀ e, o = .error e → e.IsPlain) ∧
      (m.call (s.fetched ends) now margin).answers = m.answers ++ [o] ∧
        IsAs s ends (w.ask 0 1 now margin none (.source s) closing).1
          (m.call (s.fetched ends) now margin) := by
  obtain ⟨c, hw, hm⟩ := h.cache
  cases hf : m.fresh? now margin with
  | some v =>
    have hwait := wait_fresh (w := { w with caches := [c.called now margin] })
      (x := ⟨0, c.callers.length, none, .source s, closing⟩) rfl rfl rfl hm hf
    rw [ask_one hw now margin s hwait]
    refine ⟨.ok v, ?_, nofun, ?_, ?_⟩
    · rw [answer?_eq rfl rfl, Cache.answer?, List.getElem?_concat_length]
      rfl
    · rw [Memo.call_of_fresh hf]
    · have hhit := hm.hit (s.fetched ends) hf
      rw [Memo.call_of_fresh hf] at hhit ⊢
      exact ⟨⟨_, rfl, hhit⟩, h.pending, h.begun, h.runs, h.script⟩
  | none =>
    obtain ⟨hcaches, hpending, hbegun, hruns, hscript⟩ :=
      wait_stale (w := { w with caches := [c.called now margin] })
        (x := ⟨0, c.callers.length, none, .source s, closing⟩) rfl rfl rfl rfl rfl h.pending
          h.script hm hf
    rw [ask_one hw now margin s rfl]
    refine ⟨s.fetched ends m.fetches, ?_, fun e => CredentialSource.isPlain_of_outcome, ?_, ?_⟩
    · rw [answer?_eq hcaches rfl, Cache.answer?, Cache.fetched, List.getElem?_concat_length]
      rfl
    · rw [Memo.call_of_stale hf]
    · have hmiss := hm.miss (s.fetched ends) hf
      rw [Memo.call_of_stale hf] at hmiss ⊢
      refine ⟨⟨_, hcaches, hmiss⟩, hpending, ?_, ?_, ?_⟩
      · rw [hbegun]
        exact congrArg (· + 1) h.begun
      · intro i hi
        rw [hruns i hi, List.replicate_succ']
        exact congrArg (· ++ [i]) (h.runs i hi)
      · intro i hi
        rw [hscript i hi, ← tail_scriptOf]
        exact congrArg List.tail (h.script i hi)

end World

def told : Outcome → Except Error Shown
  | .ok c => .ok (.credential (some c))
  | .error e => .error (.refreshFailed e)

namespace Session

/-- A connection is asked for its credential at some times, one after another. -/
def resolveEach [Library] (c : Connection) :
    List Instant → Session → Session × List (Except Error Shown)
  | [], s => (s, [])
  | now :: times, s =>
    let (s, answers) := s.ask c 1 (.resolve now)
    let (s, later) := resolveEach c times s
    (s, answers ++ later)

variable {s : Session} {o : Options} {r : Renewable} {ends : List (Nat × CommandOutcome)} {m : Memo}

theorem result_resolve (hr : o.strategy = .renewable r) (now : Instant) {out : Outcome}
    (hp : ∀ e, out = .error e → e.IsPlain) :
    (Purpose.resolve now).result o (some out) = told out := by
  rw [Purpose.result, Options.currentCredential_of_renewable hr]
  cases out with
  | ok c => rfl
  | error e =>
    rw [told, ← (hp e rfl).asRefreshFailure_eq]
    rfl

theorem ask_resolve [Library] (hr : o.strategy = .renewable r) (s : Session) (now : Instant) :
    s.ask ⟨o, some 0⟩ 1 (.resolve now) =
      let asked := s.world.ask 0 1 now r.margin none (.source r.source)
        ((Purpose.resolve now).closing o)
      ({ s with world := asked.1 }, asked.2.map ((Purpose.resolve now).result o ·)) := by
  rw [Session.ask]
  dsimp only
  rw [hr]
  rfl

/-- From a world at rest on, a connection is told what the memo answers. -/
theorem resolveEach_isAs [Library] (hr : o.strategy = .renewable r) (times : List Instant)
    (h : World.IsAs r.source ends s.world m) :
    ∃ answers, (resolveEach ⟨o, some 0⟩ times s).2 = answers.map told ∧
      (times.foldl (fun m now => m.call (r.source.fetched ends) now r.margin) m).answers =
        m.answers ++ answers ∧
      World.IsAs r.source ends (resolveEach ⟨o, some 0⟩ times s).1.world
        (times.foldl (fun m now => m.call (r.source.fetched ends) now r.margin) m) := by
  induction times generalizing s m with
  | nil => exact ⟨[], rfl, (List.append_nil _).symm, h⟩
  | cons now times ih =>
    obtain ⟨out, hout, hplain, hanswers, hafter⟩ :=
      h.ask now r.margin ((Purpose.resolve now).closing o)
    have hask := ask_resolve hr s now
    dsimp only at hask
    generalize s.world.ask 0 1 now r.margin none (.source r.source)
      ((Purpose.resolve now).closing o) = asked at hask hout hafter
    rw [hout, List.map_singleton, result_resolve hr now hplain] at hask
    obtain ⟨later, hlater, hend, hworld⟩ := ih (s := { s with world := asked.1 }) hafter
    refine ⟨out :: later, ?_, ?_, ?_⟩
    · rw [resolveEach, hask]
      exact congrArg (told out :: ·) hlater
    · rw [List.foldl_cons, hend, hanswers, List.append_assoc]
      rfl
    · rw [resolveEach, hask]
      exact hworld

end Session

theorem isAs_add [Library] (o : Options) (r : Renewable) (ends : List (Nat × CommandOutcome))
    (today : Instant) : World.IsAs r.source ends
      ((Session.ofScript (scriptOf ends) today).add { o with strategy := .renewable r }).world
        (Memo.ofInitial r.cached) where
  cache := ⟨.ofInitial r.cached, rfl, Cache.isAs_ofInitial (r.source.fetched ends) r.cached⟩
  pending := rfl
  begun := rfl
  runs _ _ := rfl
  script _ _ := rfl

end Simulation

open Cache Simulation

/-- How renewable credentials act when they are asked for one at a time. -/
structure Renewable.ActsAsMemo [Library] (r : Renewable) : Prop where
  run : ∀ outcomes es c, Course outcomes r.cached es c → c.IsSettled →
    c.IsAs (Memo.calls outcomes r.cached (clocks es))
  served : ∀ outcomes times, ∃ es c, Course outcomes r.cached es c ∧ clocks es = times ∧ c.IsSettled
  wraps : ∀ ends n, (Strategy.renewable r).resolve (r.source.fetched ends n) =
    ((r.source.fetched ends n).map some).mapError Error.refreshFailed
  session : ∀ (o : Options) (ends : List (Nat × CommandOutcome)) (today : Time.Instant)
    (times : List Time.Instant),
    let options := { o with strategy := .renewable r }
    let asked := Session.resolveEach ⟨options, some 0⟩ times
      ((Session.ofScript (scriptOf ends) today).add options)
    let memo := Memo.calls (r.source.fetched ends) r.cached (times.map fun now => (now, r.margin))
    asked.2 = memo.answers.map told ∧ asked.1.world.begun = memo.fetches ∧
      asked.1.world.cached? 0 = memo.cached ∧
        ∀ i, r.source.invocation = .ok i → asked.1.world.runs = List.replicate memo.fetches i

theorem Renewable.actsAsMemo [Library] (r : Renewable) : r.ActsAsMemo := by
  constructor
  case run =>
    intro outcomes es c h hset
    exact h.isAs hset
  case served =>
    intro outcomes times
    obtain ⟨es, c, h, hclocks, hm⟩ := exists_course outcomes r.cached times
    exact ⟨es, c, h, hclocks, hm.isSettled⟩
  case wraps =>
    intro ends n
    cases h : r.source.fetched ends n with
    | ok c => rfl
    | error e =>
      have hplain := CredentialSource.isPlain_of_outcome h
      exact congrArg Except.error hplain.asRefreshFailure_eq
  case session =>
    intro o ends today times options asked memo
    obtain ⟨answers, htold, hanswers, hend⟩ :=
      Session.resolveEach_isAs (o := options) rfl times (isAs_add o r ends today)
    have hmemo : times.foldl (fun m now => m.call (r.source.fetched ends) now r.margin)
        (Memo.ofInitial r.cached) = memo := (Memo.calls_map times r.margin).symm
    rw [hmemo] at hanswers hend
    obtain ⟨c, hc, hm⟩ := hend.cache
    have hcached : asked.1.world.cached? 0 = memo.cached := by
      rw [World.cached?, hc]
      exact hm.cached
    refine ⟨?_, hend.begun, hcached, hend.runs⟩
    rw [hanswers]
    exact htold

end ClusterAccess
