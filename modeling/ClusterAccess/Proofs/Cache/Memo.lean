import ClusterAccess.Proofs.Cache.Answers

namespace ClusterAccess

open Time

/-- A credential kept from call to call, the answers so far and the number of fetches. -/
structure Memo where
  cached : Option Credential
  answers : List Outcome
  fetches : Nat

namespace Memo

def ofInitial (initial : Option Credential) : Memo := ⟨initial, [], 0⟩

def fresh? (m : Memo) (now : Instant) (margin : Span) : Option Credential :=
  m.cached.filter fun v => !v.needsRefresh now margin

/-- What is kept after a fetch: its credential, or what was kept before it failed. -/
def kept (m : Memo) : Outcome → Option Credential
  | .ok v => some v
  | .error _ => m.cached

/-- The fetch after `n` others comes to `outcomes n`. -/
def call (outcomes : Nat → Outcome) (m : Memo) (now : Instant) (margin : Span) : Memo :=
  match m.fresh? now margin with
  | some v => { m with answers := m.answers ++ [.ok v] }
  | none =>
    let o := outcomes m.fetches
    ⟨m.kept o, m.answers ++ [o], m.fetches + 1⟩

def calls (outcomes : Nat → Outcome) (initial : Option Credential)
    (times : List (Instant × Span)) : Memo :=
  times.foldl (fun m time => m.call outcomes time.1 time.2) (ofInitial initial)

variable {outcomes : Nat → Outcome} {initial : Option Credential} {m : Memo} {now : Instant}
  {margin : Span} {v : Credential}

theorem calls_concat (times : List (Instant × Span)) (now : Instant) (margin : Span) :
    calls outcomes initial (times ++ [(now, margin)]) =
      (calls outcomes initial times).call outcomes now margin := by
  rw [calls, List.foldl_append]
  rfl

theorem calls_map (times : List Instant) (margin : Span) :
    calls outcomes initial (times.map fun now => (now, margin)) =
      times.foldl (fun m now => m.call outcomes now margin) (ofInitial initial) := by
  rw [calls, List.foldl_map]

theorem call_of_fresh (h : m.fresh? now margin = some v) :
    m.call outcomes now margin = { m with answers := m.answers ++ [.ok v] } := by
  rw [call, h]

theorem call_of_stale (h : m.fresh? now margin = none) :
    m.call outcomes now margin = ⟨m.kept (outcomes m.fetches),
      m.answers ++ [outcomes m.fetches], m.fetches + 1⟩ := by
  rw [call, h]

end Memo

namespace Cache

def IsSettled (c : Cache) : Prop := ∀ x ∈ c.callers, ∃ o, x.standing = .answered o

/-- A call comes when those before it are answered; no refresh is lost, and no caller leaves. -/
inductive InTurn (outcomes : Nat → Outcome) (c : Cache) : Event → Prop where
  | call (now : Instant) (margin : Span) (h : c.IsSettled) : InTurn outcomes c (.call now margin)
  | look (i : Nat) : InTurn outcomes c (.look i)
  | store (k : Nat) : InTurn outcomes c (.store k (outcomes k))
  | announce (k : Nat) : InTurn outcomes c (.announce k)
  | wake (i : Nat) : InTurn outcomes c (.wake i)

def OneByOne (outcomes : Nat → Outcome) (c : Cache) (es : List Event) : Prop :=
  ∀ e d, Happened c es e d → d.InTurn outcomes e

/-- A cache at rest that is as a memo is. -/
structure IsAs (c : Cache) (m : Memo) : Prop where
  cached : c.cached = m.cached
  idle : c.inFlight = none
  ended : ∀ r ∈ c.refreshes, ∃ o, r = .announced o
  fetches : c.refreshes.length = m.fetches
  answers : c.callers.map (·.standing) = m.answers.map .answered

/-- A refresh that a memo has to wait for. -/
inductive Underway (m : Memo) (o : Outcome) : Refresh → Option Credential → Option Nat → Prop where
  | running : Underway m o .running m.cached (some m.fetches)
  | stored : Underway m o (.stored o) (m.kept o) none
  | announced : Underway m o (.announced o) (m.kept o) none

def called (c : Cache) (now : Instant) (margin : Span) : Cache :=
  { c with callers := c.callers ++ [⟨now, margin, none, .ready⟩] }

def fetching (c : Cache) (now : Instant) (margin : Span) (r : Refresh) (cached : Option Credential)
    (inFlight : Option Nat) : Cache where
  cached := cached
  inFlight := inFlight
  refreshes := c.refreshes ++ [r]
  callers :=
    c.callers ++ [⟨now, margin, some c.refreshes.length, .waiting c.refreshes.length⟩]

def fetched (c : Cache) (now : Instant) (margin : Span) (o : Outcome)
    (cached : Option Credential) : Cache where
  cached := cached
  inFlight := none
  refreshes := c.refreshes ++ [.announced o]
  callers := c.callers ++ [⟨now, margin, some c.refreshes.length, .answered o⟩]

/-- All are answered, or the last is about to look at the cache or waits for its refresh. -/
inductive Stage (outcomes : Nat → Outcome) (initial : Option Credential) :
    List (Instant × Span) → Cache → Prop where
  | settled {times : List (Instant × Span)} {c : Cache}
    (h : c.IsAs (Memo.calls outcomes initial times)) : Stage outcomes initial times c
  | ready {times : List (Instant × Span)} {c : Cache}
    (h : c.IsAs (Memo.calls outcomes initial times)) (now : Instant) (margin : Span) :
    Stage outcomes initial (times ++ [(now, margin)]) (c.called now margin)
  | waiting {times : List (Instant × Span)} {c : Cache} {m : Memo} {now : Instant} {margin : Span}
    {r : Refresh} {cached : Option Credential} {inFlight : Option Nat}
    (hm : m = Memo.calls outcomes initial times) (h : c.IsAs m)
    (hs : m.fresh? now margin = none) (hu : Underway m (outcomes m.fetches) r cached inFlight) :
    Stage outcomes initial (times ++ [(now, margin)]) (c.fetching now margin r cached inFlight)

variable {outcomes : Nat → Outcome} {initial : Option Credential} {m : Memo} {c c' d : Cache}
  {e : Event} {es : List Event} {i k : Nat} {x y : Caller} {r r' : Refresh}
  {times : List (Instant × Span)} {now : Instant} {margin : Span} {v : Credential} {o : Outcome}
  {cached : Option Credential} {inFlight : Option Nat}

theorem getElem?_concat {α : Type} {l : List α} {a b : α} (h : (l ++ [a])[i]? = some b) :
    l[i]? = some b ∨ (i = l.length ∧ a = b) := by
  rw [List.getElem?_append] at h
  split at h
  case isTrue => exact .inl h
  case isFalse hi =>
    right
    obtain ⟨hlt, hab⟩ := List.getElem?_eq_some_iff.1 h
    rw [List.length_singleton] at hlt
    simp only [List.getElem_singleton] at hab
    exact ⟨by omega, hab⟩

theorem IsSettled.last (h : d.IsSettled) (hd : d.callers = c.callers ++ [y]) :
    ∃ o, y.standing = .answered o := by
  apply h
  rw [hd]
  exact List.mem_append_right _ (List.mem_singleton_self _)

theorem set_concat {α : Type} (l : List α) (a b : α) : (l ++ [a]).set l.length b = l ++ [b] := by
  rw [List.set_append_right _ _ (Nat.le_refl _), Nat.sub_self]
  rfl

theorem Step.of_announce (h : Step c (.announce k) c') :
    ∃ o, c.refreshes[k]? = some (.stored o) := by
  cases h with
  | turn _ ht => cases ht
  | announce hk => exact ⟨_, hk⟩

theorem Step.of_wake (h : Step c (.wake i) c') : ∃ x j, c.callers[i]? = some x ∧
    x.standing = .waiting j ∧
      ((∃ o, c.refreshes[j]? = some (.announced o)) ∨ c.refreshes[j]? = some .lost) := by
  cases h with
  | turn hx ht => cases ht with
    | wake hw hk => exact ⟨_, _, hx, hw, .inl ⟨_, hk⟩⟩
    | retry hw hk => exact ⟨_, _, hx, hw, .inr hk⟩

theorem fetching_store (m : Memo) (o : Outcome) :
    (c.fetching now margin .running m.cached inFlight).step (.store c.refreshes.length o) =
      some (c.fetching now margin (.stored o) (m.kept o) none) := by
  simp only [step, fetching, List.getElem?_concat_length, store, setRefresh, set_concat]
  cases o <;> rfl

theorem fetching_announce :
    (c.fetching now margin (.stored o) cached inFlight).step (.announce c.refreshes.length) =
      some (c.fetching now margin (.announced o) cached inFlight) := by
  simp only [step, fetching, List.getElem?_concat_length, setRefresh, set_concat]

theorem fetching_wake :
    (c.fetching now margin (.announced o) cached none).step (.wake c.callers.length) =
      some (c.fetched now margin o cached) := by
  simp only [step, fetching, fetched, List.getElem?_concat_length, setCaller, set_concat]

namespace IsAs

variable (h : c.IsAs m)

include h

theorem standing (hx : c.callers[i]? = some x) : ∃ o, x.standing = .answered o := by
  have hs : (c.callers.map (·.standing))[i]? = some x.standing := by
    rw [List.getElem?_map, hx]
    rfl
  rw [h.answers, List.getElem?_map] at hs
  obtain ⟨o, -, ho⟩ := Option.map_eq_some_iff.1 hs
  exact ⟨o, ho.symm⟩

theorem isSettled : c.IsSettled := by
  intro x hx
  obtain ⟨i, hi⟩ := List.getElem?_of_mem hx
  exact h.standing hi

theorem last_caller (hx : (c.callers ++ [y])[i]? = some x) (hs : ∀ o, x.standing ≠ .answered o) :
    i = c.callers.length ∧ y = x := by
  rcases getElem?_concat hx with hx | hx
  · obtain ⟨o, ho⟩ := h.standing hx
    exact (hs o ho).elim
  · exact hx

theorem of_look (hd : d.callers = c.callers ++ [y]) (hs : Step d (.look i) c') :
    i = c.callers.length ∧ y.standing = .ready := by
  obtain ⟨x, hx, hr⟩ := hs.looker
  rw [hd] at hx
  obtain ⟨rfl, rfl⟩ := h.last_caller hx fun o ho => by cases hr.symm.trans ho
  exact ⟨rfl, hr⟩

theorem of_wake (hd : d.callers = c.callers ++ [y]) (hs : Step d (.wake i) c') :
    i = c.callers.length ∧ ∃ j, y.standing = .waiting j ∧
      ((∃ o, d.refreshes[j]? = some (.announced o)) ∨ d.refreshes[j]? = some .lost) := by
  obtain ⟨x, j, hx, hw, hj⟩ := hs.of_wake
  rw [hd] at hx
  obtain ⟨rfl, rfl⟩ := h.last_caller hx fun o ho => by cases hw.symm.trans ho
  exact ⟨rfl, j, hw, hj⟩

theorem last_refresh (hk : (c.refreshes ++ [r'])[k]? = some r) (hr : ∀ o, r ≠ .announced o) :
    k = c.refreshes.length ∧ r' = r := by
  rcases getElem?_concat hk with hk | hk
  · obtain ⟨o, ho⟩ := h.ended r (List.mem_of_getElem? hk)
    exact (hr o ho).elim
  · exact hk

theorem look_fresh (hf : m.fresh? now margin = some v) :
    (c.called now margin).step (.look c.callers.length) =
      some { c with callers := c.callers ++ [⟨now, margin, none, .answered (.ok v)⟩] } := by
  rw [Memo.fresh?, ← h.cached] at hf
  have hfresh : (c.called now margin).fresh? ⟨now, margin, none, .ready⟩ = some v := hf
  rw [called] at hfresh ⊢
  simp only [step, List.getElem?_concat_length, look, hfresh, setCaller, set_concat]

theorem look_stale (hs : m.fresh? now margin = none) :
    (c.called now margin).step (.look c.callers.length) =
      some (c.fetching now margin .running m.cached (some c.refreshes.length)) := by
  rw [Memo.fresh?, ← h.cached] at hs
  have hstale : (c.called now margin).fresh? ⟨now, margin, none, .ready⟩ = none := hs
  have hlive : (c.called now margin).live? = none := by
    rw [live?, called, h.idle]
    rfl
  rw [called] at hstale hlive ⊢
  simp only [step, List.getElem?_concat_length, look, hstale, hlive, start, setCaller, set_concat]
  rw [fetching, h.cached]

theorem not_end {l : List Caller} (hs : Step { c with callers := l } e c') :
    (∀ o, e ≠ .store k o) ∧ e ≠ .announce k := by
  constructor
  · rintro o rfl
    obtain ⟨hk, -⟩ := hs.of_store
    obtain ⟨o, ho⟩ := h.ended _ (List.mem_of_getElem? hk)
    cases ho
  · rintro rfl
    obtain ⟨o, hk⟩ := hs.of_announce
    obtain ⟨o', ho⟩ := h.ended _ (List.mem_of_getElem? hk)
    cases ho

/-- At rest nothing happens but calls. -/
theorem of_step (ho : c.InTurn outcomes e) (hs : Step c e c') :
    ∃ now margin, e = .call now margin := by
  cases ho with
  | call now margin => exact ⟨now, margin, rfl⟩
  | look i =>
    obtain ⟨x, hx, hr⟩ := hs.looker
    obtain ⟨o, ho⟩ := h.standing hx
    cases ho.symm.trans hr
  | store k => exact ((h.not_end hs).1 _ rfl).elim
  | announce k => exact ((h.not_end hs).2 rfl).elim
  | wake i =>
    obtain ⟨x, j, hx, hw, -⟩ := hs.of_wake
    obtain ⟨o, ho⟩ := h.standing hx
    cases ho.symm.trans hw

theorem of_step_called (ho : (c.called now margin).InTurn outcomes e)
    (hs : Step (c.called now margin) e c') : e = .look c.callers.length := by
  cases ho with
  | call now' margin' hset =>
    obtain ⟨o, ho⟩ := hset.last rfl
    cases ho
  | look i => rw [(h.of_look rfl hs).1]
  | store k => exact ((h.not_end hs).1 _ rfl).elim
  | announce k => exact ((h.not_end hs).2 rfl).elim
  | wake i =>
    obtain ⟨-, j, hw, -⟩ := h.of_wake rfl hs
    cases hw

theorem of_step_fetching (ho : (c.fetching now margin r cached inFlight).InTurn outcomes e)
    (hs : Step (c.fetching now margin r cached inFlight) e c') :
    (r = .running ∧ e = .store c.refreshes.length (outcomes c.refreshes.length)) ∨
      (∃ o, r = .stored o ∧ e = .announce c.refreshes.length) ∨
        (∃ o, r = .announced o ∧ e = .wake c.callers.length) ∨ r = .lost := by
  cases ho with
  | call now' margin' hset =>
    obtain ⟨o, ho⟩ := hset.last rfl
    cases ho
  | look i =>
    obtain ⟨-, hr⟩ := h.of_look rfl hs
    cases hr
  | store k =>
    obtain ⟨hk, -⟩ := hs.of_store
    obtain ⟨rfl, rfl⟩ := h.last_refresh hk fun o ho => by cases ho
    exact .inl ⟨rfl, rfl⟩
  | announce k =>
    obtain ⟨o, hk⟩ := hs.of_announce
    obtain ⟨rfl, rfl⟩ := h.last_refresh hk fun o ho => by cases ho
    exact .inr (.inl ⟨o, rfl, rfl⟩)
  | wake i =>
    obtain ⟨rfl, j, hw, hj⟩ := h.of_wake rfl hs
    have hlast : (c.refreshes ++ [r])[c.refreshes.length]? = some r := List.getElem?_concat_length
    cases hw
    rcases hj with ⟨o, hj⟩ | hj
    · cases hlast.symm.trans hj
      exact .inr (.inr (.inl ⟨o, rfl, rfl⟩))
    · cases hlast.symm.trans hj
      exact .inr (.inr (.inr rfl))

/-- A caller that finds a fresh credential leaves a cache as a memo is after its call. -/
theorem hit (outcomes : Nat → Outcome) (hf : m.fresh? now margin = some v) :
    ({ c with callers := c.callers ++ [⟨now, margin, none, .answered (.ok v)⟩] } : Cache).IsAs
      (m.call outcomes now margin) := by
  rw [Memo.call_of_fresh hf]
  constructor
  case cached => exact h.cached
  case idle => exact h.idle
  case ended => exact h.ended
  case fetches => exact h.fetches
  case answers =>
    rw [List.map_append, List.map_append, h.answers]
    rfl

theorem miss (outcomes : Nat → Outcome) (hs : m.fresh? now margin = none) :
    (c.fetched now margin (outcomes m.fetches) (m.kept (outcomes m.fetches))).IsAs
      (m.call outcomes now margin) := by
  rw [Memo.call_of_stale hs]
  constructor
  case cached => rfl
  case idle => rfl
  case ended =>
    intro r hr
    rcases List.mem_append.1 hr with hr | hr
    · exact h.ended r hr
    · exact ⟨_, List.mem_singleton.1 hr⟩
  case fetches =>
    rw [fetched, List.length_append, h.fetches]
    rfl
  case answers =>
    rw [fetched, List.map_append, List.map_append, h.answers]
    rfl

end IsAs

theorem Stage.concat_nil (h : Stage outcomes initial times c) :
    Stage outcomes initial (times ++ []) c := by
  rw [List.append_nil]
  exact h

theorem Stage.step (hc : Stage outcomes initial times c) (ho : c.InTurn outcomes e)
    (hs : Step c e c') : Stage outcomes initial (times ++ clocks [e]) c' := by
  cases hc with
  | settled h =>
    obtain ⟨now, margin, rfl⟩ := h.of_step ho hs
    cases hs with
    | call => exact .ready h now margin
    | turn _ ht => cases ht
  | @ready times d h now margin =>
    obtain rfl := h.of_step_called ho hs
    apply Stage.concat_nil
    cases hf : (Memo.calls outcomes initial times).fresh? now margin with
    | some v =>
      obtain rfl := Option.some.inj ((h.look_fresh hf).symm.trans hs.complete)
      apply Stage.settled
      rw [Memo.calls_concat]
      exact h.hit outcomes hf
    | none =>
      obtain rfl := Option.some.inj ((h.look_stale hf).symm.trans hs.complete)
      rw [h.fetches]
      exact .waiting rfl h hf .running
  | @waiting times d m now margin r cached inFlight hm h hf hu =>
    rcases h.of_step_fetching ho hs with ⟨rfl, rfl⟩ | ⟨o, rfl, rfl⟩ | ⟨o, rfl, rfl⟩ | rfl
    · cases hu
      obtain rfl := Option.some.inj ((fetching_store m _).symm.trans hs.complete)
      apply Stage.concat_nil
      rw [h.fetches]
      exact .waiting hm h hf .stored
    · cases hu
      obtain rfl := Option.some.inj (fetching_announce.symm.trans hs.complete)
      exact (Stage.waiting hm h hf .announced).concat_nil
    · cases hu
      obtain rfl := Option.some.inj (fetching_wake.symm.trans hs.complete)
      subst hm
      apply Stage.concat_nil
      apply Stage.settled
      rw [Memo.calls_concat]
      exact h.miss outcomes hf
    · cases hu

theorem Stage.isAs (hc : Stage outcomes initial times c) (hset : c.IsSettled) :
    c.IsAs (Memo.calls outcomes initial times) := by
  cases hc with
  | settled h => exact h
  | ready h now margin =>
    obtain ⟨o, ho⟩ := hset.last rfl
    cases ho
  | waiting hm h hs hu =>
    obtain ⟨o, ho⟩ := hset.last rfl
    cases ho

theorem isAs_ofInitial (outcomes : Nat → Outcome) (initial : Option Credential) :
    (ofInitial initial).IsAs (Memo.calls outcomes initial []) where
  cached := rfl
  idle := rfl
  ended := List.forall_mem_nil _
  fetches := rfl
  answers := rfl

theorem oneByOne_concat (hd : c.run es = some d) :
    OneByOne outcomes c (es ++ [e]) ↔ OneByOne outcomes c es ∧ d.InTurn outcomes e := by
  constructor
  · intro h
    constructor
    · intro e' d' h'
      exact h e' d' (happened_concat.2 (.inl h'))
    · exact h e d (happened_concat.2 (.inr ⟨rfl, hd⟩))
  · rintro ⟨h, he⟩ e' d' h'
    rcases happened_concat.1 h' with h' | ⟨rfl, hd'⟩
    · exact h e' d' h'
    · cases hd.symm.trans hd'
      exact he

/-- What has happened when callers come one by one, up to a point where all are answered or not. -/
theorem stage_of_run (h : (ofInitial initial).run es = some c)
    (ho : OneByOne outcomes (ofInitial initial) es) : Stage outcomes initial (clocks es) c := by
  revert ho
  refine run_induction (motive := fun es c => OneByOne outcomes (ofInitial initial) es →
    Stage outcomes initial (clocks es) c) h ?_ ?_
  · intro _
    exact .settled (isAs_ofInitial outcomes initial)
  · intro es d e c' hd ih hs ho
    obtain ⟨ho, he⟩ := (oneByOne_concat hd).1 ho
    rw [clocks_concat]
    exact (ih ho).step he hs

structure Course (outcomes : Nat → Outcome) (initial : Option Credential) (es : List Event)
    (c : Cache) : Prop where
  run : (ofInitial initial).run es = some c
  oneByOne : OneByOne outcomes (ofInitial initial) es

namespace Course

theorem nil (outcomes : Nat → Outcome) (initial : Option Credential) :
    Course outcomes initial [] (ofInitial initial) where
  run := rfl
  oneByOne _ _ h := (happened_nil h).elim

theorem concat (h : Course outcomes initial es c) (hs : c.step e = some c')
    (ho : c.InTurn outcomes e) : Course outcomes initial (es ++ [e]) c' where
  run := run_concat.2 ⟨c, h.run, step_sound hs⟩
  oneByOne := (oneByOne_concat h.run).2 ⟨h.oneByOne, ho⟩

theorem call (h : Course outcomes initial es c) (hm : c.IsAs m) (now : Instant) (margin : Span) :
    ∃ es' c', Course outcomes initial es' c' ∧ clocks es' = clocks es ++ [(now, margin)] ∧
      c'.IsAs (m.call outcomes now margin) := by
  have hcalled : Course outcomes initial (es ++ [.call now margin]) (c.called now margin) :=
    h.concat rfl (.call now margin hm.isSettled)
  cases hf : m.fresh? now margin with
  | some v =>
    refine ⟨_, _, hcalled.concat (hm.look_fresh hf) (.look _), ?_, hm.hit outcomes hf⟩
    simp only [List.append_assoc]
    exact List.filterMap_append
  | none =>
    have hlooked := hcalled.concat (hm.look_stale hf) (.look _)
    have hstored := hlooked.concat (fetching_store m _) (.store _)
    have hannounced := hstored.concat fetching_announce (.announce _)
    have hwoken := hannounced.concat fetching_wake (.wake _)
    rw [hm.fetches] at hwoken
    refine ⟨_, _, hwoken, ?_, hm.miss outcomes hf⟩
    simp only [List.append_assoc]
    exact List.filterMap_append

end Course

/-- Callers can come one by one at any times, whatever comes of the refreshes. -/
theorem exists_course (outcomes : Nat → Outcome) (initial : Option Credential)
    (times : List (Instant × Span)) : ∃ es c, Course outcomes initial es c ∧
      clocks es = times ∧ c.IsAs (Memo.calls outcomes initial times) := by
  induction times using List.reverseRecOn with
  | nil => exact ⟨[], _, .nil outcomes initial, rfl, isAs_ofInitial outcomes initial⟩
  | append_singleton times time ih =>
    obtain ⟨es, c, h, rfl, hm⟩ := ih
    obtain ⟨now, margin⟩ := time
    obtain ⟨es', c', h', hclocks, hm'⟩ := h.call hm now margin
    refine ⟨es', c', h', hclocks, ?_⟩
    rw [Memo.calls_concat]
    exact hm'

/-- When callers come one by one and all are answered, a cache is as the memo of their calls. -/
theorem Course.isAs (h : Course outcomes initial es c) (hset : c.IsSettled) :
    c.IsAs (Memo.calls outcomes initial (clocks es)) :=
  (stage_of_run h.run h.oneByOne).isAs hset

/-- A credential that is stale when it comes is an answer nonetheless. -/
example (e : Error) :
    let brief := Credential.bearer "t" (some ⟨0, 10, 0⟩)
    let outcomes := fun n => if n = 1 then .error e else .ok brief
    (Memo.calls outcomes none [(⟨0, 20, 0⟩, ⟨0⟩), (⟨0, 30, 0⟩, ⟨0⟩), (⟨0, 5, 0⟩, ⟨0⟩)]).answers =
      [.ok brief, .error e, .ok brief] := rfl

end Cache

end ClusterAccess
