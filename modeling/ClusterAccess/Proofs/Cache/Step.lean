import ClusterAccess.Cache

namespace ClusterAccess.Cache

open Time

/-- The cached credential is absent, or stale by a clock and margin. -/
def IsStale (c : Cache) (now : Instant) (margin : Span) : Prop :=
  ∀ v, c.cached = some v → v.needsRefresh now margin = true

/-- The cache is stale for the caller, no refresh is live, and the caller has started none. -/
structure Starts (c : Cache) (x : Caller) : Prop where
  stale : c.IsStale x.now x.margin
  idle : c.live? = none
  unused : x.started = none

def Event.caller? : Event → Option Nat
  | look i | wake i | leave i => some i
  | call .. | store .. | announce _ | lose _ => none

/-- The acts of a caller that change nothing but where it stands. -/
inductive Turn (c : Cache) (i : Nat) (x : Caller) : Event → Standing → Prop where
  | hit {v} (hr : x.standing = .ready) (hv : c.cached = some v)
    (hf : v.needsRefresh x.now x.margin = false) : Turn c i x (.look i) (.answered (.ok v))
  | join {k} (hr : x.standing = .ready) (hv : c.IsStale x.now x.margin) (hk : c.live? = some k) :
    Turn c i x (.look i) (.waiting k)
  | refuse {k} (hr : x.standing = .ready) (hv : c.IsStale x.now x.margin) (hk : c.live? = none)
    (hs : x.started = some k) : Turn c i x (.look i) (.answered (.error lostError))
  | wake {k o} (hw : x.standing = .waiting k) (hk : c.refreshes[k]? = some (.announced o)) :
    Turn c i x (.wake i) (.answered o)
  | retry {k} (hw : x.standing = .waiting k) (hk : c.refreshes[k]? = some .lost) :
    Turn c i x (.wake i) .ready
  | leave (hw : x.standing = .ready ∨ ∃ k, x.standing = .waiting k) : Turn c i x (.leave i) .gone

/-- The things that can happen to a cache, each with what has to hold before it. -/
inductive Step (c : Cache) : Event → Cache → Prop where
  | call (now : Instant) (margin : Span) :
    Step c (.call now margin) { c with callers := c.callers ++ [⟨now, margin, none, .ready⟩] }
  | turn {e i x s} (hx : c.callers[i]? = some x) (ht : Turn c i x e s) :
    Step c e (c.setCaller i { x with standing := s })
  | start {i x} (hx : c.callers[i]? = some x) (hr : x.standing = .ready) (hs : c.Starts x) :
    Step c (.look i) (c.start i x)
  | store {k o} (hk : c.refreshes[k]? = some .running) : Step c (.store k o) (c.store k o)
  | announce {k o} (hk : c.refreshes[k]? = some (.stored o)) :
    Step c (.announce k) (c.setRefresh k (.announced o))
  | lose {k} (hk : c.refreshes[k]? = some .running) : Step c (.lose k) (c.setRefresh k .lost)

inductive Advance (k : Nat) : Event → Refresh → Refresh → Prop where
  | same {e r} : Advance k e r r
  | store {o} : Advance k (.store k o) .running (.stored o)
  | announce {o} : Advance k (.announce k) (.stored o) (.announced o)
  | lose : Advance k (.lose k) .running .lost

inductive CallerStep (c : Cache) (i : Nat) : Event → Cache → Caller → Prop where
  | same {e c' x} (hx : c.callers[i]? = some x) (he : e.caller? ≠ some i) : CallerStep c i e c' x
  | turn {e x s} (hx : c.callers[i]? = some x) (ht : Turn c i x e s) :
    CallerStep c i e (c.setCaller i { x with standing := s }) { x with standing := s }
  | start {x} (hx : c.callers[i]? = some x) (hr : x.standing = .ready) (hs : c.Starts x) :
    CallerStep c i (.look i) (c.start i x)
      { x with started := some c.refreshes.length, standing := .waiting c.refreshes.length }
  | call {c'} (now : Instant) (margin : Span) (hi : i = c.callers.length) :
    CallerStep c i (.call now margin) c' ⟨now, margin, none, .ready⟩

variable {c c' : Cache} {e : Event} {i k : Nat} {x y : Caller} {s : Standing} {r : Refresh}
  {o : Outcome} {v : Credential}

/-- What cannot be told of an element by a function cannot be told of the list. -/
theorem map_set_eq {α β : Type} {l : List α} {f : α → β} {i : Nat} {a b : α} (ha : l[i]? = some a)
    (hf : f b = f a) : (l.set i b).map f = l.map f := by
  obtain ⟨hi, rfl⟩ := List.getElem?_eq_some_iff.1 ha
  rw [List.map_set, hf, ← List.getElem_map f (h := by simpa using hi), List.set_getElem_self]

theorem fresh?_eq_some_iff :
    c.fresh? x = some v ↔ c.cached = some v ∧ v.needsRefresh x.now x.margin = false := by
  simp only [fresh?, Option.filter_eq_some_iff, Bool.not_eq_true']

theorem fresh?_eq_none_iff : c.fresh? x = none ↔ c.IsStale x.now x.margin := by
  simp only [fresh?, IsStale, Option.filter_eq_none_iff, Bool.not_eq_true, Bool.not_eq_false']

theorem live?_eq_some_iff :
    c.live? = some k ↔ c.inFlight = some k ∧ ∃ r, c.refreshes[k]? = some r ∧ r.isLive = true := by
  simp only [live?, Option.filter_eq_some_iff, Option.any_eq_true]

theorem answer?_eq_some_iff :
    c.answer? i = some o ↔ ∃ x, c.callers[i]? = some x ∧ x.standing = .answered o := by
  simp only [answer?, Option.bind_eq_some_iff]
  refine exists_congr fun x => and_congr_right fun _ => ?_
  cases x.standing <;> simp

theorem answer?_setCaller (hx : c.callers[i]? = some x) :
    (c.setCaller i { y with standing := .answered o }).answer? i = some o :=
  answer?_eq_some_iff.2 ⟨_, List.getElem?_set_self (List.getElem?_eq_some_iff.1 hx).1, rfl⟩

theorem Step.look (hx : c.callers[i]? = some x) (hr : x.standing = .ready) :
    Step c (.look i) (c.look i x) := by
  rw [Cache.look]
  split
  next v hv =>
    obtain ⟨hv, hf⟩ := fresh?_eq_some_iff.1 hv
    exact .turn hx (.hit hr hv hf)
  next hv =>
    have hv := fresh?_eq_none_iff.1 hv
    split
    next k hk => exact .turn hx (.join hr hv hk)
    next hk =>
      split
      next k hs => exact .turn hx (.refuse hr hv hk hs)
      next hs => exact .start hx hr ⟨hv, hk, hs⟩

theorem step_sound (h : c.step e = some c') : Step c e c' := by
  cases e with
  | call now margin => cases h; exact .call now margin
  | look i =>
    simp only [step] at h
    split at h <;> try contradiction
    next x hx =>
    split at h <;> try contradiction
    next hr => cases h; exact .look hx hr
  | store k o =>
    simp only [step] at h
    split at h <;> try contradiction
    next hk => cases h; exact .store hk
  | announce k =>
    simp only [step] at h
    split at h <;> try contradiction
    next o hk => cases h; exact .announce hk
  | lose k =>
    simp only [step] at h
    split at h <;> try contradiction
    next hk => cases h; exact .lose hk
  | wake i =>
    simp only [step] at h
    split at h <;> try contradiction
    next x hx =>
    split at h <;> try contradiction
    next k hw =>
    split at h <;> try contradiction
    next o hk => cases h; exact .turn hx (.wake hw hk)
    next hk => cases h; exact .turn hx (.retry hw hk)
  | leave i =>
    simp only [step] at h
    split at h <;> try contradiction
    next x hx =>
    cases hw : x.standing <;> simp only [hw] at h <;> try contradiction
    next => cases h; exact .turn hx (.leave (.inl hw))
    next k => cases h; exact .turn hx (.leave (.inr ⟨k, hw⟩))

theorem Turn.complete (hx : c.callers[i]? = some x) (h : Turn c i x e s) :
    c.step e = some (c.setCaller i { x with standing := s }) := by
  cases h with
  | hit hr hv hf => simp only [step, Cache.look, hx, hr, fresh?_eq_some_iff.2 ⟨hv, hf⟩]
  | join hr hv hk => simp only [step, Cache.look, hx, hr, fresh?_eq_none_iff.2 hv, hk]
  | refuse hr hv hk hs => simp only [step, Cache.look, hx, hr, fresh?_eq_none_iff.2 hv, hk, hs]
  | wake hw hk => simp only [step, hx, hw, hk]
  | retry hw hk => simp only [step, hx, hw, hk]
  | leave hw => rcases hw with hw | ⟨k, hw⟩ <;> simp only [step, hx, hw]

theorem Step.complete (h : Step c e c') : c.step e = some c' := by
  cases h with
  | call => rfl
  | turn hx ht => exact ht.complete hx
  | start hx hr hs =>
    simp only [step, Cache.look, hx, hr, fresh?_eq_none_iff.2 hs.stale, hs.idle, hs.unused]
  | store hk => simp only [step, hk]
  | announce hk => simp only [step, hk]
  | lose hk => simp only [step, hk]

theorem Step.looker (h : Step c (.look i) c') :
    ∃ x, c.callers[i]? = some x ∧ x.standing = .ready := by
  cases h with
  | turn hx ht => cases ht with
    | hit hr => exact ⟨_, hx, hr⟩
    | join hr => exact ⟨_, hx, hr⟩
    | refuse hr => exact ⟨_, hx, hr⟩
  | start hx hr => exact ⟨_, hx, hr⟩

theorem Step.of_store (h : Step c (.store k o) c') :
    c.refreshes[k]? = some .running ∧ c' = c.store k o := by
  cases h with
  | turn _ ht => cases ht
  | store hk => exact ⟨hk, rfl⟩

/-- The rules say exactly what can happen, and what comes of it. -/
theorem step_eq_some_iff : c.step e = some c' ↔ Step c e c' := ⟨step_sound, Step.complete⟩

theorem Event.ne_look (h : e.caller? ≠ some i) : e ≠ .look i := by
  rintro rfl
  exact h rfl

theorem Event.call_ne_look (now : Instant) (margin : Span) (i : Nat) :
    Event.call now margin ≠ .look i := by
  intro h
  cases h

theorem Turn.caller?_eq (h : Turn c i x e s) : e.caller? = some i := by
  cases h <;> rfl

theorem Step.advance (h : Step c e c') (hk : c.refreshes[k]? = some r) :
    ∃ r', c'.refreshes[k]? = some r' ∧ Advance k e r r' := by
  have hlt := (List.getElem?_eq_some_iff.1 hk).1
  have set (j : Nat) (r' : Refresh) (hj : j = k → Advance k e r r') :
      ∃ r'', (c.refreshes.set j r')[k]? = some r'' ∧ Advance k e r r'' := by
    by_cases hjk : j = k
    · subst j
      exact ⟨r', List.getElem?_set_self hlt, hj rfl⟩
    · exact ⟨r, by rw [List.getElem?_set_ne hjk, hk], .same⟩
  cases h with
  | call => exact ⟨r, hk, .same⟩
  | turn => exact ⟨r, hk, .same⟩
  | start => exact ⟨r, by rw [← hk]; exact List.getElem?_append_left hlt, .same⟩
  | @store j o hj =>
    refine set j _ fun hjk => ?_
    subst j
    cases hk.symm.trans hj
    exact .store
  | @announce j o hj =>
    refine set j _ fun hjk => ?_
    subst j
    cases hk.symm.trans hj
    exact .announce
  | @lose j hj =>
    refine set j _ fun hjk => ?_
    subst j
    cases hk.symm.trans hj
    exact .lose

theorem Step.outcome_kept (h : Step c e c') (hk : c.refreshes[k]? = some r)
    (ho : r.outcome? = some o) : ∃ r', c'.refreshes[k]? = some r' ∧ r'.outcome? = some o := by
  obtain ⟨r', hk', ha⟩ := h.advance hk
  refine ⟨r', hk', ?_⟩
  cases ha with
  | same => exact ho
  | store => cases ho
  | announce => exact ho
  | lose => cases ho

theorem Step.lost_kept (h : Step c e c') (hk : c.refreshes[k]? = some .lost) :
    c'.refreshes[k]? = some .lost := by
  obtain ⟨r', hk', ha⟩ := h.advance hk
  cases ha
  exact hk'

theorem Step.announced_kept (h : Step c e c') (hk : c.refreshes[k]? = some (.announced o)) :
    c'.refreshes[k]? = some (.announced o) := by
  obtain ⟨r', hk', ha⟩ := h.advance hk
  cases ha
  exact hk'

theorem Step.refresh (h : Step c e c') (hk : c'.refreshes[k]? = some r) :
    (∃ r₀, c.refreshes[k]? = some r₀ ∧ Advance k e r₀ r) ∨ r = .running := by
  rcases Nat.lt_or_ge k c.refreshes.length with hlt | hge
  · obtain ⟨r', hk', ha⟩ := h.advance (List.getElem?_eq_getElem hlt)
    cases hk.symm.trans hk'
    exact .inl ⟨_, List.getElem?_eq_getElem hlt, ha⟩
  · have hlt := (List.getElem?_eq_some_iff.1 hk).1
    cases h with
    | call => exact absurd hlt (Nat.not_lt.2 hge)
    | turn => exact absurd hlt (Nat.not_lt.2 hge)
    | start =>
      simp only [Cache.start, List.getElem?_append_right hge, List.getElem?_singleton] at hk
      split at hk <;> cases hk
      exact .inr rfl
    | store => exact absurd hlt (by simpa [Cache.store, setRefresh] using hge)
    | announce => exact absurd hlt (by simpa [setRefresh] using hge)
    | lose => exact absurd hlt (by simpa [setRefresh] using hge)

theorem Step.callers_length_le (h : Step c e c') : c.callers.length ≤ c'.callers.length := by
  cases h <;> simp [setCaller, Cache.start, Cache.store, setRefresh]

theorem Step.caller (h : Step c e c') (hy : c'.callers[i]? = some y) : CallerStep c i e c' y := by
  cases h with
  | call now margin =>
    simp only [List.getElem?_append, List.getElem?_singleton] at hy
    split at hy
    next hi => exact .same hy nofun
    next hi =>
      split at hy <;> cases hy
      exact .call now margin (by omega)
  | @turn e j x s hx ht =>
    by_cases hij : j = i
    · subst j
      rw [setCaller, List.getElem?_set_self (List.getElem?_eq_some_iff.1 hx).1] at hy
      cases hy
      exact .turn hx ht
    · rw [setCaller, List.getElem?_set_ne hij] at hy
      refine .same hy ?_
      rw [ht.caller?_eq]
      exact fun he => hij (Option.some.inj he)
  | @start j x hx hr hs =>
    by_cases hij : j = i
    · subst j
      rw [Cache.start, setCaller, List.getElem?_set_self (List.getElem?_eq_some_iff.1 hx).1] at hy
      cases hy
      exact .start hx hr hs
    · rw [Cache.start, setCaller, List.getElem?_set_ne hij] at hy
      exact .same hy fun he => hij (Option.some.inj he)
  | store => exact .same hy nofun
  | announce => exact .same hy nofun
  | lose => exact .same hy nofun

end ClusterAccess.Cache
