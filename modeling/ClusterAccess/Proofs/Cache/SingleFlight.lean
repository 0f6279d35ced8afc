import ClusterAccess.Proofs.Cache.Run

namespace ClusterAccess.Cache

variable {c c' d c₀ : Cache} {e : Event} {es : List Event} {i j k : Nat} {x : Caller}
  {r r' : Refresh} {s : Standing} {o : Outcome} {initial : Option Credential}

/-- Only the last refresh can still run, and it is in flight unless it has ended. -/
structure Coherent (c : Cache) : Prop where
  running_last : ∀ k, c.refreshes[k]? = some .running → k + 1 = c.refreshes.length
  inFlight_iff : ∀ k, c.inFlight = some k ↔
    k + 1 = c.refreshes.length ∧ ∃ r, c.refreshes[k]? = some r ∧ r.outcome? = none

theorem coherent_ofInitial (initial : Option Credential) : (ofInitial initial).Coherent where
  running_last k hk := by simp [ofInitial] at hk
  inFlight_iff k := by simp [ofInitial]

theorem Coherent.inFlight_of_running (hc : c.Coherent) (hk : c.refreshes[k]? = some .running) :
    c.inFlight = some k :=
  (hc.inFlight_iff k).2 ⟨hc.running_last k hk, .running, hk, rfl⟩

/-- While a refresh runs it is live, so nobody starts another. -/
theorem Coherent.live_of_running (hc : c.Coherent) (hk : c.refreshes[k]? = some .running) :
    c.live? = some k :=
  live?_eq_some_iff.2 ⟨hc.inFlight_of_running hk, .running, hk, rfl⟩

theorem Coherent.start (hc : c.Coherent) (hs : c.Starts x) : (c.start i x).Coherent where
  running_last k hk := by
    simp only [Cache.start, List.length_append, List.length_singleton] at hk ⊢
    rw [List.getElem?_append] at hk
    split at hk
    next =>
      cases hs.idle.symm.trans (hc.live_of_running hk)
    next hlt =>
      obtain ⟨hk, _⟩ := List.getElem?_eq_some_iff.1 hk
      simp only [List.length_singleton] at hk
      omega
  inFlight_iff k := by
    simp only [Cache.start, Option.some.injEq, List.length_append, List.length_singleton]
    constructor
    · rintro rfl
      exact ⟨rfl, .running, List.getElem?_concat_length, rfl⟩
    · rintro ⟨hk, _⟩
      omega

theorem Coherent.store (hc : c.Coherent) (hk : c.refreshes[k]? = some .running) :
    (c.store k o).Coherent where
  running_last j hj := by
    simp only [Cache.store, setRefresh, List.length_set, List.getElem?_set] at hj ⊢
    split at hj
    next => split at hj <;> cases hj
    next => exact hc.running_last j hj
  inFlight_iff j := by
    have hlast := hc.running_last k hk
    simp only [Cache.store, setRefresh, List.length_set, reduceCtorEq, false_iff, not_and]
    rintro hj ⟨r, hr, ho⟩
    obtain rfl : j = k := by omega
    rw [List.getElem?_set_self (by omega)] at hr
    cases hr
    cases ho

theorem Coherent.setRefresh (hc : c.Coherent) (hk : c.refreshes[k]? = some r)
    (ho : r'.outcome? = r.outcome?) (hr : r' ≠ .running) : (c.setRefresh k r').Coherent where
  running_last j hj := by
    simp only [Cache.setRefresh, List.length_set, List.getElem?_set] at hj ⊢
    split at hj
    next => split at hj <;> cases hj; contradiction
    next => exact hc.running_last j hj
  inFlight_iff j := by
    simp only [Cache.setRefresh, List.length_set, hc.inFlight_iff]
    refine and_congr_right fun _ => ?_
    by_cases hkj : k = j
    · subst j
      simp only [List.getElem?_set_self (List.getElem?_eq_some_iff.1 hk).1, hk, Option.some.injEq,
        exists_eq_left', ho]
    · simp only [List.getElem?_set_ne hkj]

theorem Coherent.step (hc : c.Coherent) (h : Step c e c') : c'.Coherent := by
  cases h with
  | call => exact ⟨hc.running_last, hc.inFlight_iff⟩
  | turn => exact ⟨hc.running_last, hc.inFlight_iff⟩
  | start hx hr hs => exact hc.start hs
  | store hk => exact hc.store hk
  | announce hk => exact hc.setRefresh hk rfl nofun
  | lose hk => exact hc.setRefresh hk rfl nofun

theorem coherent_of_run (h : (ofInitial initial).run es = some c) : c.Coherent :=
  run_invariant Coherent.step (coherent_ofInitial initial) h

theorem Turn.not_starts (h : Turn c i x (.look i) s) : ¬ c.Starts x := by
  intro hs
  cases h with
  | hit hr hv hf => exact absurd (hs.stale _ hv) (by simp [hf])
  | join hr hv hk => cases hs.idle.symm.trans hk
  | refuse hr hv hk hu => cases hs.unused.symm.trans hu

theorem Step.length_lt_iff (h : Step c e c') : c.refreshes.length < c'.refreshes.length ↔
    ∃ i x, e = .look i ∧ c.callers[i]? = some x ∧ c.Starts x := by
  cases h with
  | call => simp
  | @turn e i x s hx ht =>
    simp only [setCaller, Nat.lt_irrefl, false_iff]
    rintro ⟨j, y, rfl, hy, hs⟩
    cases ht.caller?_eq
    cases hx.symm.trans hy
    exact ht.not_starts hs
  | @start i x hx hr hs => simpa [Cache.start] using ⟨x, hx, hs⟩
  | store => simp [Cache.store, Cache.setRefresh]
  | announce => simp [Cache.setRefresh]
  | lose => simp [Cache.setRefresh]

theorem Step.look_of_starts (h : Step c (.look i) c') (hx : c.callers[i]? = some x)
    (hs : c.Starts x) : c' = c.start i x := by
  cases h with
  | @turn _ j y s hy ht =>
    cases ht.caller?_eq
    cases hx.symm.trans hy
    exact (ht.not_starts hs).elim
  | start hy => cases hx.symm.trans hy; rfl

/-- Callers are marked with the refreshes that they have started, and have come before those. -/
structure Marked (c₀ : Cache) (es : List Event) (c : Cache) : Prop where
  started_iff : ∀ i k x, c.callers[i]? = some x → (x.started = some k ↔ StartedBy c₀ es i k)
  come : ∀ i k, StartedBy c₀ es i k → i < c.callers.length

theorem Marked.concat (hm : Marked c₀ es d) (hd : c₀.run es = some d) (hs : Step d e c') :
    Marked c₀ (es ++ [e]) c' where
  started_iff i k x hx := by
    cases hs.caller hx with
    | same hx he =>
      rw [startedBy_concat_of_ne (Event.ne_look he)]
      exact hm.started_iff i k x hx
    | @turn _ y s hy ht =>
      rw [startedBy_concat_of_eq hd hs rfl]
      exact hm.started_iff i k y hy
    | @start y hy hr hst =>
      have hnone : ¬ StartedBy c₀ es i k := by
        rw [← hm.started_iff i k y hy, hst.unused]
        exact (Option.some_ne_none k).symm
      simp [startedBy_concat hd hs, hnone, Cache.start]
    | call now margin hi =>
      rw [startedBy_concat_of_ne (Event.call_ne_look now margin i)]
      refine iff_of_false (Option.some_ne_none k).symm fun h => ?_
      have := hm.come i k h
      omega
  come i k h := by
    have hle := hs.callers_length_le
    rcases (startedBy_concat hd hs).1 h with h | ⟨rfl, -, -⟩
    · exact Nat.lt_of_lt_of_le (hm.come i k h) hle
    · obtain ⟨x, hx, -⟩ := hs.looker
      exact Nat.lt_of_lt_of_le (List.getElem?_eq_some_iff.1 hx).1 hle

theorem marked_of_run (h : (ofInitial initial).run es = some c) :
    Marked (ofInitial initial) es c := by
  refine run_induction (motive := Marked (ofInitial initial)) h ?_ fun hd hm hs => hm.concat hd hs
  constructor
  · intro i k x hx
    simp [ofInitial] at hx
  · rintro i k ⟨d, _, hd, _⟩
    exact (happened_nil hd).elim

structure SingleFlight (initial : Option Credential) (es : List Event) (c : Cache) : Prop where
  running_unique : ∀ j k : Nat, c.refreshes[j]? = some .running →
    c.refreshes[k]? = some .running → j = k
  inFlight_iff : ∀ k, c.inFlight = some k ↔
    k + 1 = c.refreshes.length ∧ ∃ r, c.refreshes[k]? = some r ∧ r.outcome? = none
  store_own : ∀ k o c', c.step (.store k o) = some c' → c.inFlight = some k ∧ c'.inFlight = none
  starts_iff : ∀ e c', c.step e = some c' → (c.refreshes.length < c'.refreshes.length ↔
    ∃ i x, e = .look i ∧ c.callers[i]? = some x ∧ c.Starts x)
  start_inFlight : ∀ i x c', c.callers[i]? = some x → c.Starts x → c.step (.look i) = some c' →
    c'.refreshes = c.refreshes ++ [.running] ∧ c'.inFlight = some c.refreshes.length
  started_iff : ∀ i k x, c.callers[i]? = some x →
    (x.started = some k ↔ StartedBy (ofInitial initial) es i k)

/-- One refresh runs at a time, and nobody starts a refresh without need. -/
theorem single_flight (initial : Option Credential) (es : List Event) (c : Cache)
    (h : (ofInitial initial).run es = some c) : SingleFlight initial es c where
  running_unique j k hj hk := by
    have hc := coherent_of_run h
    have hjl := hc.running_last j hj
    have hkl := hc.running_last k hk
    omega
  inFlight_iff := (coherent_of_run h).inFlight_iff
  store_own k o c' hs := by
    obtain ⟨hk, rfl⟩ := (step_sound hs).of_store
    exact ⟨(coherent_of_run h).inFlight_of_running hk, rfl⟩
  starts_iff e c' hs := (step_sound hs).length_lt_iff
  start_inFlight i x c' hx hst hs := by
    rw [(step_sound hs).look_of_starts hx hst]
    exact ⟨rfl, rfl⟩
  started_iff := (marked_of_run h).started_iff

theorem single_flight_unluckyRun :
    ∃ c, (ofInitial expiring).run unluckyRun = some c ∧ SingleFlight expiring unluckyRun c :=
  ⟨_, rfl, single_flight expiring unluckyRun _ rfl⟩

end ClusterAccess.Cache
