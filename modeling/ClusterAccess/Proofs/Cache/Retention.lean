import ClusterAccess.Proofs.Cache.SingleFlight
import ClusterAccess.Simulation.World

namespace ClusterAccess

namespace Refresh

def success? (r : Refresh) : Option Credential := r.outcome?.bind Except.toOption

/-- A refresh that was lost, or ended with an error. -/
def HasFailed (r : Refresh) : Prop := r = .lost ∨ ∃ e, r.outcome? = some (.error e)

end Refresh

namespace Cache

open Time Simulation

/-- The credential of the refresh that was started last among those that succeeded. -/
def lastSuccess? (rs : List Refresh) : Option Credential := (rs.filterMap Refresh.success?).getLast?

/-- The refreshes whose outcomes come to the cache in a run, in the order in which they come. -/
def stores (es : List Event) : List Nat :=
  es.filterMap fun
    | .store k _ => some k
    | _ => none

def dismiss (c : Cache) (i : Nat) : Cache :=
  { c with callers := c.callers.modify i fun x => { x with standing := .gone } }

variable {c c' d : Cache} {e : Event} {es : List Event} {i j k : Nat} {x y : Caller}
  {r r' : Refresh} {rs : List Refresh} {s : Standing} {o : Outcome} {v : Credential}
  {initial : Option Credential}

theorem lastSuccess?_set (hk : rs[k]? = some r) (hr : r'.success? = r.success?) :
    lastSuccess? (rs.set k r') = lastSuccess? rs := by
  have h := map_set_eq (f := Refresh.success?) hk hr
  simpa only [lastSuccess?, List.filterMap_map, Function.id_comp] using
    congrArg (fun l => (l.filterMap id).getLast?) h

theorem lastSuccess?_set_last (hk : k + 1 = rs.length) (hr : r.success? = some v) :
    lastSuccess? (rs.set k r) = some v := by
  rcases List.eq_nil_or_concat' rs with rfl | ⟨rs, r₀, rfl⟩
  · cases hk
  · obtain rfl : k = rs.length := by simpa using hk
    simp [lastSuccess?, hr]

theorem lastSuccess?_concat (hr : r.success? = none) :
    lastSuccess? (rs ++ [r]) = lastSuccess? rs := by
  simp only [lastSuccess?, List.filterMap_append, List.filterMap_cons, hr, List.filterMap_nil,
    List.append_nil]

theorem cached_eq_of_run (h : (ofInitial initial).run es = some c) :
    c.cached = (lastSuccess? c.refreshes).or initial := by
  refine run_induction (motive := fun _ c => c.cached = (lastSuccess? c.refreshes).or initial)
    h rfl ?_
  intro es d e c' hd ih hs
  cases hs with
  | call => exact ih
  | turn => exact ih
  | start =>
    have hr : Refresh.running.success? = none := rfl
    simp only [Cache.start, lastSuccess?_concat hr]
    exact ih
  | @store k o hk =>
    simp only [Cache.store, Cache.setRefresh]
    cases o with
    | ok v =>
      have hr : (Refresh.stored (.ok v)).success? = some v := rfl
      rw [lastSuccess?_set_last ((coherent_of_run hd).running_last k hk) hr, Option.some_or]
    | error e =>
      have hr : (Refresh.stored (.error e)).success? = Refresh.running.success? := rfl
      rw [lastSuccess?_set hk hr]
      exact ih
  | @announce k o hk =>
    have hr : (Refresh.announced o).success? = (Refresh.stored o).success? := rfl
    simp only [Cache.setRefresh, lastSuccess?_set hk hr]
    exact ih
  | lose hk =>
    have hr : Refresh.lost.success? = Refresh.running.success? := rfl
    simp only [Cache.setRefresh, lastSuccess?_set hk hr]
    exact ih

theorem stores_concat : stores (es ++ [e]) = stores es ++ stores [e] := List.filterMap_append

/-- Refreshes whose outcomes have come to the cache have come in the order of their start. -/
structure Ascending (es : List Event) (c : Cache) : Prop where
  pairwise : (stores es).Pairwise (· < ·)
  ended : ∀ k ∈ stores es, ∃ r o, c.refreshes[k]? = some r ∧ r.outcome? = some o

theorem Ascending.ended_concat (ha : Ascending es d) (hs : Step d e c') (hk : k ∈ stores es) :
    ∃ r o, c'.refreshes[k]? = some r ∧ r.outcome? = some o := by
  obtain ⟨r, o, hr, ho⟩ := ha.ended k hk
  obtain ⟨r', hr', ho'⟩ := hs.outcome_kept hr ho
  exact ⟨r', o, hr', ho'⟩

theorem Ascending.store (ha : Ascending es d) (hd : d.Coherent)
    (hk : d.refreshes[k]? = some .running) : Ascending (es ++ [.store k o]) (d.store k o) where
  pairwise := by
    rw [stores_concat, List.pairwise_append]
    refine ⟨ha.pairwise, List.pairwise_singleton _ _, fun j hj k' hk' => ?_⟩
    obtain rfl := List.mem_singleton.1 hk'
    obtain ⟨r, o', hr, ho⟩ := ha.ended j hj
    have hlt := (List.getElem?_eq_some_iff.1 hr).1
    have hlast := hd.running_last k' hk
    -- the refresh that ends now has not ended before, so `j` is an earlier one
    have hne : j ≠ k' := by
      rintro rfl
      cases hr.symm.trans hk
      cases ho
    omega
  ended j hj := by
    have hstep : Step d (.store k o) (d.store k o) := .store hk
    rw [stores_concat, List.mem_append] at hj
    rcases hj with hj | hj
    · exact ha.ended_concat hstep hj
    · obtain rfl := List.mem_singleton.1 hj
      have hlt := (List.getElem?_eq_some_iff.1 hk).1
      exact ⟨.stored o, o, List.getElem?_set_self hlt, rfl⟩

theorem ascending_of_run (h : (ofInitial initial).run es = some c) : Ascending es c := by
  refine run_induction (motive := Ascending) h ⟨.nil, nofun⟩ ?_
  intro es d e c' hd ha hs
  have hother (he : stores [e] = []) : Ascending (es ++ [e]) c' := by
    have hes : stores (es ++ [e]) = stores es := by rw [stores_concat, he, List.append_nil]
    constructor
    · rw [hes]
      exact ha.pairwise
    · rw [hes]
      exact fun k hk => ha.ended_concat hs hk
  cases e with
  | store k o =>
    obtain ⟨hk, rfl⟩ := hs.of_store
    exact ha.store (coherent_of_run hd) hk
  | call => exact hother rfl
  | look => exact hother rfl
  | announce => exact hother rfl
  | lose => exact hother rfl
  | wake => exact hother rfl
  | leave => exact hother rfl

theorem Step.cached_kept (h : Step c e c') (he : ∀ k v, e ≠ .store k (.ok v)) :
    c'.cached = c.cached := by
  cases h with
  | @store k o hk =>
    cases o with
    | ok v => exact absurd rfl (he k v)
    | error => rfl
  | call => rfl
  | turn => rfl
  | start => rfl
  | announce => rfl
  | lose => rfl

theorem callers_dismiss_of_ne (hji : j ≠ i) : (c.dismiss i).callers[j]? = c.callers[j]? :=
  List.getElem?_modify_ne _ _ hji.symm

theorem setCaller_dismiss (hji : j ≠ i) :
    (c.dismiss i).setCaller j x = (c.setCaller j x).dismiss i := by
  simp only [dismiss, setCaller, Cache.mk.injEq, true_and]
  apply List.ext_getElem?
  intro n
  grind

theorem start_dismiss (hji : j ≠ i) : (c.dismiss i).start j x = (c.start j x).dismiss i := by
  simp only [Cache.start, setCaller_dismiss hji]
  rfl

theorem look_dismiss (hji : j ≠ i) : (c.dismiss i).look j x = (c.look j x).dismiss i := by
  have hf : (c.dismiss i).fresh? x = c.fresh? x := rfl
  have hl : (c.dismiss i).live? = c.live? := rfl
  simp only [Cache.look, hf, hl, setCaller_dismiss hji, start_dismiss hji]
  split
  next => rfl
  next =>
    split
    next => rfl
    next => split <;> rfl

theorem step_dismiss (hi : i < c.callers.length) (he : e.caller? ≠ some i) :
    (c.dismiss i).step e = (c.step e).map (·.dismiss i) := by
  have hr : (c.dismiss i).refreshes = c.refreshes := rfl
  cases e with
  | call now margin =>
    simp only [step, dismiss, Option.map_some, Option.some.injEq, Cache.mk.injEq, true_and]
    apply List.ext_getElem?
    intro n
    grind
  | look j =>
    have hji : j ≠ i := fun h => he (congrArg some h)
    simp only [step, callers_dismiss_of_ne hji, look_dismiss hji]
    split
    next => split <;> rfl
    next => rfl
  | store k o =>
    simp only [step, hr]
    split <;> rfl
  | announce k =>
    simp only [step, hr]
    split <;> rfl
  | lose k =>
    simp only [step, hr]
    split <;> rfl
  | wake j =>
    have hji : j ≠ i := fun h => he (congrArg some h)
    simp only [step, callers_dismiss_of_ne hji, hr, setCaller_dismiss hji]
    split
    next =>
      split
      next => split <;> rfl
      next => rfl
    next => rfl
  | leave j =>
    have hji : j ≠ i := fun h => he (congrArg some h)
    simp only [step, callers_dismiss_of_ne hji, setCaller_dismiss hji]
    split
    next => split <;> rfl
    next => rfl

theorem run_dismiss (hi : i < c.callers.length) (hes : ∀ e ∈ es, e.caller? ≠ some i) :
    (c.dismiss i).run es = (c.run es).map (·.dismiss i) := by
  induction es generalizing c with
  | nil => rfl
  | cons e es ih =>
    obtain ⟨he, hes⟩ := List.forall_mem_cons.1 hes
    rw [run_cons, run_cons, step_dismiss hi he]
    cases hs : c.step e with
    | none => rfl
    | some c' => exact ih (Nat.lt_of_lt_of_le hi (step_sound hs).callers_length_le) hes

theorem Step.eq_dismiss (h : Step c (.leave i) c') :
    i < c.callers.length ∧ c' = c.dismiss i := by
  cases h with
  | @turn _ j x s hx ht =>
    cases ht
    obtain ⟨hlt, rfl⟩ := List.getElem?_eq_some_iff.1 hx
    refine ⟨hlt, ?_⟩
    simp only [dismiss, setCaller, Cache.mk.injEq, true_and]
    apply List.ext_getElem?
    intro n
    grind

theorem look_of_fresh (hx : c.callers[i]? = some x) (hr : x.standing = .ready)
    (hv : c.cached = some v) (hf : v.needsRefresh x.now x.margin = false) :
    ∃ c', c.step (.look i) = some c' ∧ c'.answer? i = some (.ok v) ∧
      c'.refreshes = c.refreshes :=
  ⟨_, (Turn.hit hr hv hf).complete hx, answer?_setCaller hx, rfl⟩

/-- No caller that comes after a failure waits for what has failed. -/
theorem Coherent.retry (hc : c.Coherent) (hk : c.refreshes[k]? = some r) (hr : r.HasFailed)
    (hx : c.callers[i]? = some x) (hready : x.standing = .ready) (hnew : x.started = none)
    (hv : c.IsStale x.now x.margin) :
    ∃ c' y k', c.step (.look i) = some c' ∧ c'.callers[i]? = some y ∧ y.standing = .waiting k' ∧
      k < k' ∧ (c.live? = none → c' = c.start i x) ∧
        (k + 1 = c.refreshes.length → c.live? = none) := by
  have hi := (List.getElem?_eq_some_iff.1 hx).1
  have hlt := (List.getElem?_eq_some_iff.1 hk).1
  cases hl : c.live? with
  | none =>
    have hs : Step c (.look i) (c.start i x) := .start hx hready ⟨hv, hl, hnew⟩
    have hy : (c.start i x).callers[i]? = some
        { x with started := some c.refreshes.length, standing := .waiting c.refreshes.length } :=
      List.getElem?_set_self hi
    exact ⟨_, _, _, hs.complete, hy, rfl, hlt, fun _ => rfl, fun _ => rfl⟩
  | some k' =>
    obtain ⟨hf, r', hk', hlive⟩ := live?_eq_some_iff.1 hl
    obtain ⟨hlast, r'', hk'', ho⟩ := (hc.inFlight_iff k').1 hf
    cases hk'.symm.trans hk''
    have hne : k ≠ k' := by
      rintro rfl
      cases hk.symm.trans hk'
      rcases hr with rfl | ⟨e, he⟩
      · cases hlive
      · cases ho.symm.trans he
    have hs := (Turn.join hready hv hl).complete hx
    have hy : (c.setCaller i { x with standing := .waiting k' }).callers[i]? = some
        { x with standing := .waiting k' } := List.getElem?_set_self hi
    exact ⟨_, _, k', hs, hy, rfl, by omega, nofun, by omega⟩

theorem Step.running_kept (h : Step c e c') (hk : c.refreshes[k]? = some .running)
    (hstore : ∀ o, e ≠ .store k o) (hlose : e ≠ .lose k) :
    c'.refreshes[k]? = some .running := by
  obtain ⟨r, hr, ha⟩ := h.advance hk
  cases ha with
  | same => exact hr
  | store => exact absurd rfl (hstore _)
  | lose => exact absurd rfl hlose

/-- Two caches differ at most in their callers. -/
structure SameCredentials (c c' : Cache) : Prop where
  cached : c'.cached = c.cached
  inFlight : c'.inFlight = c.inFlight
  refreshes : c'.refreshes = c.refreshes

/-- The end of a waiter's patience is its departure, and stops no refresh. -/
theorem giveUp_sameCredentials (w : World) (a : Waiter) (t : Nat)
    (hc : w.caches[a.cache]? = some c) :
    (w.giveUp a t).pending = w.pending ∧
      ∃ c', (w.giveUp a t).caches[a.cache]? = some c' ∧ SameCredentials c c' := by
  have hlt := (List.getElem?_eq_some_iff.1 hc).1
  simp only [World.giveUp, World.note, World.happen, World.jump, hc, Option.bind_some]
  cases hs : c.step (.leave a.caller) with
  | none => exact ⟨rfl, c, hc, rfl, rfl, rfl⟩
  | some c' =>
    obtain ⟨-, rfl⟩ := (step_sound hs).eq_dismiss
    exact ⟨rfl, _, List.getElem?_set_self hlt, rfl, rfl, rfl⟩

structure Retained (initial : Option Credential) (es : List Event) (c : Cache) : Prop where
  cached_eq : c.cached = (lastSuccess? c.refreshes).or initial
  ascending : (stores es).Pairwise (· < ·)
  cached_kept : ∀ e c', c.step e = some c' → (∀ k v, e ≠ .store k (.ok v)) → c'.cached = c.cached
  running_kept : ∀ e c' k, c.step e = some c' → c.refreshes[k]? = some .running →
    (∀ o, e ≠ .store k o) → e ≠ .lose k → c'.refreshes[k]? = some .running
  success_cached : ∀ k v, c.refreshes[k]? = some .running →
    ∃ c', c.step (.store k (.ok v)) = some c' ∧ c'.cached = some v ∧
      ∀ i x, c'.callers[i]? = some x → x.standing = .ready →
        v.needsRefresh x.now x.margin = false →
        ∃ c'', c'.step (.look i) = some c'' ∧ c''.answer? i = some (.ok v) ∧
          c''.refreshes = c'.refreshes
  can_leave : ∀ i x, c.callers[i]? = some x →
    (x.standing = .ready ∨ ∃ k, x.standing = .waiting k) → ∃ c', c.step (.leave i) = some c'
  leave : ∀ i c', c.step (.leave i) = some c' → SameCredentials c c' ∧
    ∀ fs, (∀ e ∈ fs, e.caller? ≠ some i) → c'.run fs = (c.run fs).map (·.dismiss i)
  giveUp : ∀ (w : World) (a : Waiter) (t : Nat), w.caches[a.cache]? = some c →
    (w.giveUp a t).pending = w.pending ∧
      ∃ c', (w.giveUp a t).caches[a.cache]? = some c' ∧ SameCredentials c c'
  retry : ∀ k r i x, c.refreshes[k]? = some r → r.HasFailed → c.callers[i]? = some x →
    x.standing = .ready → x.started = none → c.IsStale x.now x.margin →
    ∃ c' y k', c.step (.look i) = some c' ∧ c'.callers[i]? = some y ∧ y.standing = .waiting k' ∧
      k < k' ∧ (c.live? = none → c' = c.start i x) ∧
        (k + 1 = c.refreshes.length → c.live? = none)

/-- Neither failures nor departures damage a cache, and no success is lost. -/
theorem credentials_retained (initial : Option Credential) (es : List Event) (c : Cache)
    (h : (ofInitial initial).run es = some c) : Retained initial es c where
  cached_eq := cached_eq_of_run h
  ascending := (ascending_of_run h).pairwise
  cached_kept e c' hs := (step_sound hs).cached_kept
  running_kept e c' k hs := (step_sound hs).running_kept
  success_cached k v hk :=
    ⟨c.store k (.ok v), (Step.store hk).complete, rfl, fun _ _ hx hr => look_of_fresh hx hr rfl⟩
  can_leave i x hx hw := ⟨_, (Turn.leave hw).complete hx⟩
  leave i c' hs := by
    obtain ⟨hi, rfl⟩ := (step_sound hs).eq_dismiss
    exact ⟨⟨rfl, rfl, rfl⟩, fun fs => run_dismiss hi⟩
  giveUp w a t := giveUp_sameCredentials w a t
  retry k r i x := (coherent_of_run h).retry

theorem credentials_retained_unluckyRun :
    ∃ c, (ofInitial expiring).run unluckyRun = some c ∧ Retained expiring unluckyRun c :=
  ⟨_, rfl, credentials_retained expiring unluckyRun _ rfl⟩

end Cache

end ClusterAccess
