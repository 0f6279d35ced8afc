import ClusterAccess.Proofs.Cache.SingleFlight

namespace ClusterAccess.Cache

open Time

/-- The clocks and margins of the callers that come in a run, in the order in which they come. -/
def clocks (es : List Event) : List (Instant × Span) :=
  es.filterMap fun
    | .call now margin => some (now, margin)
    | _ => none

structure Awaits (c₀ : Cache) (es : List Event) (i : Nat) (x : Caller) (d : Cache) (k : Nat) :
    Prop where
  stale : d.IsStale x.now x.margin
  refresh : d.live? = some k ∨ (d.live? = none ∧ d.refreshes.length = k ∧ StartedBy c₀ es i k)

/-- What the answer to a caller can rest on. -/
inductive Ground where
  | cached (v : Credential)
  | refresh (k : Nat)
  | loss (k : Nat)

/-- A ground bears an answer that a caller has after a run; the caller last looked at `d`. -/
def Ground.Bears (c₀ : Cache) (es : List Event) (c : Cache) (i : Nat) (x : Caller) (d : Cache)
    (o : Outcome) : Ground → Prop
  | cached v => d.cached = some v ∧ v.needsRefresh x.now x.margin = false ∧ o = .ok v
  | refresh k =>
    Awaits c₀ es i x d k ∧ c.refreshes[k]? = some (.announced o) ∧ Event.store k o ∈ es
  | loss k =>
    d.IsStale x.now x.margin ∧ d.live? = none ∧ StartedBy c₀ es i k ∧
      d.refreshes[k]? = some .lost ∧ o = .error lostError

def Explained (c₀ : Cache) (es : List Event) (c : Cache) (i : Nat) (x : Caller) : Standing → Prop
  | .ready => ∀ j, StartedBy c₀ es i j → c.refreshes[j]? = some .lost
  | .waiting k =>
    (∃ d, LastLook c₀ es i d ∧ Awaits c₀ es i x d k) ∧
      ∀ j, StartedBy c₀ es i j → j = k ∨ c.refreshes[j]? = some .lost
  | .answered o => ∃ d, LastLook c₀ es i d ∧ ∃ g, Ground.Bears c₀ es c i x d o g
  | .gone => True

variable {c c' d d' c₀ : Cache} {e : Event} {es : List Event} {i j k : Nat} {x y : Caller}
  {r : Refresh} {s : Standing} {o o' : Outcome} {g g' : Ground} {v : Credential}
  {initial : Option Credential}

theorem Awaits.concat (h : Awaits c₀ es i x d k) : Awaits c₀ (es ++ [e]) i x d k where
  stale := h.stale
  refresh := h.refresh.imp_right fun ⟨hl, hk, hs⟩ => ⟨hl, hk, hs.concat⟩

theorem Ground.Bears.concat (h : g.Bears c₀ es c i x d o) (hs : Step c e c') :
    g.Bears c₀ (es ++ [e]) c' i x d o := by
  cases g with
  | cached v => exact h
  | refresh k =>
    obtain ⟨ha, hk, hm⟩ := h
    exact ⟨ha.concat, hs.announced_kept hk, List.mem_append_left _ hm⟩
  | loss k =>
    obtain ⟨hv, hl, hk, h⟩ := h
    exact ⟨hv, hl, hk.concat, h⟩

theorem Explained.concat (h : Explained c₀ es c i x s) (hs : Step c e c') (he : e ≠ .look i) :
    Explained c₀ (es ++ [e]) c' i x s := by
  cases s with
  | ready =>
    intro j hj
    exact hs.lost_kept (h j ((startedBy_concat_of_ne he).1 hj))
  | waiting k =>
    obtain ⟨⟨d, hd, ha⟩, hown⟩ := h
    refine ⟨⟨d, hd.concat he, ha.concat⟩, fun j hj => ?_⟩
    exact (hown j ((startedBy_concat_of_ne he).1 hj)).imp_right hs.lost_kept
  | answered o =>
    obtain ⟨d, hd, g, hg⟩ := h
    exact ⟨d, hd.concat he, g, hg.concat hs⟩
  | gone => trivial

theorem Explained.turn (h : Explained (ofInitial initial) es d i x x.standing)
    (hd : (ofInitial initial).run es = some d) (hx : d.callers[i]? = some x)
    (ht : Turn d i x e s) :
    Explained (ofInitial initial) (es ++ [e]) (d.setCaller i { x with standing := s }) i
      { x with standing := s } s := by
  have hs : Step d e (d.setCaller i { x with standing := s }) := .turn hx ht
  have hstart (j : Nat) := startedBy_concat_of_eq (i := i) (k := j) hd hs rfl
  cases ht with
  | hit hr hv hf => exact ⟨d, lastLook_look hd, .cached _, hv, hf, rfl⟩
  | join hr hv hk =>
    rw [hr] at h
    exact ⟨⟨d, lastLook_look hd, hv, .inl hk⟩, fun j hj => .inr (h j ((hstart j).1 hj))⟩
  | @refuse k hr hv hk hu =>
    rw [hr] at h
    have hown := ((marked_of_run hd).started_iff i k x hx).1 hu
    exact ⟨d, lastLook_look hd, .loss k, hv, hk, hown.concat, h k hown, rfl⟩
  | @wake k o hw hk =>
    rw [hw] at h
    obtain ⟨⟨b, hb, ha⟩, -⟩ := h
    have hm := store_mem_of_run hd hk rfl
    exact ⟨b, hb.concat nofun, .refresh k, ⟨ha.stale, ha.concat.refresh⟩, hk,
      List.mem_append_left _ hm⟩
  | @retry k hw hk =>
    rw [hw] at h
    intro j hj
    rcases h.2 j ((hstart j).1 hj) with rfl | hj
    · exact hk
    · exact hj
  | leave => trivial

theorem explained_start (hd : (ofInitial initial).run es = some d)
    (hx : d.callers[i]? = some x) (hr : x.standing = .ready) (hs : d.Starts x) :
    Explained (ofInitial initial) (es ++ [.look i]) (d.start i x) i
      { x with started := some d.refreshes.length, standing := .waiting d.refreshes.length }
      (.waiting d.refreshes.length) := by
  have hiff (j : Nat) := startedBy_concat (i := i) (k := j) hd (.start hx hr hs)
  have hnone (j : Nat) : ¬ StartedBy (ofInitial initial) es i j := by
    rw [← (marked_of_run hd).started_iff i j x hx, hs.unused]
    exact (Option.some_ne_none j).symm
  constructor
  · refine ⟨d, lastLook_look hd, hs.stale, .inr ⟨hs.idle, rfl, ?_⟩⟩
    exact (hiff _).2 (.inr ⟨rfl, rfl, rfl⟩)
  · intro j hj
    rcases (hiff j).1 hj with hj | ⟨-, hj, -⟩
    · exact (hnone j hj).elim
    · exact .inl hj.symm

theorem explained_of_run (h : (ofInitial initial).run es = some c) :
    ∀ i x, c.callers[i]? = some x → Explained (ofInitial initial) es c i x x.standing := by
  refine run_induction (motive := fun es c => ∀ i x, c.callers[i]? = some x →
    Explained (ofInitial initial) es c i x x.standing) h ?_ ?_
  · intro i x hx
    simp [ofInitial] at hx
  · intro es d e c' hd ih hs i x hx
    cases hs.caller hx with
    | same hx he => exact (ih i x hx).concat hs (Event.ne_look he)
    | turn hy ht => exact (ih i _ hy).turn hd hy ht
    | start hy hr hst => exact explained_start hd hy hr hst
    | call now margin hi =>
      intro j hj
      have hlook := Event.call_ne_look now margin i
      have := (marked_of_run hd).come i j ((startedBy_concat_of_ne hlook).1 hj)
      omega

theorem StartedBy.unique (h : (ofInitial initial).run es = some c)
    (hx : c.callers[i]? = some x) (hj : StartedBy (ofInitial initial) es i j)
    (hk : StartedBy (ofInitial initial) es i k) : j = k := by
  have hm := marked_of_run h
  rw [← hm.started_iff i j x hx] at hj
  rw [← hm.started_iff i k x hx] at hk
  exact Option.some.inj (hj.symm.trans hk)

theorem Awaits.unique (hj : Awaits c₀ es i x d j) (hk : Awaits c₀ es i x d k) : j = k := by
  rcases hj.refresh with hj | ⟨hlj, hj, -⟩ <;> rcases hk.refresh with hk | ⟨hlk, hk, -⟩
  · exact Option.some.inj (hj.symm.trans hk)
  · cases hj.symm.trans hlk
  · cases hk.symm.trans hlj
  · exact hj.symm.trans hk

theorem not_isStale_of_fresh (hv : c.cached = some v) (hf : v.needsRefresh x.now x.margin = false) :
    ¬ c.IsStale x.now x.margin := fun h => by
  cases (h v hv).symm.trans hf

theorem Awaits.not_loss (h : (ofInitial initial).run es = some c)
    (hx : c.callers[i]? = some x) (hk : Awaits (ofInitial initial) es i x d k)
    (hl : d.live? = none) (hj : StartedBy (ofInitial initial) es i j)
    (hr : d.refreshes[j]? = some .lost) : False := by
  rcases hk.refresh with hk | ⟨-, hk, hs⟩
  · cases hl.symm.trans hk
  · have hjk := StartedBy.unique h hx hj hs
    have hlt := (List.getElem?_eq_some_iff.1 hr).1
    omega

theorem Ground.Bears.unique (h : (ofInitial initial).run es = some c)
    (hx : c.callers[i]? = some x) (hg : g.Bears (ofInitial initial) es c i x d o)
    (hg' : g'.Bears (ofInitial initial) es c i x d o) : g = g' := by
  cases g with
  | cached v =>
    obtain ⟨hv, hf, -⟩ := hg
    cases g' with
    | cached w => cases hv.symm.trans hg'.1; rfl
    | refresh k => exact (not_isStale_of_fresh hv hf hg'.1.stale).elim
    | loss k => exact (not_isStale_of_fresh hv hf hg'.1).elim
  | refresh k =>
    obtain ⟨ha, -, -⟩ := hg
    cases g' with
    | cached w => exact (not_isStale_of_fresh hg'.1 hg'.2.1 ha.stale).elim
    | refresh k' => cases ha.unique hg'.1; rfl
    | loss k' =>
      obtain ⟨-, hl, hs, hr, -⟩ := hg'
      exact (ha.not_loss h hx hl hs hr).elim
  | loss k =>
    obtain ⟨hv, hl, hs, hr, -⟩ := hg
    cases g' with
    | cached w => exact (not_isStale_of_fresh hg'.1 hg'.2.1 hv).elim
    | refresh k' => exact (hg'.1.not_loss h hx hl hs hr).elim
    | loss k' => cases StartedBy.unique h hx hs hg'.2.2.1; rfl

theorem clocks_concat : clocks (es ++ [e]) = clocks es ++ clocks [e] := List.filterMap_append

theorem clocks_singleton (he : e.caller? = some i) : clocks [e] = [] := by
  cases e <;> first | rfl | cases he

theorem clocks_of_run (h : (ofInitial initial).run es = some c) :
    c.callers.map (fun x => (x.now, x.margin)) = clocks es := by
  refine run_induction (motive := fun es c =>
    c.callers.map (fun x => (x.now, x.margin)) = clocks es) h rfl ?_
  intro es d e c' _ ih hs
  rw [clocks_concat, ← ih]
  cases hs with
  | call => exact List.map_append
  | turn hx ht =>
    rw [clocks_singleton ht.caller?_eq, List.append_nil]
    exact map_set_eq hx rfl
  | @start i x hx =>
    rw [clocks_singleton (i := i) rfl, List.append_nil]
    exact map_set_eq hx rfl
  | store => exact (List.append_nil _).symm
  | announce => exact (List.append_nil _).symm
  | lose => exact (List.append_nil _).symm

structure Justified (initial : Option Credential) (es : List Event) (c : Cache) : Prop where
  ground : ∀ i x o, c.callers[i]? = some x → x.standing = .answered o →
    ∃ d, LastLook (ofInitial initial) es i d ∧
      ∃! g, Ground.Bears (ofInitial initial) es c i x d o g
  clock : ∀ (i : Nat) (x : Caller), c.callers[i]? = some x →
    (clocks es)[i]? = some (x.now, x.margin)
  agree : ∀ i j x y d d' k o o', Ground.Bears (ofInitial initial) es c i x d o (.refresh k) →
    Ground.Bears (ofInitial initial) es c j y d' o' (.refresh k) → o = o'
  told : ∀ i x k o, c.callers[i]? = some x → x.standing = .waiting k →
    c.refreshes[k]? = some (.announced o) →
    ∃ c', c.step (.wake i) = some c' ∧ c'.answer? i = some o
  fresh : ∀ i x c' v, c.callers[i]? = some x → c.step (.look i) = some c' →
    c'.answer? i = some (.ok v) → c.cached = some v ∧ v.needsRefresh x.now x.margin = false

/-- A caller that looks is answered out of the cache only if the credential is fresh for it. -/
theorem Step.fresh_of_look (h : Step c (.look i) c') (hx : c.callers[i]? = some x)
    (ha : c'.answer? i = some (.ok v)) :
    c.cached = some v ∧ v.needsRefresh x.now x.margin = false := by
  obtain ⟨y, hy, hs⟩ := answer?_eq_some_iff.1 ha
  cases h.caller hy with
  | same _ he => exact (he rfl).elim
  | turn hx' ht =>
    cases hx.symm.trans hx'
    cases ht <;> cases hs
    exact ⟨‹_›, ‹_›⟩
  | start => cases hs

/-- In whatever order callers, refreshes and departures happen, each answer is justified. -/
theorem answers_justified (initial : Option Credential) (es : List Event) (c : Cache)
    (h : (ofInitial initial).run es = some c) : Justified initial es c where
  ground i x o hx ho := by
    have he := explained_of_run h i x hx
    rw [ho] at he
    obtain ⟨d, hd, g, hg⟩ := he
    exact ⟨d, hd, g, hg, fun g' hg' => hg'.unique h hx hg⟩
  clock i x hx := by
    rw [← clocks_of_run h, List.getElem?_map, hx]
    rfl
  agree i j x y d d' k o o' hi hj := by
    cases hi.2.1.symm.trans hj.2.1
    rfl
  told i x k o hx hw hk := ⟨_, (Turn.wake hw hk).complete hx, answer?_setCaller hx⟩
  fresh i x c' v hx hs := (step_sound hs).fresh_of_look hx

theorem answers_justified_unluckyRun :
    ∃ c, (ofInitial expiring).run unluckyRun = some c ∧ Justified expiring unluckyRun c :=
  ⟨_, rfl, answers_justified expiring unluckyRun _ rfl⟩

end ClusterAccess.Cache
