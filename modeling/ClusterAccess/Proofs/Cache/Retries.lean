import ClusterAccess.Proofs.Cache.Answers
import Mathlib.Data.List.Nodup
import Mathlib.Data.List.Perm.Subperm

namespace ClusterAccess.Cache

open Time

def Event.isLookOf (i : Nat) : Event → Bool
  | look j => j == i
  | _ => false

def looks (i : Nat) (es : List Event) : Nat := es.countP (Event.isLookOf i)

def start? (i : Nat) (c : Cache) (e : Event) : Option Nat :=
  (c.step e).bind fun c' =>
    if e.isLookOf i && c.refreshes.length < c'.refreshes.length then some c.refreshes.length
    else none

/-- The refresh of which an event tells the caller that waits for it that it is lost. -/
def loss? (i : Nat) (c : Cache) : Event → Option Nat
  | .wake j =>
    if j == i then
      (c.callers[i]?).bind fun x =>
        match x.standing with
        | .waiting k =>
          match c.refreshes[k]? with
          | some .lost => some k
          | _ => none
        | _ => none
    else none
  | _ => none

/-- What the events of a run yield, each by itself and the cache that it happens to. -/
def yields (f : Cache → Event → Option Nat) : Cache → List Event → List Nat
  | _, [] => []
  | c, e :: es => (f c e).toList ++ (c.step e).elim [] fun d => yields f d es

def starts (i : Nat) (c : Cache) (es : List Event) : List Nat := yields (start? i) c es

/-- The refreshes for which a caller waits in vain in a run, in the order in which it is told. -/
def losses (i : Nat) (c : Cache) (es : List Event) : List Nat := yields (loss? i) c es

/-- How often a caller has looked to stand where it stands, when it has been told of `n` losses. -/
def HasLooked (n m : Nat) : Standing → Prop
  | .ready => m = n
  | .gone => m = n ∨ m = n + 1
  | .waiting _ | .answered _ => m = n + 1

/-- What a caller has done in a run agrees with where it stands. -/
structure Counted (c₀ : Cache) (es : List Event) (c : Cache) (i : Nat) (x : Caller) : Prop where
  starts_eq : starts i c₀ es = x.started.toList
  hasLooked : HasLooked (losses i c₀ es).length (looks i es) x.standing
  ascending : (losses i c₀ es).Pairwise (· < ·)
  lost : ∀ k ∈ losses i c₀ es, c.refreshes[k]? = some .lost
  passed : ∀ k, x.standing = .waiting k → ∀ l ∈ losses i c₀ es, l < k
  begun : ∀ k, x.standing = .waiting k → k < c.refreshes.length

structure Uncounted (c₀ : Cache) (es : List Event) (i : Nat) : Prop where
  starts_eq : starts i c₀ es = []
  losses_eq : losses i c₀ es = []
  looks_eq : looks i es = 0

variable {c c' d c₀ : Cache} {e : Event} {es : List Event} {i j k : Nat} {x y : Caller}
  {s : Standing} {r : Refresh} {initial : Option Credential}

theorem Step.refreshes_length_le (h : Step c e c') : c.refreshes.length ≤ c'.refreshes.length := by
  cases h <;> simp [setCaller, Cache.start, Cache.store, setRefresh]

theorem yields_concat {f : Cache → Event → Option Nat} (h : c.run es = some d) :
    yields f c (es ++ [e]) = yields f c es ++ (f d e).toList := by
  induction es generalizing c with
  | nil =>
    obtain rfl := Option.some.inj h
    simp only [List.nil_append, yields]
    cases c.step e <;> simp
  | cons e' es ih =>
    rw [run_cons, Option.bind_eq_some_iff] at h
    obtain ⟨b, hb, h⟩ := h
    simp only [List.cons_append, yields, hb, Option.elim_some, ih h, List.append_assoc]

theorem looks_concat_look : looks i (es ++ [.look i]) = looks i es + 1 := by
  simp [looks, Event.isLookOf]

theorem looks_concat_of_not (he : e.isLookOf i = false) : looks i (es ++ [e]) = looks i es := by
  simp [looks, he]

section

variable (he : e.caller? ≠ some i)

include he

theorem Event.isLookOf_of_ne : e.isLookOf i = false := by
  cases e with
  | look j => exact beq_eq_false_iff_ne.2 fun h => he (congrArg some h)
  | _ => rfl

theorem start?_of_ne : start? i c e = none := by
  simp [start?, Event.isLookOf_of_ne he]

theorem loss?_of_ne : loss? i c e = none := by
  cases e with
  | wake j =>
    have hji : j ≠ i := fun h => he (congrArg some h)
    simp only [loss?, beq_iff_eq, if_neg hji]
  | _ => rfl

theorem starts_concat_of_ne (h : c₀.run es = some c) :
    starts i c₀ (es ++ [e]) = starts i c₀ es := by
  rw [starts, yields_concat h, start?_of_ne he, Option.toList_none, List.append_nil, starts]

theorem losses_concat_of_ne (h : c₀.run es = some c) :
    losses i c₀ (es ++ [e]) = losses i c₀ es := by
  rw [losses, yields_concat h, loss?_of_ne he, Option.toList_none, List.append_nil, losses]

theorem looks_concat_of_ne : looks i (es ++ [e]) = looks i es := by
  rw [looks_concat_of_not (Event.isLookOf_of_ne he)]

theorem Counted.concat_of_ne (hx : Counted c₀ es d i x) (hd : c₀.run es = some d)
    (hs : Step d e c') : Counted c₀ (es ++ [e]) c' i x where
  starts_eq := by rw [starts_concat_of_ne he hd, hx.starts_eq]
  hasLooked := by
    rw [losses_concat_of_ne he hd, looks_concat_of_ne he]
    exact hx.hasLooked
  ascending := by
    rw [losses_concat_of_ne he hd]
    exact hx.ascending
  lost := by
    rw [losses_concat_of_ne he hd]
    exact fun k hk => hs.lost_kept (hx.lost k hk)
  passed := by
    rw [losses_concat_of_ne he hd]
    exact hx.passed
  begun k hk := Nat.lt_of_lt_of_le (hx.begun k hk) hs.refreshes_length_le

theorem Uncounted.concat_of_ne (hx : Uncounted c₀ es i) (hd : c₀.run es = some d) :
    Uncounted c₀ (es ++ [e]) i where
  starts_eq := by rw [starts_concat_of_ne he hd, hx.starts_eq]
  losses_eq := by rw [losses_concat_of_ne he hd, hx.losses_eq]
  looks_eq := by rw [looks_concat_of_ne he, hx.looks_eq]

end

theorem start?_of_turn (hx : c.callers[i]? = some x) (ht : Turn c i x e s) :
    start? i c e = none := by
  have hlength : (c.setCaller i { x with standing := s }).refreshes.length = c.refreshes.length :=
    rfl
  simp only [start?, ht.complete hx, Option.bind_some, hlength, Nat.lt_irrefl, decide_false,
    Bool.and_false, Bool.false_eq_true, if_false]

theorem start?_of_starts (hx : c.callers[i]? = some x) (hr : x.standing = .ready)
    (hs : c.Starts x) : start? i c (.look i) = some c.refreshes.length := by
  have hstep : c.step (.look i) = some (c.start i x) := (Step.start hx hr hs).complete
  simp [start?, hstep, Event.isLookOf, Cache.start]

theorem loss?_retry (hx : c.callers[i]? = some x) (hw : x.standing = .waiting k)
    (hk : c.refreshes[k]? = some .lost) : loss? i c (.wake i) = some k := by
  simp only [loss?, beq_self_eq_true, if_true, hx, Option.bind_some, hw, hk]

theorem loss?_wake {o : Outcome} (hx : c.callers[i]? = some x) (hw : x.standing = .waiting k)
    (hk : c.refreshes[k]? = some (.announced o)) : loss? i c (.wake i) = none := by
  simp only [loss?, beq_self_eq_true, if_true, hx, Option.bind_some, hw, hk]

theorem live?_lt (hl : c.live? = some k) : k < c.refreshes.length := by
  obtain ⟨-, r, hk, -⟩ := live?_eq_some_iff.1 hl
  exact (List.getElem?_eq_some_iff.1 hk).1

/-- A lost refresh was started before the one that is live. -/
theorem Coherent.lt_live (hc : c.Coherent) (hl : c.live? = some k)
    (hj : c.refreshes[j]? = some .lost) : j < k := by
  obtain ⟨hf, r, hk, hr⟩ := live?_eq_some_iff.1 hl
  obtain ⟨hlast, -⟩ := (hc.inFlight_iff k).1 hf
  have hlt := (List.getElem?_eq_some_iff.1 hj).1
  have hne : j ≠ k := by
    rintro rfl
    cases hj.symm.trans hk
    cases hr
  omega

theorem Counted.turn (hx : Counted c₀ es d i x) (hd : c₀.run es = some d) (hc : d.Coherent)
    (hy : d.callers[i]? = some x) (ht : Turn d i x e s) :
    Counted c₀ (es ++ [e]) (d.setCaller i { x with standing := s }) i
      { x with standing := s } := by
  have hlooked := hx.hasLooked
  have hstarts : starts i c₀ (es ++ [e]) = x.started.toList := by
    rw [starts, yields_concat hd, start?_of_turn hy ht, Option.toList_none, List.append_nil]
    exact hx.starts_eq
  -- only a caller that is told of a loss has one more of them
  have hkept (hl : loss? i d e = none) : losses i c₀ (es ++ [e]) = losses i c₀ es := by
    rw [losses, yields_concat hd, hl, Option.toList_none, List.append_nil, losses]
  have hcount (hl : loss? i d e = none)
      (hs : HasLooked (losses i c₀ es).length (looks i (es ++ [e])) s)
      (hp : ∀ k, s = .waiting k → (∀ l ∈ losses i c₀ es, l < k) ∧ k < d.refreshes.length) :
      Counted c₀ (es ++ [e]) (d.setCaller i { x with standing := s }) i
        { x with standing := s } := by
    constructor
    case starts_eq => exact hstarts
    case begun => exact fun k hk => (hp k hk).2
    all_goals rw [hkept hl]
    case hasLooked => exact hs
    case ascending => exact hx.ascending
    case lost => exact hx.lost
    case passed => exact fun k hk => (hp k hk).1
  cases ht with
  | hit hr hv hf =>
    rw [hr] at hlooked
    apply hcount rfl ?_ nofun
    rw [looks_concat_look, hlooked]
    rfl
  | @join k hr hv hk =>
    rw [hr] at hlooked
    apply hcount rfl
    · rw [looks_concat_look, hlooked]
      rfl
    · rintro k' ⟨⟩
      exact ⟨fun l hl => hc.lt_live hk (hx.lost l hl), live?_lt hk⟩
  | refuse hr hv hk hs =>
    rw [hr] at hlooked
    apply hcount rfl ?_ nofun
    rw [looks_concat_look, hlooked]
    rfl
  | wake hw hk =>
    rw [hw] at hlooked
    apply hcount (loss?_wake hy hw hk) ?_ nofun
    rw [looks_concat_of_not rfl]
    exact hlooked
  | @retry k hw hk =>
    rw [hw] at hlooked
    have hlosses : losses i c₀ (es ++ [.wake i]) = losses i c₀ es ++ [k] := by
      rw [losses, yields_concat hd, loss?_retry hy hw hk, losses]
      rfl
    constructor
    case starts_eq => exact hstarts
    case passed => exact nofun
    case begun => exact nofun
    all_goals rw [hlosses]
    case hasLooked =>
      rw [List.length_append, looks_concat_of_not rfl]
      exact hlooked
    case ascending =>
      rw [List.pairwise_append]
      refine ⟨hx.ascending, List.pairwise_singleton _ _, fun l hl m hm => ?_⟩
      obtain rfl := List.mem_singleton.1 hm
      exact hx.passed m hw l hl
    case lost =>
      intro l hl
      rcases List.mem_append.1 hl with hl | hl
      · exact hx.lost l hl
      · obtain rfl := List.mem_singleton.1 hl
        exact hk
  | leave hw =>
    apply hcount rfl ?_ nofun
    rw [looks_concat_of_not rfl]
    rcases hw with hw | ⟨k, hw⟩
    · rw [hw] at hlooked
      exact .inl hlooked
    · rw [hw] at hlooked
      exact .inr hlooked

theorem Counted.start (hx : Counted c₀ es d i x) (hd : c₀.run es = some d)
    (hy : d.callers[i]? = some x) (hr : x.standing = .ready) (hs : d.Starts x) :
    Counted c₀ (es ++ [.look i]) (d.start i x) i
      { x with started := some d.refreshes.length, standing := .waiting d.refreshes.length } := by
  have hlosses : losses i c₀ (es ++ [.look i]) = losses i c₀ es := by
    rw [losses, yields_concat hd]
    exact List.append_nil _
  have hlooked := hx.hasLooked
  rw [hr] at hlooked
  constructor
  case starts_eq =>
    rw [starts, yields_concat hd, start?_of_starts hy hr hs, ← starts, hx.starts_eq, hs.unused]
    rfl
  case begun =>
    rintro k ⟨⟩
    simp [Cache.start]
  all_goals rw [hlosses]
  case hasLooked =>
    rw [looks_concat_look, hlooked]
    rfl
  case ascending => exact hx.ascending
  case lost => exact fun k hk => (Step.start hy hr hs).lost_kept (hx.lost k hk)
  case passed =>
    rintro k ⟨⟩ l hl
    exact (List.getElem?_eq_some_iff.1 (hx.lost l hl)).1

theorem Step.lt_of_caller? (h : Step c e c') (he : e.caller? = some i) : i < c.callers.length := by
  cases h with
  | turn hx ht =>
    cases ht.caller?_eq.symm.trans he
    exact (List.getElem?_eq_some_iff.1 hx).1
  | start hx =>
    cases he
    exact (List.getElem?_eq_some_iff.1 hx).1
  | call => cases he
  | store => cases he
  | announce => cases he
  | lose => cases he

theorem uncounted_of_run (h : (ofInitial initial).run es = some c) :
    ∀ i, c.callers.length ≤ i → Uncounted (ofInitial initial) es i := by
  refine run_induction (motive := fun es c => ∀ i, c.callers.length ≤ i →
    Uncounted (ofInitial initial) es i) h ?_ ?_
  · exact fun i _ => ⟨rfl, rfl, rfl⟩
  · intro es d e c' hd ih hs i hi
    have hle := Nat.le_trans hs.callers_length_le hi
    refine (ih i hle).concat_of_ne (fun he => ?_) hd
    exact Nat.not_lt.2 hle (hs.lt_of_caller? he)

theorem counted_of_run (h : (ofInitial initial).run es = some c) :
    ∀ i x, c.callers[i]? = some x → Counted (ofInitial initial) es c i x := by
  refine run_induction (motive := fun es c => ∀ i x, c.callers[i]? = some x →
    Counted (ofInitial initial) es c i x) h ?_ ?_
  · intro i x hx
    simp [ofInitial] at hx
  · intro es d e c' hd ih hs i x hx
    cases hs.caller hx with
    | same hx he => exact (ih i x hx).concat_of_ne he hd hs
    | turn hy ht => exact (ih i _ hy).turn hd (coherent_of_run hd) hy ht
    | start hy hr hst => exact (ih i _ hy).start hd hy hr hst
    | call now margin hi =>
      have he : (Event.call now margin).caller? ≠ some i := by
        intro h
        cases h
      have hnew := (uncounted_of_run hd i (Nat.le_of_eq hi.symm)).concat_of_ne he hd
      constructor
      case starts_eq => exact hnew.starts_eq
      case begun =>
        intro k hk
        cases hk
      all_goals rw [hnew.losses_eq]
      case hasLooked => exact hnew.looks_eq
      case ascending => exact .nil
      case lost => exact List.forall_mem_nil _
      case passed => exact fun _ _ => List.forall_mem_nil _

/-- As many callers have started a refresh as there are refreshes. -/
theorem starters_of_run (h : (ofInitial initial).run es = some c) :
    c.callers.countP (·.started.isSome) = c.refreshes.length := by
  refine run_induction (motive := fun _ c => c.callers.countP (·.started.isSome) =
    c.refreshes.length) h rfl ?_
  intro es d e c' _ ih hs
  cases hs with
  | call => simpa using ih
  | @turn e i x s hx ht =>
    have hsame := map_set_eq (f := fun x : Caller => x.started.isSome)
      (b := { x with standing := s }) hx rfl
    simpa only [List.countP_map, Function.id_comp, setCaller, ih] using
      congrArg (List.countP id) hsame
  | @start i x hx hr hst =>
    obtain ⟨hi, rfl⟩ := List.getElem?_eq_some_iff.1 hx
    simp [Cache.start, setCaller, List.countP_set hi, hst.unused, ih]
  | store => simpa [Cache.store, setRefresh] using ih
  | announce => simpa [setRefresh] using ih
  | lose => simpa [setRefresh] using ih

theorem length_callers_of_run (h : (ofInitial initial).run es = some c) :
    c.callers.length = (clocks es).length := by
  rw [← clocks_of_run h, List.length_map]

theorem counted_or_uncounted (h : (ofInitial initial).run es = some c) (i : Nat) :
    (∃ x, Counted (ofInitial initial) es c i x) ∨ Uncounted (ofInitial initial) es i := by
  rcases Nat.lt_or_ge i c.callers.length with hi | hi
  · exact .inl ⟨_, counted_of_run h i _ (List.getElem?_eq_getElem hi)⟩
  · exact .inr (uncounted_of_run h i hi)

theorem length_starts_le (h : (ofInitial initial).run es = some c) (i : Nat) :
    (starts i (ofInitial initial) es).length ≤ 1 := by
  rcases counted_or_uncounted h i with ⟨x, hx⟩ | hx
  · rw [hx.starts_eq]
    cases x.started <;> simp
  · simp [hx.starts_eq]

theorem nodup_losses (h : (ofInitial initial).run es = some c) (i : Nat) :
    (losses i (ofInitial initial) es).Nodup := by
  rcases counted_or_uncounted h i with ⟨x, hx⟩ | hx
  · exact hx.ascending.nodup
  · rw [hx.losses_eq]
    exact List.nodup_nil

theorem lost_of_mem_losses (h : (ofInitial initial).run es = some c)
    (hk : k ∈ losses i (ofInitial initial) es) : c.refreshes[k]? = some .lost := by
  rcases counted_or_uncounted h i with ⟨x, hx⟩ | hx
  · exact hx.lost k hk
  · rw [hx.losses_eq] at hk
    cases hk

theorem HasLooked.le {n m : Nat} (h : HasLooked n m s) : m ≤ n + 1 := by
  cases s with
  | ready =>
    rw [HasLooked] at h
    omega
  | gone =>
    rw [HasLooked] at h
    omega
  | waiting => exact Nat.le_of_eq h
  | answered => exact Nat.le_of_eq h

theorem looks_le_losses (h : (ofInitial initial).run es = some c) (i : Nat) :
    looks i es ≤ (losses i (ofInitial initial) es).length + 1 := by
  rcases counted_or_uncounted h i with ⟨x, hx⟩ | hx
  · exact hx.hasLooked.le
  · simp [hx.looks_eq]

/-- Each loss is that of another refresh, and each refresh was started by another caller. -/
theorem length_losses_le (h : (ofInitial initial).run es = some c) (i : Nat) :
    (losses i (ofInitial initial) es).length ≤ (clocks es).length := by
  have hsub : losses i (ofInitial initial) es ⊆ List.range c.refreshes.length := fun k hk =>
    List.mem_range.2 (List.getElem?_eq_some_iff.1 (lost_of_mem_losses h hk)).1
  calc (losses i (ofInitial initial) es).length
      ≤ (List.range c.refreshes.length).length := ((nodup_losses h i).subperm hsub).length_le
    _ = c.callers.countP (·.started.isSome) := by rw [List.length_range, starters_of_run h]
    _ ≤ c.callers.length := List.countP_le_length
    _ = (clocks es).length := length_callers_of_run h

theorem exists_wake (hx : c.callers[i]? = some x) (hw : x.standing = .waiting k)
    (hk : c.refreshes[k]? = some r) (hr : r.isLive = false) : ∃ c', c.step (.wake i) = some c' := by
  cases r with
  | running => cases hr
  | stored => cases hr
  | announced o => exact ⟨_, (Turn.wake hw hk).complete hx⟩
  | lost => exact ⟨_, (Turn.retry hw hk).complete hx⟩

theorem Step.not_waiting_lost (h : Step c (.look i) c') (hk : c.refreshes[k]? = some .lost)
    (hy : c'.callers[i]? = some y) : y.standing ≠ .waiting k := by
  intro hw
  cases h.caller hy with
  | same _ he => exact he rfl
  | turn hx ht =>
    cases ht <;> cases hw
    next hl =>
      obtain ⟨-, r, hr, hlive⟩ := live?_eq_some_iff.1 hl
      cases hk.symm.trans hr
      cases hlive
  | start =>
    cases hw
    exact absurd (List.getElem?_eq_some_iff.1 hk).1 (Nat.lt_irrefl _)

/-- A caller that is to look again has lost the refresh that it has started. -/
theorem lost_of_mem_starts (h : (ofInitial initial).run es = some c)
    (hx : c.callers[i]? = some x) (hr : x.standing = .ready)
    (hk : k ∈ starts i (ofInitial initial) es) :
    x.started = some k ∧ c.refreshes[k]? = some .lost := by
  rw [(counted_of_run h i x hx).starts_eq, Option.mem_toList] at hk
  have hexplained := explained_of_run h i x hx
  rw [hr] at hexplained
  exact ⟨hk, hexplained k (((marked_of_run h).started_iff i k x hx).1 hk)⟩

structure Ends (initial : Option Credential) (es : List Event) (c : Cache) : Prop where
  starts_le : ∀ i, (starts i (ofInitial initial) es).length ≤ 1
  again : ∀ i c', c.step (.look i) = some c' →
    looks i es = (losses i (ofInitial initial) es).length
  nodup : ∀ i, (losses i (ofInitial initial) es).Nodup
  lost : ∀ i, ∀ k ∈ losses i (ofInitial initial) es, c.refreshes[k]? = some .lost
  not_waiting : ∀ i k c' y, c.refreshes[k]? = some .lost → c.step (.look i) = some c' →
    c'.callers[i]? = some y → y.standing ≠ .waiting k
  looks_le : ∀ i, looks i es ≤ (clocks es).length + 1
  told : ∀ i x k, c.callers[i]? = some x → x.standing = .waiting k →
    ∃ r, c.refreshes[k]? = some r ∧ (r.isLive = false → ∃ c', c.step (.wake i) = some c')
  refused : ∀ i x k, c.callers[i]? = some x → x.standing = .ready →
    k ∈ starts i (ofInitial initial) es → c.refreshes[k]? = some .lost ∧
      (c.IsStale x.now x.margin → c.live? = none →
        ∃ c', c.step (.look i) = some c' ∧ c'.answer? i = some (.error lostError))

/-- However events come, no caller waits for ever but for a refresh that is live. -/
theorem waiting_ends (initial : Option Credential) (es : List Event) (c : Cache)
    (h : (ofInitial initial).run es = some c) : Ends initial es c where
  starts_le := length_starts_le h
  again i c' hs := by
    obtain ⟨x, hx, hr⟩ := (step_sound hs).looker
    have hlooked := (counted_of_run h i x hx).hasLooked
    rw [hr] at hlooked
    exact hlooked
  nodup := nodup_losses h
  lost i k := lost_of_mem_losses h
  not_waiting i k c' y hk hs := (step_sound hs).not_waiting_lost hk
  looks_le i := by
    have hle := looks_le_losses h i
    have hn := length_losses_le h i
    omega
  told i x k hx hw := by
    have hlt := (counted_of_run h i x hx).begun k hw
    exact ⟨_, List.getElem?_eq_getElem hlt, exists_wake hx hw (List.getElem?_eq_getElem hlt)⟩
  refused i x k hx hr hk := by
    obtain ⟨hs, hl⟩ := lost_of_mem_starts h hx hr hk
    exact ⟨hl, fun hv hidle =>
      ⟨_, (Turn.refuse hr hv hidle hs).complete hx, answer?_setCaller hx⟩⟩

/-- Two callers, each of whom starts a refresh and waits for that of the other, and all is lost. -/
def vainRun : List Event :=
  let today : Instant := ⟨20000, 0, 0⟩
  let minute := Span.ofSeconds 60
  [.call today minute, .call today minute, .look 0, .look 1, .lose 0, .wake 1, .look 1, .wake 0,
    .look 0, .lose 1, .wake 0, .look 0, .wake 1, .look 1]

/-- The bound is met: of two callers the first looks three times. -/
theorem waiting_ends_vainRun : ∃ c, (ofInitial none).run vainRun = some c ∧
    Ends none vainRun c ∧ (clocks vainRun).length = 2 ∧ looks 0 vainRun = 3 ∧
      losses 0 (ofInitial none) vainRun = [0, 1] ∧ c.answer? 0 = some (.error lostError) :=
  ⟨_, rfl, waiting_ends none vainRun _ rfl, rfl, rfl, rfl, rfl⟩

end ClusterAccess.Cache
