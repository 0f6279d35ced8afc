import ClusterAccess.Proofs.Cache.Answers

namespace ClusterAccess.Cache

variable {initial : Option Credential} {es : List Event} {c c' : Cache} {i : Nat} {o : Outcome}
  {v : Credential} {e : Event} {P : Outcome → Prop}

def Event.Brings (P : Outcome → Prop) : Event → Prop
  | .store _ o => P o
  | _ => True

def FedBy (P : Outcome → Prop) (es : List Event) : Prop := ∀ k o, Event.store k o ∈ es → P o

/-- A cache has come of a run whose refreshes brought nothing but what has a property. -/
def Fed (P : Outcome → Prop) (c : Cache) : Prop :=
  ∃ initial es, (ofInitial initial).run es = some c ∧ FedBy P es

theorem fed_ofInitial (P : Outcome → Prop) (initial : Option Credential) :
    (ofInitial initial).Fed P := ⟨initial, [], rfl, fun _ _ h => absurd h List.not_mem_nil⟩

theorem Fed.step (h : c.Fed P) (hs : c.step e = some c') (he : e.Brings P) : c'.Fed P := by
  obtain ⟨initial, es, hr, hf⟩ := h
  refine ⟨initial, es ++ [e], run_concat.2 ⟨c, hr, step_sound hs⟩, fun k o hm => ?_⟩
  rcases List.mem_append.1 hm with hm | hm
  · exact hf k o hm
  · rw [← List.mem_singleton.1 hm] at he
    exact he

theorem cached_origin (h : (ofInitial initial).run es = some c) (hv : c.cached = some v) :
    initial = some v ∨ ∃ k, Event.store k (.ok v) ∈ es := by
  revert v
  refine run_induction (motive := fun es c => ∀ {v}, c.cached = some v →
    initial = some v ∨ ∃ k, Event.store k (.ok v) ∈ es) h .inl ?_
  intro es d e c' _ ih hs v hv
  have hold (hd : d.cached = some v) :
      initial = some v ∨ ∃ k, Event.store k (.ok v) ∈ es ++ [e] :=
    (ih hd).imp_right fun ⟨k, hk⟩ => ⟨k, List.mem_append_left _ hk⟩
  cases hs with
  | @store k o =>
    cases o with
    | ok w =>
      cases hv
      exact .inr ⟨k, List.mem_append_right _ (List.mem_singleton_self _)⟩
    | error => exact hold hv
  | call => exact hold hv
  | turn => exact hold hv
  | start => exact hold hv
  | announce => exact hold hv
  | lose => exact hold hv

/-- Answers come from the beginning or from a refresh, or tell that one was lost. -/
theorem answer_origin (h : (ofInitial initial).run es = some c) (ha : c.answer? i = some o) :
    (∃ v, initial = some v ∧ o = .ok v) ∨ (∃ k, Event.store k o ∈ es) ∨ o = .error lostError := by
  obtain ⟨x, hx, ho⟩ := answer?_eq_some_iff.1 ha
  have he := explained_of_run h i x hx
  rw [ho] at he
  obtain ⟨d, ⟨before, after, rfl, -, hd⟩, g, hg⟩ := he
  cases g with
  | cached v =>
    obtain ⟨hv, -, rfl⟩ := hg
    rcases cached_origin hd hv with hi | ⟨k, hk⟩
    · exact .inl ⟨v, hi, rfl⟩
    · exact .inr (.inl ⟨k, List.mem_append_left _ hk⟩)
  | refresh k => exact .inr (.inl ⟨k, hg.2.2⟩)
  | loss k => exact .inr (.inr hg.2.2.2.2)

def singleRun (o : Outcome) : List Event :=
  [.call ⟨0, 0, 0⟩ ⟨0⟩, .look 0, .store 0 o, .announce 0, .wake 0]

theorem fedBy_singleRun (h : P o) : FedBy P (singleRun o) := by
  intro k o' hm
  simp only [singleRun, List.mem_cons, List.not_mem_nil, reduceCtorEq, Event.store.injEq, false_or,
    or_false] at hm
  rw [hm.2]
  exact h

theorem run_singleRun (v : Credential) : ∃ c, (ofInitial none).run (singleRun (.ok v)) = some c ∧
    c.cached = some v ∧ c.answer? 0 = some (.ok v) :=
  ⟨_, rfl, rfl, rfl⟩

theorem run_hit {now : Time.Instant} {margin : Time.Span} (hf : v.needsRefresh now margin = false) :
    ∃ c, (ofInitial (some v)).run [.call now margin, .look 0] = some c ∧
      c.answer? 0 = some (.ok v) := by
  let x : Caller := ⟨now, margin, none, .ready⟩
  have hx : (⟨some v, none, [], [x]⟩ : Cache).callers[0]? = some x := rfl
  have hhit : Turn ⟨some v, none, [], [x]⟩ 0 x (.look 0) (.answered (.ok v)) := .hit rfl rfl hf
  rw [run_cons]
  exact ⟨_, run_singleton.trans (hhit.complete hx), answer?_setCaller hx⟩

end ClusterAccess.Cache
