import ClusterAccess.Proofs.Cache.Step
import Mathlib.Data.List.Basic
import Mathlib.Data.List.Induction

namespace ClusterAccess.Cache

open Time

variable {c c' d : Cache} {e : Event} {es fs : List Event} {i k : Nat} {r : Refresh}
  {o : Outcome}

theorem run_append : c.run (es ++ fs) = (c.run es).bind fun d => d.run fs := List.foldlM_append

theorem run_cons : c.run (e :: es) = (c.step e).bind fun d => d.run es := List.foldlM_cons

theorem run_singleton : c.run [e] = c.step e := by
  rw [run_cons]
  exact Option.bind_fun_some _

theorem run_concat : c.run (es ++ [e]) = some c' ↔ ∃ d, c.run es = some d ∧ Step d e c' := by
  simp only [run_append, Option.bind_eq_some_iff, run_singleton, step_eq_some_iff]

theorem run_induction {motive : List Event → Cache → Prop} (h : c.run es = some c')
    (nil : motive [] c)
    (concat : ∀ {es d e c'}, c.run es = some d → motive es d → Step d e c' →
      motive (es ++ [e]) c') : motive es c' := by
  induction es using List.reverseRecOn generalizing c' with
  | nil => cases h; exact nil
  | append_singleton es e ih =>
    obtain ⟨d, hd, hs⟩ := run_concat.1 h
    exact concat hd (ih hd) hs

theorem run_invariant {P : Cache → Prop} (hP : ∀ {c e c'}, P c → Step c e c' → P c') (hc : P c)
    (h : c.run es = some c') : P c' :=
  run_induction (motive := fun _ c => P c) h hc fun _ hd hs => hP hd hs

def Happened (c : Cache) (es : List Event) (e : Event) (d : Cache) : Prop :=
  ∃ before after, es = before ++ e :: after ∧ c.run before = some d

theorem happened_nil : ¬ Happened c [] e d := by
  rintro ⟨before, after, h, _⟩
  simp at h

theorem happened_concat {e' : Event} :
    Happened c (es ++ [e']) e d ↔ Happened c es e d ∨ (e' = e ∧ c.run es = some d) := by
  constructor
  · rintro ⟨before, after, h, hd⟩
    rcases List.eq_nil_or_concat' after with rfl | ⟨after, f, rfl⟩
    · obtain ⟨rfl, he⟩ := List.append_inj' h rfl
      exact .inr ⟨List.singleton_inj.1 he, hd⟩
    · rw [← List.cons_append, ← List.append_assoc] at h
      exact .inl ⟨before, after, (List.append_inj' h rfl).1, hd⟩
  · rintro (⟨before, after, rfl, hd⟩ | ⟨rfl, hd⟩)
    · exact ⟨before, after ++ [e'], by simp, hd⟩
    · exact ⟨es, [], rfl, hd⟩

/-- In a run a caller has looked at a cache, and has not looked since. -/
def LastLook (c : Cache) (es : List Event) (i : Nat) (d : Cache) : Prop :=
  ∃ before after, es = before ++ .look i :: after ∧ Event.look i ∉ after ∧ c.run before = some d

theorem lastLook_look (h : c.run es = some d) : LastLook c (es ++ [.look i]) i d :=
  ⟨es, [], rfl, List.not_mem_nil, h⟩

theorem LastLook.concat (h : LastLook c es i d) (he : e ≠ .look i) :
    LastLook c (es ++ [e]) i d := by
  obtain ⟨before, after, rfl, hi, hd⟩ := h
  refine ⟨before, after ++ [e], by simp, ?_, hd⟩
  simp only [List.mem_append, List.mem_singleton, hi, false_or]
  exact he.symm

def StartedBy (c : Cache) (es : List Event) (i k : Nat) : Prop :=
  ∃ d d', Happened c es (.look i) d ∧ d.step (.look i) = some d' ∧ d.refreshes.length = k ∧
    d'.refreshes = d.refreshes ++ [.running]

theorem startedBy_concat (hd : c.run es = some d) (hs : Step d e c') :
    StartedBy c (es ++ [e]) i k ↔ StartedBy c es i k ∨
      (e = .look i ∧ d.refreshes.length = k ∧ c'.refreshes = d.refreshes ++ [.running]) := by
  constructor
  · rintro ⟨b, b', hb, hs', hk, hr⟩
    rcases happened_concat.1 hb with hb' | ⟨rfl, hb'⟩
    · exact .inl ⟨b, b', hb', hs', hk, hr⟩
    · cases hd.symm.trans hb'
      cases hs.complete.symm.trans hs'
      exact .inr ⟨rfl, hk, hr⟩
  · rintro (⟨b, b', hb, hs', hk, hr⟩ | ⟨rfl, hk, hr⟩)
    · exact ⟨b, b', happened_concat.2 (.inl hb), hs', hk, hr⟩
    · exact ⟨d, c', happened_concat.2 (.inr ⟨rfl, hd⟩), hs.complete, hk, hr⟩

theorem startedBy_concat_of_ne (he : e ≠ .look i) :
    StartedBy c (es ++ [e]) i k ↔ StartedBy c es i k := by
  simp only [StartedBy, happened_concat, he, false_and, or_false]

theorem startedBy_concat_of_eq (hd : c.run es = some d) (hs : Step d e c')
    (hr : c'.refreshes = d.refreshes) :
    StartedBy c (es ++ [e]) i k ↔ StartedBy c es i k := by
  simp [startedBy_concat hd hs, hr]

theorem StartedBy.concat (h : StartedBy c es i k) : StartedBy c (es ++ [e]) i k := by
  obtain ⟨d, d', hd, h⟩ := h
  exact ⟨d, d', happened_concat.2 (.inl hd), h⟩

/-- An outcome that a refresh has brought to the cache is the one that it ended with in the run. -/
theorem store_mem_of_run {initial : Option Credential} (h : (ofInitial initial).run es = some c)
    (hk : c.refreshes[k]? = some r) (ho : r.outcome? = some o) : .store k o ∈ es := by
  refine run_induction (motive := fun es c => ∀ r, c.refreshes[k]? = some r →
    r.outcome? = some o → .store k o ∈ es) h ?_ ?_ r hk ho
  · intro r hk
    simp [ofInitial] at hk
  · intro es d e c' _ ih hs r hk ho
    rcases hs.refresh hk with ⟨r₀, hk₀, ha⟩ | rfl
    · cases ha with
      | same => exact List.mem_append_left _ (ih _ hk₀ ho)
      | store =>
        cases ho
        exact List.mem_append_right _ (List.mem_singleton.2 rfl)
      | announce => exact List.mem_append_left _ (ih _ hk₀ ho)
      | lose => cases ho
    · cases ho

def expiring : Option Credential := some (.bearer "first" (some ⟨20000, 30, 0⟩))

/-- Two callers share a refresh that is lost; the one that started it is refused. -/
def unluckyRun : List Event :=
  let today : Instant := ⟨20000, 0, 0⟩
  let tomorrow : Instant := ⟨20001, 0, 0⟩
  let minute := Span.ofSeconds 60
  [.call today minute, .call today minute, .look 0, .look 1, .lose 0, .wake 0, .look 0,
    .call today minute, .look 2, .wake 1, .look 1,
    .store 1 (.ok (.bearer "second" (some tomorrow))), .call today minute, .look 3, .announce 1,
    .wake 2, .wake 1, .call tomorrow minute, .call tomorrow minute, .look 4, .look 5, .leave 4,
    .store 2 (.error (.badCommandOutput "no token")), .announce 2, .wake 5]

end ClusterAccess.Cache
