import ClusterAccess.Cache.Family
import ClusterAccess.Crypto.Keys
import ClusterAccess.Proofs.Cache.SingleFlight
import ClusterAccess.Proofs.Except
import ClusterAccess.Simulation.Session
import Mathlib.Data.List.Nodup

namespace ClusterAccess

def Simulation.Session.family (s : Simulation.Session) : Family :=
  ⟨s.world.caches, s.connections.filterMap (·.cache)⟩

namespace Family

open Cache (expiring)
open Time Simulation

/-- No two holders share a cell. -/
structure Separate (f : Family) : Prop where
  nodup : f.holders.Nodup
  lt_length : ∀ n ∈ f.holders, n < f.cells.length

/-- What happens to the cache of a holder in a row of events. -/
def own (k : Nat) (es : List Event) : List Cache.Event :=
  es.filterMap fun
    | .act j e => if j = k then some e else none
    | .clone _ => none

inductive Step (f : Family) : Event → Family → Prop where
  | act {k n c e c'} (hn : f.holders[k]? = some n) (hc : f.cells[n]? = some c)
    (hs : c.step e = some c') : Step f (.act k e) { f with cells := f.cells.set n c' }
  | clone {k c} (hc : f.cache? k = some c) :
    Step f (.clone k) ⟨f.cells ++ [c.snapshot], f.holders ++ [f.cells.length]⟩

variable {f f' g : Family} {e : Event} {es fs : List Event} {ce : Cache.Event}
  {ces : List Cache.Event} {c c' d : Cache} {i j k n : Nat} {initial : Option Credential}

theorem step_eq_some_iff : f.step e = some f' ↔ Step f e f' := by
  constructor
  · intro h
    cases e with
    | act k ce =>
      obtain ⟨n, hn, hk⟩ := Option.bind_eq_some_iff.1 h
      obtain ⟨c', hn', rfl⟩ := Option.map_eq_some_iff.1 hk
      obtain ⟨c, hc, hs⟩ := Option.bind_eq_some_iff.1 hn'
      exact .act hn hc hs
    | clone k =>
      obtain ⟨c, hc, rfl⟩ := Option.map_eq_some_iff.1 h
      exact .clone hc
  · intro h
    cases h with
    | act hn hc hs => simp only [step, hn, hc, hs, Option.bind_some, Option.map_some]
    | clone hc => simp only [step, hc, Option.map_some]

theorem cache?_eq_some_iff :
    f.cache? k = some c ↔ ∃ n, f.holders[k]? = some n ∧ f.cells[n]? = some c :=
  Option.bind_eq_some_iff

theorem lt_of_cache? (h : f.cache? k = some c) : k < f.holders.length := by
  obtain ⟨n, hn, -⟩ := cache?_eq_some_iff.1 h
  exact (List.getElem?_eq_some_iff.1 hn).1

theorem Separate.exists_cache (hf : f.Separate) (hk : k < f.holders.length) :
    ∃ c, f.cache? k = some c := by
  have hn := List.getElem?_eq_getElem hk
  have hlt := hf.lt_length _ (List.mem_of_getElem? hn)
  exact ⟨_, cache?_eq_some_iff.2 ⟨_, hn, List.getElem?_eq_getElem hlt⟩⟩

theorem separate_ofInitial (initial : Option Credential) : (ofInitial initial).Separate where
  nodup := List.nodup_singleton 0
  lt_length n hn := by
    rw [List.mem_singleton.1 hn]
    exact Nat.zero_lt_one

theorem Separate.step (hf : f.Separate) (h : Step f e f') : f'.Separate := by
  cases h with
  | act hn hc hs =>
    refine ⟨hf.nodup, fun n hn => ?_⟩
    rw [List.length_set]
    exact hf.lt_length n hn
  | clone hc =>
    constructor
    · -- the new cell lies beyond those that are held
      refine hf.nodup.append (List.nodup_singleton _) fun n hn hm => ?_
      have hlt := hf.lt_length n hn
      have heq := List.mem_singleton.1 hm
      omega
    · intro n hn
      rw [List.length_append, List.length_singleton]
      rcases List.mem_append.1 hn with hn | hn
      · have hlt := hf.lt_length n hn
        omega
      · have heq := List.mem_singleton.1 hn
        omega

theorem cache?_set_self (hn : f.holders[k]? = some n) (hc : f.cells[n]? = some c) :
    ({ f with cells := f.cells.set n c' } : Family).cache? k = some c' :=
  cache?_eq_some_iff.2 ⟨n, hn, List.getElem?_set_self (List.getElem?_eq_some_iff.1 hc).1⟩

theorem Separate.cache?_set_of_ne (hf : f.Separate) (hn : f.holders[j]? = some n) (hjk : j ≠ k) :
    ({ f with cells := f.cells.set n c' } : Family).cache? k = f.cache? k := by
  simp only [cache?]
  cases hm : f.holders[k]? with
  | none => rfl
  | some m =>
    have hnm : n ≠ m := by
      rintro rfl
      obtain ⟨hj, hn⟩ := List.getElem?_eq_some_iff.1 hn
      obtain ⟨hk, hm⟩ := List.getElem?_eq_some_iff.1 hm
      exact hjk ((List.Nodup.getElem_inj_iff hf.nodup).1 (hn.trans hm.symm))
    exact List.getElem?_set_ne hnm

theorem cache?_clone_self (c : Cache) :
    (⟨f.cells ++ [c], f.holders ++ [f.cells.length]⟩ : Family).cache? f.holders.length = some c :=
  cache?_eq_some_iff.2 ⟨_, List.getElem?_concat_length, List.getElem?_concat_length⟩

theorem cache?_clone_of_some (hc : f.cache? k = some c) (d : Cache) :
    (⟨f.cells ++ [d], f.holders ++ [f.cells.length]⟩ : Family).cache? k = some c := by
  obtain ⟨n, hn, hc⟩ := cache?_eq_some_iff.1 hc
  refine cache?_eq_some_iff.2 ⟨n, ?_, ?_⟩
  · rw [List.getElem?_append_left (List.getElem?_eq_some_iff.1 hn).1, hn]
  · rw [List.getElem?_append_left (List.getElem?_eq_some_iff.1 hc).1, hc]

/-- What happens to one leaves the others as they are. -/
theorem Separate.frame (hf : f.Separate) (h : Step f (.act j ce) f') (hjk : j ≠ k) :
    f'.cache? k = f.cache? k := by
  cases h with
  | act hn hc hs => exact hf.cache?_set_of_ne hn hjk

theorem own_append : own k (es ++ fs) = own k es ++ own k fs := List.filterMap_append

theorem own_act_self : own k [.act k ce] = [ce] := by
  simp [own]

theorem own_act_of_ne (hjk : j ≠ k) : own k [.act j ce] = [] := by
  simp [own, hjk]

theorem run_append : f.run (es ++ fs) = (f.run es).bind fun g => g.run fs := List.foldlM_append

theorem run_cons : f.run (e :: es) = (f.step e).bind fun g => g.run es := List.foldlM_cons

theorem run_concat : f.run (es ++ [e]) = some f' ↔ ∃ g, f.run es = some g ∧ Step g e f' := by
  have hone (g : Family) : g.run [e] = g.step e := by
    rw [run_cons]
    exact Option.bind_fun_some _
  simp only [run_append, Option.bind_eq_some_iff, hone, step_eq_some_iff]

theorem Separate.run (hf : f.Separate) (h : f.run es = some f') : f'.Separate := by
  induction es using List.reverseRecOn generalizing f' with
  | nil =>
    cases h
    exact hf
  | append_singleton es e ih =>
    obtain ⟨g, hg, hs⟩ := run_concat.1 h
    exact (ih hg).step hs

theorem Separate.own_step (hf : f.Separate) (h : Step f e f') (hc : f.cache? k = some c) :
    ∃ c', f'.cache? k = some c' ∧ c.run (own k [e]) = some c' := by
  cases h with
  | @act j n d ce d' hn hd hs =>
    by_cases hjk : j = k
    · subst j
      cases hc.symm.trans (cache?_eq_some_iff.2 ⟨n, hn, hd⟩)
      refine ⟨d', cache?_set_self hn hd, ?_⟩
      rw [own_act_self, Cache.run_singleton, hs]
    · refine ⟨c, (hf.cache?_set_of_ne hn hjk).trans hc, ?_⟩
      rw [own_act_of_ne hjk]
      rfl
  | clone hd => exact ⟨c, cache?_clone_of_some hc _, rfl⟩

/-- What a run makes of a cache is what its own events make of it alone. -/
theorem Separate.own_run (hf : f.Separate) (h : f.run es = some f') (hc : f.cache? k = some c) :
    ∃ c', f'.cache? k = some c' ∧ c.run (own k es) = some c' := by
  induction es using List.reverseRecOn generalizing f' with
  | nil =>
    cases h
    exact ⟨c, hc, rfl⟩
  | append_singleton es e ih =>
    obtain ⟨g, hg, hs⟩ := run_concat.1 h
    obtain ⟨d, hd, hcd⟩ := ih hg
    obtain ⟨c', hc', hdc⟩ := (hf.run hg).own_step hs hd
    refine ⟨c', hc', ?_⟩
    rw [own_append, Cache.run_append, hcd]
    exact hdc

theorem step_act (hc : f.cache? k = some c) :
    (f.step (.act k ce)).bind (·.cache? k) = c.step ce := by
  obtain ⟨n, hn, hc⟩ := cache?_eq_some_iff.1 hc
  cases hs : c.step ce with
  | none => simp only [step, hn, hc, hs, Option.bind_some, Option.map_none, Option.bind_none]
  | some c' =>
    rw [step_eq_some_iff.2 (.act hn hc hs)]
    exact cache?_set_self hn hc

theorem Separate.run_act (hf : f.Separate) (hc : f.cache? k = some c)
    (h : c.run ces = some c') : ∃ f', f.run (ces.map (.act k)) = some f' ∧
      f'.cache? k = some c' ∧ ∀ j, j ≠ k → f'.cache? j = f.cache? j := by
  induction ces generalizing f c with
  | nil =>
    cases h
    exact ⟨f, rfl, hc, fun _ _ => rfl⟩
  | cons ce ces ih =>
    rw [Cache.run_cons] at h
    obtain ⟨d, hd, h⟩ := Option.bind_eq_some_iff.1 h
    rw [← step_act hc] at hd
    obtain ⟨g, hg, hd⟩ := Option.bind_eq_some_iff.1 hd
    have hs := step_eq_some_iff.1 hg
    obtain ⟨f', hf', hc', hother⟩ := ih (hf.step hs) hd h
    refine ⟨f', ?_, hc', fun j hj => (hother j hj).trans (hf.frame hs hj.symm)⟩
    rw [List.map_cons, run_cons, hg]
    exact hf'

/-- By its own events, since the beginning or since the holder was cloned. -/
inductive Origin (initial : Option Credential) (es : List Event) : Nat → Cache → Prop where
  | first {c : Cache} (h : (Cache.ofInitial initial).run (own 0 es) = some c) : Origin initial es 0 c
  | clone {j : Nat} (before after : List Event) {g : Family} {d c : Cache}
    (he : es = before ++ .clone j :: after)
    (hg : (ofInitial initial).run before = some g) (hd : g.cache? j = some d)
    (h : (Cache.ofInitial d.cached).run (own g.holders.length after) = some c) :
    Origin initial es g.holders.length c

theorem Origin.step (ho : Origin initial es k c) (h : c.run (own k [e]) = some c') :
    Origin initial (es ++ [e]) k c' := by
  cases ho with
  | first ho =>
    refine .first ?_
    rw [own_append, Cache.run_append, ho]
    exact h
  | @clone j before after g d _ he hg hd ho =>
    refine .clone before (after ++ [e]) (by rw [he]; simp) hg hd ?_
    rw [own_append, Cache.run_append, ho]
    exact h

theorem origin_of_run (h : (ofInitial initial).run es = some f) (hc : f.cache? k = some c) :
    Origin initial es k c := by
  induction es using List.reverseRecOn generalizing f k c with
  | nil =>
    cases h
    have hk : k = 0 := by
      have hlt := lt_of_cache? hc
      simp only [ofInitial, List.length_singleton] at hlt
      omega
    subst k
    cases hc
    exact .first rfl
  | append_singleton es e ih =>
    obtain ⟨g, hg, hs⟩ := run_concat.1 h
    have hsep := (separate_ofInitial initial).run hg
    have hold (hk : k < g.holders.length) : Origin initial (es ++ [e]) k c := by
      obtain ⟨d, hd⟩ := hsep.exists_cache hk
      obtain ⟨c', hc', hdc⟩ := hsep.own_step hs hd
      cases hc.symm.trans hc'
      exact (ih hg hd).step hdc
    have hlt := lt_of_cache? hc
    cases hs with
    | act hn hd hs => exact hold hlt
    | @clone j d hd =>
      by_cases hk : k < g.holders.length
      · exact hold hk
      · have hk : k = g.holders.length := by
          simp only [List.length_append, List.length_singleton] at hlt
          omega
        subst k
        rw [cache?_clone_self] at hc
        cases hc
        exact .clone es [] rfl hg hd rfl

theorem Origin.coherent (ho : Origin initial es k c) : c.Coherent := by
  cases ho with
  | first ho => exact Cache.coherent_of_run ho
  | clone before after he hg hd ho => exact Cache.coherent_of_run ho

theorem exists_running {now : Instant} {margin : Span} (hl : c.live? = none)
    (hs : c.IsStale now margin) :
    ∃ ces c', ∃ i : Nat, c.run ces = some c' ∧ c'.refreshes[i]? = some .running := by
  let x : Caller := ⟨now, margin, none, .ready⟩
  let d : Cache := { c with callers := c.callers ++ [x] }
  have hx : d.callers[c.callers.length]? = some x := List.getElem?_concat_length
  have hstart : Cache.Step d (.look c.callers.length) (d.start c.callers.length x) :=
    .start hx rfl ⟨hs, hl, rfl⟩
  refine ⟨[.call now margin, .look c.callers.length], d.start c.callers.length x,
    c.refreshes.length, ?_, List.getElem?_concat_length⟩
  rw [Cache.run_cons]
  exact Cache.run_singleton.trans hstart.complete

/-- Holders in any number can come to refresh at once. -/
theorem Separate.exists_all_running (hf : f.Separate) {ks : List Nat} (hks : ks.Nodup)
    (hstale : ∀ k ∈ ks, ∃ c now margin,
      f.cache? k = some c ∧ c.live? = none ∧ c.IsStale now margin) :
    ∃ fs f', f.run fs = some f' ∧
      (∀ k ∈ ks, ∃ c, ∃ i : Nat, f'.cache? k = some c ∧ c.refreshes[i]? = some .running) ∧
        ∀ j, j ∉ ks → f'.cache? j = f.cache? j := by
  induction ks generalizing f with
  | nil => exact ⟨[], f, rfl, List.forall_mem_nil _, fun _ _ => rfl⟩
  | cons k ks ih =>
    obtain ⟨hk, hks⟩ := List.nodup_cons.1 hks
    obtain ⟨⟨c, now, margin, hc, hl, hs⟩, hstale⟩ := List.forall_mem_cons.1 hstale
    obtain ⟨ces, c', i, hr, hi⟩ := exists_running hl hs
    obtain ⟨g, hg, hc', hother⟩ := hf.run_act hc hr
    have hstale' : ∀ j ∈ ks, ∃ c now margin,
        g.cache? j = some c ∧ c.live? = none ∧ c.IsStale now margin := by
      intro j hj
      obtain ⟨d, now, margin, hd, h⟩ := hstale j hj
      have hjk : j ≠ k := fun h => hk (h ▸ hj)
      exact ⟨d, now, margin, (hother j hjk).trans hd, h⟩
    obtain ⟨fs, f', hf', hrun, hkeep⟩ := ih (hf.run hg) hks hstale'
    refine ⟨ces.map (.act k) ++ fs, f', ?_, ?_, ?_⟩
    · rw [run_append, hg]
      exact hf'
    · rw [List.forall_mem_cons]
      exact ⟨⟨c', i, (hkeep k hk).trans hc', hi⟩, hrun⟩
    · intro j hj
      obtain ⟨hjk, hjs⟩ := List.ne_and_not_mem_of_not_mem_cons hj
      exact (hkeep j hjs).trans (hother j hjk)

theorem family_happen {s : Session} (hn : s.family.holders[k]? = some n) (ce : Cache.Event) :
    ({ s with world := s.world.happen n ce } : Session).family =
      (s.family.step (.act k ce)).getD s.family := by
  simp only [step, hn, Option.bind_some, World.happen]
  cases hs : (s.world.caches[n]?).bind (·.step ce) with
  | none =>
    have hs' : (s.family.cells[n]?).bind (·.step ce) = none := hs
    rw [hs']
    rfl
  | some c =>
    have hs' : (s.family.cells[n]?).bind (·.step ce) = some c := hs
    rw [hs']
    rfl

theorem family_clone [Library] {s s' : Session} {x : Connection} {r : Renewable}
    (hs : s.family.Separate) (hn : s.family.holders[k]? = some n) (hx : x.cache = some n)
    (hr : x.options.strategy = .renewable r) (h : s.clone x = .ok s') :
    s.family.step (.clone k) = some s'.family := by
  obtain ⟨-, -, rfl⟩ := Except.map_eq_ok_iff.1 h
  obtain ⟨c, hc⟩ := hs.exists_cache (List.getElem?_eq_some_iff.1 hn).1
  obtain ⟨m, hm, hcm⟩ := cache?_eq_some_iff.1 hc
  cases hn.symm.trans hm
  have hcached : s.world.cached? n = c.cached := by
    have hcm' : s.world.caches[n]? = some c := hcm
    rw [World.cached?, hcm', Option.bind_some]
  have hadd : (s.add (s.options x)).family =
      ⟨s.family.cells ++ [c.snapshot], s.family.holders ++ [s.family.cells.length]⟩ := by
    simp only [Session.options, hx, hr, Session.add, Session.family, World.addCache, hcached,
      List.filterMap_append, List.filterMap_cons, List.filterMap_nil, Cache.snapshot]
  rw [hadd]
  exact step_eq_some_iff.2 (.clone hc)

structure Independent [Library] (initial : Option Credential) (es : List Event) (f : Family) :
    Prop where
  clone : ∀ k c, f.cache? k = some c → ∃ f', f.step (.clone k) = some f' ∧
    f'.cache? f.holders.length = some ⟨c.cached, none, [], []⟩ ∧
      ∀ j d, f.cache? j = some d → f'.cache? j = some d
  origin : ∀ k c, f.cache? k = some c → Origin initial es k c
  alone : ∀ k c, f.cache? k = some c → ∀ fs f', f.run fs = some f' →
    ∃ c', f'.cache? k = some c' ∧ c.run (own k fs) = some c'
  act : ∀ k c e, f.cache? k = some c → (f.step (.act k e)).bind (·.cache? k) = c.step e
  frame : ∀ j k e f', f.step (.act j e) = some f' → j ≠ k → f'.cache? k = f.cache? k
  single : ∀ k c, f.cache? k = some c → ∀ i j : Nat, c.refreshes[i]? = some .running →
    c.refreshes[j]? = some .running → i = j
  together : ∀ ks : List Nat, ks.Nodup → (∀ k ∈ ks, ∃ c now margin,
    f.cache? k = some c ∧ c.live? = none ∧ c.IsStale now margin) → ∃ fs f', f.run fs = some f' ∧
      ∀ k ∈ ks, ∃ c, ∃ i : Nat, f'.cache? k = some c ∧ c.refreshes[i]? = some .running
  sessions : ∀ (s : Session) k n, s.family.Separate → s.family.holders[k]? = some n →
    (∀ e, ({ s with world := s.world.happen n e } : Session).family =
      (s.family.step (.act k e)).getD s.family) ∧
    ∀ x r s', x.cache = some n → x.options.strategy = .renewable r → s.clone x = .ok s' →
      s.family.step (.clone k) = some s'.family

/-- However caches are cloned and things happen to them, they do not depend on each other. -/
theorem clones_independent [Library] (initial : Option Credential) (es : List Event) (f : Family)
    (h : (ofInitial initial).run es = some f) : Independent initial es f := by
  have hf := (separate_ofInitial initial).run h
  constructor
  · intro k c hc
    exact ⟨_, step_eq_some_iff.2 (.clone hc), cache?_clone_self _,
      fun j d hd => cache?_clone_of_some hd _⟩
  · exact fun k c hc => origin_of_run h hc
  · exact fun k c hc fs f' hr => hf.own_run hr hc
  · exact fun k c e hc => step_act hc
  · exact fun j k e f' hs hjk => hf.frame (step_eq_some_iff.1 hs) hjk
  · intro k c hc i j hi hj
    have hco := (origin_of_run h hc).coherent
    have hli := hco.running_last i hi
    have hlj := hco.running_last j hj
    omega
  · intro ks hks hstale
    obtain ⟨fs, f', hr, hrun, -⟩ := hf.exists_all_running hks hstale
    exact ⟨fs, f', hr, hrun⟩
  · exact fun s k n hs hn => ⟨family_happen hn, fun x r s' hx hr hc => family_clone hs hn hx hr hc⟩

/-- The refresh of the original fills it, and the one that the clone starts is lost. -/
def clonedWhileRefreshing : List Event :=
  let today : Instant := ⟨20000, 0, 0⟩
  let minute := Span.ofSeconds 60
  [.act 0 (.call today minute), .act 0 (.look 0), .clone 0, .act 1 (.call today minute),
    .act 1 (.look 0), .act 0 (.store 0 (.ok (.bearer "second" none))), .clone 0,
    .act 1 (.lose 0), .act 0 (.announce 0), .act 0 (.wake 0)]

theorem clones_independent_clonedWhileRefreshing :
    ∃ f, (ofInitial expiring).run clonedWhileRefreshing = some f ∧
      Independent expiring clonedWhileRefreshing f :=
  ⟨_, rfl, clones_independent expiring clonedWhileRefreshing _ rfl⟩

end Family

end ClusterAccess
