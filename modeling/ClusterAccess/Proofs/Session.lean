import ClusterAccess.Proofs.Cache.Origin
import ClusterAccess.Proofs.Refresh
import ClusterAccess.Simulation.Session

namespace ClusterAccess.Simulation

open Time

def Work.Brings [Library] (P : Outcome → Prop) : Work → Prop
  | .fixed _ outcome => ∀ o, outcome = some o → P o
  | .source s => ∀ o, s.Gives o → P o

namespace World

/-- What the refreshes of a world have brought and are about to bring has a property. -/
structure Fed (P : Outcome → Prop) (w : World) : Prop where
  caches : ∀ c ∈ w.caches, c.Fed P
  pending : ∀ p ∈ w.pending, ∀ o, p.outcome = some o → P o

variable {P : Outcome → Prop} {w w' : World} {e : Cache.Event} {k i : Nat} {x : Waiter}
  {xs : List Waiter} {work : Work} {o : Outcome}

theorem Fed.congr (h : w.Fed P) (hc : w'.caches = w.caches) (hp : w'.pending = w.pending) :
    w'.Fed P where
  caches := hc ▸ h.caches
  pending := hp ▸ h.pending

theorem Fed.happen (h : w.Fed P) (k : Nat) (he : e.Brings P) : (w.happen k e).Fed P := by
  rw [World.happen]
  split
  next c hc =>
    obtain ⟨d, hd, hs⟩ := Option.bind_eq_some_iff.1 hc
    refine ⟨fun c' hc' => ?_, h.pending⟩
    rcases List.mem_or_eq_of_mem_set hc' with hc' | rfl
    · exact h.caches c' hc'
    · exact (h.caches d (List.mem_of_getElem? hd)).step hs he
  next => exact h

/-- It leaves the caches of its world and the refreshes that run as they are. -/
def Job.Prepares {α : Type} (post : α → Prop) (x : OptionT (StateM Job) α) : Prop :=
  ∀ j, (x.run.run j).2.world.caches = j.world.caches ∧
    (x.run.run j).2.world.pending = j.world.pending ∧ ∀ a, (x.run.run j).1 = some a → post a

namespace Job

variable {α β : Type} {post : α → Prop} {post' : β → Prop}

theorem Prepares.pure {a : α} (h : post a) : Prepares post (pure a) := fun _ =>
  ⟨rfl, rfl, fun _ ha => Option.some.inj ha ▸ h⟩

theorem Prepares.bind {x : OptionT (StateM Job) α} {f : α → OptionT (StateM Job) β}
    (hx : Prepares post x) (hf : ∀ a, post a → Prepares post' (f a)) :
    Prepares post' (x >>= f) := fun j => by
  obtain ⟨hc, hp, ha⟩ := hx j
  rw [OptionT.run_bind, Option.elimM, StateT.run_bind]
  generalize x.run.run j = y at hc hp ha
  obtain ⟨_ | a, j'⟩ := y
  · exact ⟨hc, hp, nofun⟩
  · obtain ⟨hc', hp', hb⟩ := hf a (ha a rfl) j'
    exact ⟨hc'.trans hc, hp'.trans hp, hb⟩

theorem prepares_log (e : LogEntry) : Prepares (fun _ => True) (log e) := fun j => by
  obtain ⟨w, delay, entries⟩ := j
  cases delay with
  | none => exact ⟨rfl, rfl, fun _ _ => trivial⟩
  | some d => exact ⟨rfl, rfl, fun _ _ => trivial⟩

theorem prepares_run (i : Invocation) : Prepares (fun _ => True) (run i) := fun j => by
  obtain ⟨⟨clock, caches, pending, script, runs, begun, entries⟩, delay, later⟩ := j
  rcases script with _ | ⟨⟨d, _ | o⟩, rest⟩
  · exact ⟨rfl, rfl, fun _ _ => trivial⟩
  · exact ⟨rfl, rfl, fun _ _ => trivial⟩
  · exact ⟨rfl, rfl, fun _ _ => trivial⟩

theorem prepares_fetch [Library] (s : CredentialSource) :
    Prepares s.Gives (s.fetch run log) := by
  cases h : s.invocation with
  | error e =>
    rw [CredentialSource.fetch_of_error h]
    exact .pure ⟨fun _ => .error .notFound, CredentialSource.outcome_of_error h⟩
  | ok i =>
    rw [CredentialSource.fetch, h]
    refine (prepares_log _).bind fun _ _ => (prepares_run i).bind fun o _ => ?_
    have hend : Prepares s.Gives (Pure.pure (s.conclude i o) : OptionT (StateM Job) Outcome) :=
      .pure ⟨fun _ => o, CredentialSource.outcome_of_invocation h⟩
    cases o with
    | error e => exact hend
    | ok r =>
      dsimp only
      split
      · exact hend
      · exact (prepares_log _).bind fun _ _ => hend

end Job

theorem Fed.note (h : w.Fed P) (entries : List LogEntry) : (w.note entries).Fed P := h.congr rfl rfl

theorem Fed.jump (h : w.Fed P) (t : Nat) : (w.jump t).Fed P := h.congr rfl rfl

theorem Fed.addCache (h : w.Fed P) (initial : Option Credential) :
    (w.addCache (.ofInitial initial)).Fed P where
  caches c hc := by
    rcases List.mem_append.1 hc with hc | hc
    · exact h.caches c hc
    · rw [List.mem_singleton.1 hc]
      exact Cache.fed_ofInitial P initial
  pending := h.pending

theorem Fed.begin [Library] (h : w.Fed P) (hw : work.Brings P) (k i : Nat) :
    (w.begin k i work).Fed P := by
  cases work with
  | fixed delay outcome =>
    refine ⟨h.caches, fun p hp o ho => ?_⟩
    rcases List.mem_append.1 hp with hp | hp
    · exact h.pending p hp o ho
    · rw [List.mem_singleton.1 hp] at ho
      exact hw o ho
  | source s =>
    obtain ⟨hc, hp, ho⟩ := Job.prepares_fetch s
      ⟨{ w with begun := w.begun + 1 }.note [s.beginEntry], none, []⟩
    refine ⟨fun c hm => h.caches c (hc ▸ hm), fun p hm o hpo => ?_⟩
    rcases List.mem_append.1 hm with hm | hm
    · exact h.pending p (hp ▸ hm) o hpo
    · rw [List.mem_singleton.1 hm] at hpo
      exact hw o (ho o hpo)

theorem Fed.turn (h : w.Fed P) (x : Waiter) : (w.turn x).Fed P := by
  have hw : (w.happen x.cache (.wake x.caller)).Fed P := h.happen x.cache trivial
  exact hw.happen x.cache trivial

theorem Fed.turns [Library] (h : w.Fed P) (hx : ∀ x ∈ xs, x.work.Brings P) :
    (w.turns xs).1.Fed P ∧ (∀ x ∈ (w.turns xs).2.1, x ∈ xs) ∧
      ∀ n ∈ (w.turns xs).2.2, n.2.2.Brings P := by
  induction xs generalizing w with
  | nil => exact ⟨h, fun _ hx => hx, List.forall_mem_nil _⟩
  | cons x xs ih =>
    have hxs : ∀ y ∈ xs, y.work.Brings P := fun y hy => hx y (List.mem_cons_of_mem _ hy)
    have hnew : ∀ n ∈ (if w.started x.cache < (w.turn x).started x.cache then
        [(x.cache, w.started x.cache, x.work)] else []), n.2.2.Brings P := by
      split
      · intro n hn
        rw [List.mem_singleton.1 hn]
        exact hx x List.mem_cons_self
      · exact List.forall_mem_nil _
    have happend {works : List (Nat × Nat × Work)} (hw : ∀ n ∈ works, n.2.2.Brings P) :
        ∀ n ∈ (if w.started x.cache < (w.turn x).started x.cache then
          [(x.cache, w.started x.cache, x.work)] else []) ++ works, n.2.2.Brings P :=
      fun n hn => (List.mem_append.1 hn).elim (hnew n) (hw n)
    rw [World.turns]
    dsimp only
    -- a waiter that is answered is logged and leaves, any other goes on waiting
    split
    next o _ =>
      obtain ⟨hf, hm, hw⟩ := ih ((h.turn x).note (x.closing (some o))) hxs
      exact ⟨hf, fun y hy => List.mem_cons_of_mem _ (hm y hy), happend hw⟩
    next =>
      obtain ⟨hf, hm, hw⟩ := ih (h.turn x) hxs
      refine ⟨hf, fun y hy => ?_, happend hw⟩
      rcases List.mem_cons.1 hy with rfl | hy
      · exact List.mem_cons_self
      · exact List.mem_cons_of_mem _ (hm y hy)

theorem Fed.round [Library] (h : w.Fed P) (hx : ∀ x ∈ xs, x.work.Brings P) :
    (w.round xs).1.Fed P ∧ ∀ x ∈ (w.round xs).2, x ∈ xs := by
  obtain ⟨hf, hm, hw⟩ := h.turns hx
  refine ⟨?_, hm⟩
  simp only [World.round]
  generalize (w.turns xs).2.2 = works at hw
  generalize (w.turns xs).1 = w' at hf
  induction works generalizing w' with
  | nil => exact hf
  | cons n works ih =>
    exact ih (fun n hn => hw n (List.mem_cons_of_mem _ hn)) _
      (hf.begin (hw n List.mem_cons_self) n.1 n.2.1)

theorem mem_of_firstPending {ps : List Pending} {p : Pending} (h : firstPending? ps = some p) :
    p ∈ ps := by
  induction ps generalizing p with
  | nil => cases h
  | cons q ps ih =>
    rw [firstPending?] at h
    split at h
    next r hr =>
      split at h
      · cases h
        exact List.mem_cons_of_mem _ (ih hr)
      · cases h
        exact List.mem_cons_self
    next =>
      cases h
      exact List.mem_cons_self

theorem Fed.finish (h : w.Fed P) {p : Pending} (hp : p ∈ w.pending) : (w.finish p).Fed P := by
  have h' : ({ w with pending := w.pending.eraseP fun q =>
      q.cache == p.cache && q.refresh == p.refresh }).Fed P :=
    ⟨h.caches, fun q hq => h.pending q (List.mem_of_mem_eraseP hq)⟩
  have hend := (h'.jump p.due).note p.entries
  rw [World.finish]
  split
  next o ho =>
    have hs := hend.happen (e := .store p.refresh o) p.cache (h.pending p hp o ho)
    exact hs.happen p.cache trivial
  next => exact hend.happen p.cache trivial

theorem Fed.giveUp (h : w.Fed P) (x : Waiter) (t : Nat) : (w.giveUp x t).Fed P := by
  have hl := (h.jump t).happen (e := .leave x.caller) x.cache trivial
  exact hl.note _

theorem Fed.await [Library] (fuel : Nat) (h : w.Fed P) (hx : ∀ x ∈ xs, x.work.Brings P) :
    (World.await fuel w xs).Fed P := by
  induction fuel generalizing w xs with
  | zero => exact h
  | succ fuel ih =>
    have hfinish {p : Pending} (hp : firstPending? w.pending = some p) :
        (World.await fuel ((w.finish p).round xs).1 ((w.finish p).round xs).2).Fed P := by
      obtain ⟨hf, hm⟩ := (h.finish (mem_of_firstPending hp)).round hx
      exact ih hf fun y hy => hx y (hm y hy)
    have hleave (x : Waiter) (d : Nat) :
        (World.await fuel (w.giveUp x d) (xs.filter (·.caller != x.caller))).Fed P :=
      ih (h.giveUp x d) fun y hy => hx y (List.mem_of_mem_filter hy)
    rw [World.await]
    split
    · exact h
    · split
      next => exact h
      next p hp _ => exact hfinish hp
      next x d _ _ => exact hleave x d
      next p x d hp _ =>
        split
        · exact hleave x d
        · exact hfinish hp

theorem Fed.call (h : w.Fed P) (cache : Nat) (now : Instant) (margin : Span) :
    (w.call cache now margin).1.Fed P :=
  h.happen cache trivial

theorem Fed.wait [Library] (h : w.Fed P) (hx : ∀ x ∈ xs, x.work.Brings P) :
    (w.wait xs).Fed P := by
  obtain ⟨hf, hm⟩ := h.round hx
  exact hf.await _ fun y hy => hx y (hm y hy)

theorem Fed.calls (h : w.Fed P) (cache : Nat) (now : Instant) (margin : Span) (callers : Nat) :
    (World.calls cache now margin callers w).1.Fed P := by
  induction callers generalizing w with
  | zero => exact h
  | succ callers ih => exact ih (h.call cache now margin)

/-- Those who ask are answered by a cache that the refreshes of the world have fed. -/
theorem Fed.ask [Library] (h : w.Fed P) (hw : work.Brings P) (cache callers : Nat)
    (now : Instant)
    (margin : Span) (patience : Option Nat) (closing : Option Outcome → List LogEntry) :
    (w.ask cache callers now margin patience work closing).1.Fed P ∧
      ∀ o, some o ∈ (w.ask cache callers now margin patience work closing).2 →
        ∃ c : Cache, c.Fed P ∧ ∃ i, c.answer? i = some o := by
  have hf := h.calls cache now margin callers
  rw [World.ask]
  generalize World.calls cache now margin callers w = called at hf ⊢
  obtain ⟨w, numbers⟩ := called
  dsimp only at hf ⊢
  have hx : ∀ x ∈ numbers.map fun n =>
      (⟨cache, n, patience.map (w.clock + ·), work, closing⟩ : Waiter), x.work.Brings P := by
    intro x hx
    obtain ⟨n, -, rfl⟩ := List.mem_map.1 hx
    exact hw
  refine ⟨hf.wait hx, fun o ho => ?_⟩
  obtain ⟨x, -, ha⟩ := List.mem_map.1 ho
  obtain ⟨c, hc, ha⟩ := Option.bind_eq_some_iff.1 ha
  exact ⟨c, (hf.wait hx).caches c (List.mem_of_getElem? hc), x.caller, ha⟩

theorem Fed.advance (h : w.Fed P) (millis : Nat) : (w.advance millis).Fed P := by
  have hfinish (t fuel : Nat) : ∀ {w : World}, w.Fed P → (finishBefore t fuel w).Fed P := by
    induction fuel with
    | zero => exact id
    | succ fuel ih =>
      intro w h
      rw [finishBefore]
      split
      next p hp =>
        split
        · exact ih (h.finish (mem_of_firstPending hp))
        · exact h
      next => exact h
  exact (hfinish _ _ h).jump _

end World

namespace Session

variable [Library]

/-- The sessions that connections, questions and the course of time lead to. -/
inductive Reachable : Session → Prop where
  | start (script : List ScriptedRun) (today : Instant) : Reachable (.ofScript script today)
  | connect {s s' : Session} (h : Reachable s) (o : Options) (hc : s.connect o = .ok s') :
    Reachable s'
  | ask {s : Session} (h : Reachable s) (c : Connection) (callers : Nat) (p : Purpose) :
    Reachable (s.ask c callers p).1
  | advance {s : Session} (h : Reachable s) (millis : Nat) : Reachable (s.advance millis)

/-- A refresh by some source can come to an outcome. -/
def Genuine (o : Outcome) : Prop := ∃ source : CredentialSource, source.Gives o

variable {s s' : Session}

theorem fed_add (h : s.world.Fed Genuine) (o : Options) : (s.add o).world.Fed Genuine := by
  rw [Session.add]
  split
  · exact h.addCache _
  · exact h

theorem fed_ask (h : s.world.Fed Genuine) (c : Connection) (callers : Nat) (p : Purpose) :
    (s.ask c callers p).1.world.Fed Genuine ∧ ∀ r ∈ (s.ask c callers p).2,
      ∃ answer, r = p.result c.options answer ∧ ∀ o, answer = some o →
        ∃ d : Cache, d.Fed Genuine ∧ ∃ i, d.answer? i = some o := by
  rw [Session.ask]
  dsimp only
  split
  next k r _ _ =>
    have hw : (Work.source r.source).Brings Genuine := fun o ho => ⟨r.source, ho⟩
    obtain ⟨hf, ha⟩ := h.ask hw k callers (p.now s.today) r.margin
      (if p.isPatient then none else some c.options.credentialWait) (p.closing c.options)
    refine ⟨hf, fun r hr => ?_⟩
    obtain ⟨answer, hm, rfl⟩ := List.mem_map.1 hr
    exact ⟨answer, rfl, fun o ho => ha o (ho ▸ hm)⟩
  next =>
    exact ⟨h.note _, fun r hr => ⟨none, List.eq_of_mem_replicate hr, nofun⟩⟩

theorem Reachable.fed (h : Reachable s) : s.world.Fed Genuine := by
  induction h with
  | start => exact ⟨List.forall_mem_nil _, List.forall_mem_nil _⟩
  | connect _ o hc ih =>
    obtain ⟨-, -, rfl⟩ := Except.map_eq_ok_iff.1 hc
    exact fed_add ih o
  | ask _ c callers p ih => exact (fed_ask ih c callers p).1
  | advance _ millis ih => exact ih.advance millis

end Session

end ClusterAccess.Simulation
