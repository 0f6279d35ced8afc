import ClusterAccess.Proofs.Secrecy.Cache
import ClusterAccess.Proofs.Secrecy.Output
import Mathlib.Data.List.Forall2

namespace ClusterAccess.Simulation

open Time

structure ScriptedRun.Alike (s : CredentialSource) (r r' : ScriptedRun) : Prop where
  delay : r'.delay = r.delay
  outcome : Option.Rel s.EndsAlike r.outcome r'.outcome

def Pending.veil (p : Pending) : Pending := { p with outcome := p.outcome.map Outcome.veil }

theorem Pending.due_eq_of_veil {p p' : Pending} (h : p'.veil = p.veil) : p'.due = p.due := by
  have hveil (p : Pending) : p.veil.due = p.due := rfl
  rw [← hveil, h, hveil]

theorem Pending.veil_ofRun [Library] {s s' : CredentialSource} {i i' : Invocation}
    {r r' : ScriptedRun}
    (hs : s.Resembles s') (hi : i.Alike i') (hr : ScriptedRun.Alike s r r') (k n clock : Nat) :
    (ofRun s' i' k n clock r').veil = (ofRun s i k n clock r).veil := by
  obtain ⟨delay, outcome⟩ := r
  obtain ⟨delay', outcome'⟩ := r'
  obtain ⟨rfl, houtcome⟩ := hr
  cases houtcome with
  | none => rfl
  | some ho =>
    have hveil := hs.conclude_veil hi ho
    simp only [ofRun, veil, Option.elim_some, Option.map_some, Option.toList_some,
      hs.failureEntries_eq hi ho, hs.endEntry_eq hveil, hveil]

/-- Worlds that differ only in secrets, with runs to come that are related. -/
structure World.Same (R : ScriptedRun → ScriptedRun → Prop) (w w' : World) : Prop where
  clock : w'.clock = w.clock
  caches : w'.caches.map Cache.veil = w.caches.map Cache.veil
  pending : w'.pending.map Pending.veil = w.pending.map Pending.veil
  script : List.Forall₂ R w.script w'.script
  log : w'.log = w.log

def SameAnswer : Option Outcome → Option Outcome → Prop := Option.Rel fun o o' => o'.veil = o.veil

structure Waiter.Same (s s' : CredentialSource) (x x' : Waiter) : Prop where
  cache : x'.cache = x.cache
  caller : x'.caller = x.caller
  deadline : x'.deadline = x.deadline
  work : x.work = .source s
  work' : x'.work = .source s'
  closing : ∀ a a', SameAnswer a a' → x'.closing a' = x.closing a

namespace World

variable {R : ScriptedRun → ScriptedRun → Prop} {s s' : CredentialSource} {w w' : World}
  {p p' : Pending} {x x' : Waiter} {xs xs' : List Waiter}

theorem Same.note (h : w.Same R w') (entries : List LogEntry) :
    (w.note entries).Same R (w'.note entries) where
  clock := h.clock
  caches := h.caches
  pending := h.pending
  script := h.script
  log := congrArg (· ++ entries) h.log

theorem Same.jump (h : w.Same R w') (t : Nat) : (w.jump t).Same R (w'.jump t) where
  clock := congrArg (max · t) h.clock
  caches := h.caches
  pending := h.pending
  script := h.script
  log := h.log

theorem Same.addCache (h : w.Same R w') {c c' : Cache} (hc : c'.veil = c.veil) :
    (w.addCache c).Same R (w'.addCache c') where
  clock := h.clock
  caches := by rw [World.addCache, World.addCache, List.map_append, List.map_append, h.caches,
    List.map_cons, List.map_cons, hc, List.map_nil]
  pending := h.pending
  script := h.script
  log := h.log

theorem Same.cache (h : w.Same R w') (k : Nat) :
    (w'.caches[k]?).map Cache.veil = (w.caches[k]?).map Cache.veil := by
  rw [← List.getElem?_map, ← List.getElem?_map, h.caches]

theorem Same.cache_eq {α : Type} (h : w.Same R w') (k : Nat) {f : Cache → α}
    (hf : ∀ c, f c.veil = f c) : (w'.caches[k]?).map f = (w.caches[k]?).map f := by
  have hveil (o : Option Cache) : o.map f = (o.map Cache.veil).map f := by
    rw [Option.map_map]
    exact congrArg (o.map ·) (funext fun c => (hf c).symm)
  rw [hveil, h.cache, ← hveil]

theorem Same.happen (h : w.Same R w') (k : Nat) {e e' : Cache.Event} (he : e'.veil = e.veil) :
    (w.happen k e).Same R (w'.happen k e') := by
  have hstep (w : World) (e : Cache.Event) : ((w.caches[k]?).bind (·.step e)).map Cache.veil =
      ((w.caches[k]?).map Cache.veil).bind (·.step e.veil) := by
    cases w.caches[k]? with
    | none => rfl
    | some c => exact (c.step_veil e).symm
  have hsame : Option.Rel (fun c c' => c'.veil = c.veil) ((w.caches[k]?).bind (·.step e))
      ((w'.caches[k]?).bind (·.step e')) := by
    apply rel_of_map_eq
    rw [hstep, hstep, h.cache, he]
  rw [World.happen, World.happen]
  generalize (w.caches[k]?).bind (·.step e) = c at hsame
  generalize (w'.caches[k]?).bind (·.step e') = c' at hsame
  cases hsame with
  | none => exact h
  | some hc =>
    refine ⟨h.clock, ?_, h.pending, h.script, h.log⟩
    rw [List.map_set, List.map_set, h.caches, hc]

theorem Same.happen_same (h : w.Same R w') (k : Nat) (e : Cache.Event) :
    (w.happen k e).Same R (w'.happen k e) := h.happen k rfl

theorem Same.started_eq (h : w.Same R w') (k : Nat) : w'.started k = w.started k := by
  have hlength := h.cache_eq (f := fun c => c.refreshes.length) k fun c => List.length_map _
  rw [World.started, World.started, hlength]

theorem Same.answer? (h : w.Same R w') (hx : Waiter.Same s s' x x') :
    SameAnswer (w.answer? x) (w'.answer? x') := by
  have hanswer (w : World) (k i : Nat) : ((w.caches[k]?).bind (·.answer? i)).map Outcome.veil =
      ((w.caches[k]?).map Cache.veil).bind (·.answer? i) := by
    cases w.caches[k]? with
    | none => rfl
    | some c => exact (c.answer?_veil i).symm
  apply rel_of_map_eq
  rw [World.answer?, World.answer?, hanswer, hanswer, hx.cache, hx.caller, h.cache]

theorem Same.nextRun (h : w.Same (ScriptedRun.Alike s) w') :
    ScriptedRun.Alike s (World.nextRun w.script) (World.nextRun w'.script) := by
  have hscript := h.script
  generalize w.script = script at hscript ⊢
  generalize w'.script = script' at hscript ⊢
  cases hscript with
  | nil => exact ⟨rfl, .some (.unlaunched _)⟩
  | cons hr => exact hr

theorem Same.pending_length (h : w.Same R w') : w'.pending.length = w.pending.length := by
  simpa only [List.length_map] using congrArg List.length h.pending

theorem pending_append_eq (h : w.Same R w') (hp : p'.veil = p.veil) :
    (w'.pending ++ [p']).map Pending.veil = (w.pending ++ [p]).map Pending.veil := by
  rw [List.map_append, List.map_append, h.pending, List.map_cons, List.map_cons, hp, List.map_nil]

theorem Same.begin [Library] (h : w.Same (ScriptedRun.Alike s) w') (hs : s.Resembles s')
    (k n : Nat) :
    (w.begin k n (.source s)).Same (ScriptedRun.Alike s) (w'.begin k n (.source s')) := by
  have hinvocation := hs.invocation
  generalize hi : s.invocation = i at hinvocation
  generalize hi' : s'.invocation = i' at hinvocation
  cases hinvocation with
  | @error e e' he =>
    subst he
    have hend : s'.endEntry (.error e) = s.endEntry (.error e) := hs.endEntry_eq rfl
    rw [begin_of_error hi, begin_of_error hi']
    refine ⟨h.clock, h.caches, pending_append_eq h ?_, h.script, ?_⟩
    · rw [h.clock, hend]
    · exact congrArg₂ (· ++ [·]) h.log hs.beginEntry_eq
  | ok hsame =>
    rw [begin_of_invocation hi, begin_of_invocation hi']
    refine ⟨h.clock, h.caches, pending_append_eq h ?_, ?_, ?_⟩
    · rw [h.clock]
      exact Pending.veil_ofRun hs hsame h.nextRun k n w.clock
    · have hscript := h.script
      generalize w.script = script at hscript ⊢
      generalize w'.script = script' at hscript ⊢
      cases hscript with
      | nil => exact .nil
      | cons _ hrest => exact hrest
    · dsimp only
      rw [h.log, hs.beginEntry_eq, hs.startEntry_eq hsame]

theorem Same.turn (h : w.Same R w') (hx : Waiter.Same s s' x x') :
    (w.turn x).Same R (w'.turn x') := by
  have hwake := h.happen_same x.cache (.wake x.caller)
  rw [World.turn, World.turn, hx.cache, hx.caller]
  exact hwake.happen_same x.cache (.look x.caller)

/-- A refresh of one cache that begins in both worlds. -/
inductive SameStart (s s' : CredentialSource) : Nat × Nat × Work → Nat × Nat × Work → Prop where
  | intro (k n : Nat) : SameStart s s' (k, n, .source s) (k, n, .source s')

theorem Same.turns (h : w.Same R w') (hx : List.Forall₂ (Waiter.Same s s') xs xs') :
    (w.turns xs).1.Same R (w'.turns xs').1 ∧
      List.Forall₂ (Waiter.Same s s') (w.turns xs).2.1 (w'.turns xs').2.1 ∧
      List.Forall₂ (SameStart s s') (w.turns xs).2.2 (w'.turns xs').2.2 := by
  induction hx generalizing w w' with
  | nil => exact ⟨h, .nil, .nil⟩
  | @cons x x' xs xs' hx _ ih =>
    have hturn := h.turn hx
    have hnew : List.Forall₂ (SameStart s s')
        (if w.started x.cache < (w.turn x).started x.cache then
          [(x.cache, w.started x.cache, x.work)] else [])
        (if w'.started x'.cache < (w'.turn x').started x'.cache then
          [(x'.cache, w'.started x'.cache, x'.work)] else []) := by
      rw [hx.cache, h.started_eq, hturn.started_eq, hx.work, hx.work']
      split
      · exact .cons (.intro _ _) .nil
      · exact .nil
    have hanswer := hturn.answer? hx
    rw [World.turns, World.turns]
    dsimp only
    -- a waiter that is answered is logged and leaves, any other goes on waiting
    generalize (w.turn x).answer? x = a at hanswer
    generalize (w'.turn x').answer? x' = a' at hanswer
    cases hanswer with
    | @some o o' ho =>
      have hclosing := hx.closing (some o) (some o') (.some ho)
      dsimp only
      rw [hclosing]
      obtain ⟨hw, hwaiting, hworks⟩ := ih (hturn.note (x.closing (some o)))
      exact ⟨hw, hwaiting, List.rel_append hnew hworks⟩
    | none =>
      obtain ⟨hw, hwaiting, hworks⟩ := ih hturn
      exact ⟨hw, .cons hx hwaiting, List.rel_append hnew hworks⟩

theorem Same.round [Library] (h : w.Same (ScriptedRun.Alike s) w') (hs : s.Resembles s')
    (hx : List.Forall₂ (Waiter.Same s s') xs xs') :
    (w.round xs).1.Same (ScriptedRun.Alike s) (w'.round xs').1 ∧
      List.Forall₂ (Waiter.Same s s') (w.round xs).2 (w'.round xs').2 := by
  obtain ⟨hw, hwaiting, hworks⟩ := h.turns hx
  refine ⟨?_, hwaiting⟩
  simp only [World.round]
  generalize (w.turns xs).2.2 = works at hworks
  generalize (w'.turns xs').2.2 = works' at hworks
  generalize (w.turns xs).1 = v at hw
  generalize (w'.turns xs').1 = v' at hw
  induction hworks generalizing v v' with
  | nil => exact hw
  | cons hn _ ih =>
    obtain ⟨k, n⟩ := hn
    exact ih _ _ (hw.begin hs k n)

theorem firstPending?_veil (ps : List Pending) :
    firstPending? (ps.map Pending.veil) = (firstPending? ps).map Pending.veil := by
  induction ps with
  | nil => rfl
  | cons p ps ih =>
    simp only [List.map_cons, firstPending?, ih]
    cases firstPending? ps with
    | none => rfl
    | some q =>
      have hdue (p : Pending) : p.veil.due = p.due := rfl
      simp only [Option.map_some, hdue]
      split <;> rfl

theorem Same.firstPending? (h : w.Same R w') :
    Option.Rel (fun p p' => p'.veil = p.veil) (World.firstPending? w.pending)
      (World.firstPending? w'.pending) := by
  apply rel_of_map_eq
  rw [← firstPending?_veil, ← firstPending?_veil, h.pending]

theorem Same.finish (h : w.Same R w') (hp : p'.veil = p.veil) :
    (w.finish p).Same R (w'.finish p') := by
  obtain ⟨k, n, due, entries, outcome⟩ := p
  obtain ⟨k', n', due', entries', outcome'⟩ := p'
  obtain ⟨rfl, rfl, rfl, rfl, houtcome⟩ := Pending.mk.inj hp
  have hrest : ({ w with pending := w.pending.eraseP fun q =>
      q.cache == k' && q.refresh == n' } : World).Same R
      { w' with pending := w'.pending.eraseP fun q => q.cache == k' && q.refresh == n' } := by
    refine ⟨h.clock, h.caches, ?_, h.script, h.log⟩
    have herase (ps : List Pending) : (ps.eraseP fun q => q.cache == k' && q.refresh == n').map
        Pending.veil = (ps.map Pending.veil).eraseP fun q => q.cache == k' && q.refresh == n' := by
      rw [List.eraseP_map]
      rfl
    rw [herase, herase, h.pending]
  have hend := (hrest.jump due').note entries'
  cases rel_of_map_eq houtcome with
  | none => exact hend.happen_same k' (.lose n')
  | @some o o' ho =>
    have hstored : (Cache.Event.store n' o').veil = (Cache.Event.store n' o).veil := by
      rw [Cache.Event.veil, Cache.Event.veil, ho]
    exact (hend.happen k' hstored).happen_same k' (.announce n')

theorem Same.giveUp (h : w.Same R w') (hx : Waiter.Same s s' x x') (t : Nat) :
    (w.giveUp x t).Same R (w'.giveUp x' t) := by
  have hleave := (h.jump t).happen_same x.cache (.leave x.caller)
  rw [World.giveUp, World.giveUp, hx.cache, hx.caller, hx.closing none none .none]
  exact hleave.note _

theorem firstDeadline?_same (hx : List.Forall₂ (Waiter.Same s s') xs xs') :
    Option.Rel (fun y y' : Waiter × Nat => Waiter.Same s s' y.1 y'.1 ∧ y'.2 = y.2)
      (firstDeadline? xs) (firstDeadline? xs') := by
  induction hx with
  | nil => exact .none
  | @cons x x' xs xs' hx _ ih =>
    rw [firstDeadline?, firstDeadline?, hx.deadline]
    generalize firstDeadline? xs = first at ih
    generalize firstDeadline? xs' = first' at ih
    cases x.deadline with
    | none => cases ih with
      | none => exact .none
      | some hy => exact .some hy
    | some d =>
      cases ih with
      | none => exact .some ⟨hx, rfl⟩
      | @some y y' hy =>
        obtain ⟨y, e⟩ := y
        obtain ⟨y', e'⟩ := y'
        obtain ⟨hy, rfl⟩ : _ ∧ e' = e := hy
        dsimp only
        split
        · exact .some ⟨hy, rfl⟩
        · exact .some ⟨hx, rfl⟩

theorem Same.await [Library] (fuel : Nat) (h : w.Same (ScriptedRun.Alike s) w')
    (hs : s.Resembles s') (hx : List.Forall₂ (Waiter.Same s s') xs xs') :
    (World.await fuel w xs).Same (ScriptedRun.Alike s) (World.await fuel w' xs') := by
  induction fuel generalizing w w' xs xs' with
  | zero => exact h
  | succ fuel ih =>
    have hfinish {p p' : Pending} (hp : p'.veil = p.veil) :
        (World.await fuel ((w.finish p).round xs).1 ((w.finish p).round xs).2).Same
          (ScriptedRun.Alike s)
          (World.await fuel ((w'.finish p').round xs').1 ((w'.finish p').round xs').2) := by
      obtain ⟨hw, hwaiting⟩ := (h.finish hp).round hs hx
      exact ih hw hwaiting
    have hleave {x x' : Waiter} (hy : Waiter.Same s s' x x') (d : Nat) :
        (World.await fuel (w.giveUp x d) (xs.filter (·.caller != x.caller))).Same
          (ScriptedRun.Alike s)
          (World.await fuel (w'.giveUp x' d) (xs'.filter (·.caller != x'.caller))) := by
      refine ih (h.giveUp hy d) (List.rel_filter (fun z z' hz => ?_) hx)
      change (z.caller != x.caller) = true ↔ (z'.caller != x'.caller) = true
      rw [hz.caller, hy.caller]
    have hempty : xs'.isEmpty = xs.isEmpty := by cases hx <;> rfl
    have hpending := h.firstPending?
    have hdeadline := firstDeadline?_same hx
    rw [World.await, World.await, hempty]
    split
    · exact h
    · generalize World.firstPending? w.pending = next at hpending
      generalize World.firstPending? w'.pending = next' at hpending
      generalize firstDeadline? xs = first at hdeadline
      generalize firstDeadline? xs' = first' at hdeadline
      cases hdeadline with
      | none =>
        cases hpending with
        | none => exact h
        | some hp => exact hfinish hp
      | @some y y' hy =>
        obtain ⟨y, d⟩ := y
        obtain ⟨y', d'⟩ := y'
        obtain ⟨hy, rfl⟩ : _ ∧ d' = d := hy
        cases hpending with
        | none => exact hleave hy d'
        | some hp =>
          dsimp only
          rw [Pending.due_eq_of_veil hp]
          split
          · exact hleave hy d'
          · exact hfinish hp

theorem Same.wait [Library] (h : w.Same (ScriptedRun.Alike s) w') (hs : s.Resembles s')
    (hx : List.Forall₂ (Waiter.Same s s') xs xs') :
    (w.wait xs).Same (ScriptedRun.Alike s) (w'.wait xs') := by
  obtain ⟨hw, hwaiting⟩ := h.round hs hx
  rw [World.wait, World.wait]
  dsimp only
  rw [hw.pending_length, ← hwaiting.length_eq]
  exact hw.await _ hs hwaiting

theorem Same.call (h : w.Same R w') (k : Nat) (now : Instant) (margin : Span) :
    (w.call k now margin).1.Same R (w'.call k now margin).1 ∧
      (w'.call k now margin).2 = (w.call k now margin).2 := by
  have hlength := h.cache_eq (f := fun c => c.callers.length) k fun c => List.length_map _
  exact ⟨h.happen_same k (.call now margin), congrArg (·.getD 0) hlength⟩

theorem Same.calls (h : w.Same R w') (k : Nat) (now : Instant) (margin : Span) (callers : Nat) :
    (World.calls k now margin callers w).1.Same R (World.calls k now margin callers w').1 ∧
      (World.calls k now margin callers w').2 = (World.calls k now margin callers w).2 := by
  induction callers generalizing w w' with
  | zero => exact ⟨h, rfl⟩
  | succ callers ih =>
    obtain ⟨hw, hnumber⟩ := h.call k now margin
    obtain ⟨hcalls, hnumbers⟩ := ih hw
    exact ⟨hcalls, congrArg₂ List.cons hnumber hnumbers⟩

theorem Same.ask [Library] (h : w.Same (ScriptedRun.Alike s) w') (hs : s.Resembles s')
    (k callers : Nat) (now : Instant) (margin : Span) (patience : Option Nat)
    {closing closing' : Option Outcome → List LogEntry}
    (hc : ∀ a a', SameAnswer a a' → closing' a' = closing a) :
    (w.ask k callers now margin patience (.source s) closing).1.Same (ScriptedRun.Alike s)
        (w'.ask k callers now margin patience (.source s') closing').1 ∧
      List.Forall₂ SameAnswer
        (w.ask k callers now margin patience (.source s) closing).2
        (w'.ask k callers now margin patience (.source s') closing').2 := by
  obtain ⟨hw, hnumbers⟩ := h.calls k now margin callers
  rw [World.ask, World.ask]
  generalize World.calls k now margin callers w = called at hw hnumbers
  generalize World.calls k now margin callers w' = called' at hw hnumbers
  obtain ⟨v, numbers⟩ := called
  obtain ⟨v', numbers'⟩ := called'
  dsimp only at hw hnumbers ⊢
  subst hnumbers
  have hx : List.Forall₂ (Waiter.Same s s')
      (numbers'.map fun n => (⟨k, n, patience.map (v.clock + ·), .source s, closing⟩ : Waiter))
      (numbers'.map fun n =>
        (⟨k, n, patience.map (v'.clock + ·), .source s', closing'⟩ : Waiter)) := by
    rw [hw.clock]
    induction numbers' with
    | nil => exact .nil
    | cons n numbers ih => exact .cons ⟨rfl, rfl, rfl, rfl, rfl, hc⟩ ih
  have hwait := hw.wait hs hx
  exact ⟨hwait, List.rel_map (fun _ _ hy => hwait.answer? hy) hx⟩

theorem Same.finishBefore (h : w.Same R w') (t fuel : Nat) :
    (World.finishBefore t fuel w).Same R (World.finishBefore t fuel w') := by
  induction fuel generalizing w w' with
  | zero => exact h
  | succ fuel ih =>
    have hpending := h.firstPending?
    rw [World.finishBefore, World.finishBefore]
    generalize World.firstPending? w.pending = next at hpending
    generalize World.firstPending? w'.pending = next' at hpending
    cases hpending with
    | none => exact h
    | some hp =>
      dsimp only
      rw [Pending.due_eq_of_veil hp]
      split
      · exact ih (h.finish hp)
      · exact h

theorem Same.advance (h : w.Same R w') (millis : Nat) :
    (w.advance millis).Same R (w'.advance millis) := by
  rw [World.advance, World.advance, h.clock, h.pending_length]
  exact (h.finishBefore _ _).jump _

end World

end ClusterAccess.Simulation
