import ClusterAccess.Proofs.Secrecy.World
import ClusterAccess.Simulation.Session

namespace ClusterAccess

open Simulation Time

/-- Runs that differ only in secrets; if the options have no command, in anything. -/
def Options.RunsAlike (o : Options) : ScriptedRun → ScriptedRun → Prop :=
  match o.strategy with
  | .renewable r => ScriptedRun.Alike r.source
  | _ => fun _ _ => True

theorem Options.runsAlike_of_renewable {o : Options} {r : Renewable}
    (h : o.strategy = .renewable r) : o.RunsAlike = ScriptedRun.Alike r.source := by
  simp only [RunsAlike, h]

namespace Options.Resembles

variable {o o' : Options}

theorem currentCredential (h : o.Resembles o') {a a' : Option Outcome} (ha : SameAnswer a a') :
    Except.Rel Eq (fun c c' : Option Credential => c'.map Credential.veil = c.map Credential.veil)
      (o.currentCredential a) (o'.currentCredential a') := by
  rcases h.strategy.renewable_or_fixed with ⟨r, r', hr, hr', -⟩ | ⟨c, c', hf, hf', hc⟩
  · rw [currentCredential_of_renewable hr, currentCredential_of_renewable hr']
    cases ha with
    | none => exact .error h.waitError_eq.symm
    | some hx =>
      cases Outcome.rel_of_veil hx with
      | error he => exact .error (congrArg Error.asRefreshFailure he)
      | ok hc => exact .ok (congrArg some hc)
  · rw [currentCredential_of_fixed hf, currentCredential_of_fixed hf']
    exact .ok hc

theorem entries_eq (h : o.Resembles o') (p : Purpose) {c c' : Option Credential}
    (hc : c'.map Credential.veil = c.map Credential.veil) : p.entries o' c' = p.entries o c := by
  cases p with
  | request | authenticate => exact h.authenticationEntries_eq hc
  | handshake => exact h.handshakeEntries_eq hc
  | resolve | current | apply => rfl

theorem closing_eq (h : o.Resembles o') (p : Purpose) {a a' : Option Outcome}
    (ha : SameAnswer a a') : p.closing o' a' = p.closing o a := by
  cases ha with
  | none => exact congrArg ([·]) h.waitEntry_eq
  | some hx =>
    cases Outcome.rel_of_veil hx with
    | error => rfl
    | ok hc => exact h.entries_eq p (congrArg some hc)

end Options.Resembles

namespace Simulation

structure Connection.Resembles (c c' : Connection) : Prop where
  options : c.options.Resembles c'.options
  cache : c'.cache = c.cache
  kept : ∀ r, c.options.strategy = .renewable r → ∃ k, c.cache = some k

/-- `date` is the time of day that what follows is done at. -/
inductive Operation where
  | ask (callers : Nat) (p : Purpose)
  | advance (millis : Nat)
  | date (today : Instant)

namespace Session

def perform [Library] (t : Session) (c : Connection) : Operation → Session
  | .ask callers p => (t.ask c callers p).1
  | .advance millis => t.advance millis
  | .date today => { t with today }

structure Same (R : ScriptedRun → ScriptedRun → Prop) (t t' : Session) : Prop where
  world : t.world.Same R t'.world
  today : t'.today = t.today

variable {t t' : Session} {c c' : Connection}

theorem ask_of_renewable [Library] {k : Nat} {r : Renewable} (hk : c.cache = some k)
    (hr : c.options.strategy = .renewable r) (t : Session) (callers : Nat) (p : Purpose) :
    t.ask c callers p =
      let asked := t.world.ask k callers (p.now t.today) r.margin
        (if p.isPatient then none else some c.options.credentialWait) (.source r.source)
        (p.closing c.options)
      ({ t with world := asked.1 }, asked.2.map (p.result c.options ·)) := by
  simp only [ask, hk, hr]

theorem ask_of_fixed [Library] {credential : Option Credential}
    (hf : c.options.strategy.fixedCredential? = some credential) (t : Session) (callers : Nat)
    (p : Purpose) :
    t.ask c callers p =
      ({ t with
          world := t.world.note (List.replicate callers (p.entries c.options credential)).flatten },
        List.replicate callers (p.result c.options none)) := by
  rw [ask]
  cases hst : c.options.strategy with
  | renewable r => rw [hst] at hf; cases hf
  | _ => cases c.cache <;> simp only [← hst, hf, Option.getD_some]

inductive SameResult (p : Purpose) (o o' : Options) :
    Except Error Shown → Except Error Shown → Prop where
  | intro {a a' : Option Outcome} (ha : SameAnswer a a') :
    SameResult p o o' (p.result o a) (p.result o' a')

theorem Same.ask [Library] (h : t.Same c.options.RunsAlike t') (hc : c.Resembles c')
    (callers : Nat) (p : Purpose) :
    (t.ask c callers p).1.Same c.options.RunsAlike (t'.ask c' callers p).1 ∧
      List.Forall₂ (SameResult p c.options c'.options) (t.ask c callers p).2
        (t'.ask c' callers p).2 := by
  obtain ⟨ho, hcache, hkept⟩ := hc
  rcases ho.strategy.renewable_or_fixed with ⟨r, r', hr, hr', hs, hm, -⟩ | ⟨x, x', hf, hf', hx⟩
  · obtain ⟨k, hk⟩ := hkept r hr
    have hworld : t.world.Same (ScriptedRun.Alike r.source) t'.world := by
      rw [← Options.runsAlike_of_renewable hr]
      exact h.world
    obtain ⟨hw, ha⟩ := hworld.ask hs k callers (p.now t.today) r.margin
      (if p.isPatient then none else some c.options.credentialWait) fun _ _ ha => ho.closing_eq p ha
    rw [ask_of_renewable hk hr, ask_of_renewable (hcache.trans hk) hr', hm, ho.credentialWait_eq,
      h.today]
    refine ⟨⟨?_, rfl⟩, List.rel_map (fun _ _ ha => .intro ha) ha⟩
    rw [Options.runsAlike_of_renewable hr]
    exact hw
  · have hentries := ho.entries_eq p hx
    rw [ask_of_fixed hf, ask_of_fixed hf', hentries]
    refine ⟨⟨h.world.note _, h.today⟩, ?_⟩
    induction callers with
    | zero => exact .nil
    | succ callers ih => exact .cons (.intro .none) ih

theorem Same.perform [Library] (h : t.Same c.options.RunsAlike t') (hc : c.Resembles c')
    (x : Operation) : (t.perform c x).Same c.options.RunsAlike (t'.perform c' x) := by
  cases x with
  | ask callers p => exact (h.ask hc callers p).1
  | advance millis => exact ⟨h.world.advance millis, h.today⟩
  | date today => exact ⟨h.world, rfl⟩

/-- Sessions in which a row of operations is carried out stay the same but for secrets. -/
theorem Same.performs [Library] (h : t.Same c.options.RunsAlike t') (hc : c.Resembles c')
    (xs : List Operation) :
    (xs.foldl (·.perform c ·) t).Same c.options.RunsAlike (xs.foldl (·.perform c' ·) t') := by
  induction xs generalizing t t' with
  | nil => exact h
  | cons x xs ih => exact ih (h.perform hc x)

/-- What is logged while a row of operations is carried out on the one connection of a session. -/
def serve [Library] (script : List ScriptedRun) (today : Instant) (o : Options)
    (xs : List Operation) : List LogEntry :=
  match (ofScript script today).connect o with
  | .error _ => []
  | .ok t =>
    match t.connections with
    | [] => []
    | c :: _ => (xs.foldl (·.perform c ·) t).world.log

theorem add_same {o o' : Options} {script script' : List ScriptedRun} (h : o.Resembles o')
    (hs : List.Forall₂ o.RunsAlike script script') (today : Instant) :
    ∃ c c' : Connection, c.options = o ∧ c'.options = o' ∧ c.Resembles c' ∧
      ((ofScript script today).add o).connections = [c] ∧
      ((ofScript script' today).add o').connections = [c'] ∧
      ((ofScript script today).add o).Same o.RunsAlike ((ofScript script' today).add o') := by
  have hworld : (World.ofScript script).Same o.RunsAlike (World.ofScript script') :=
    ⟨rfl, rfl, rfl, hs, rfl⟩
  have hfixed {o : Options} {x : Option Credential} (hf : o.strategy.fixedCredential? = some x)
      (script : List ScriptedRun) :
      (ofScript script today).add o = ⟨.ofScript script, [⟨o, none⟩], today⟩ := by
    rw [add]
    cases hst : o.strategy with
    | renewable r => rw [hst] at hf; cases hf
    | _ => rfl
  rcases h.strategy.renewable_or_fixed with ⟨r, r', hr, hr', -, -, hc⟩ | ⟨x, x', hf, hf', -⟩
  · refine ⟨⟨o, some 0⟩, ⟨o', some 0⟩, rfl, rfl, ⟨h, rfl, fun _ _ => ⟨0, rfl⟩⟩, ?_⟩
    rw [add, add, hr, hr']
    refine ⟨rfl, rfl, hworld.addCache ?_, rfl⟩
    rw [Cache.veil_ofInitial, Cache.veil_ofInitial, hc]
  · rw [hfixed hf, hfixed hf']
    refine ⟨⟨o, none⟩, ⟨o', none⟩, rfl, rfl, ⟨h, rfl, fun r hr => ?_⟩, rfl, rfl, hworld, rfl⟩
    rw [show o.strategy = .renewable r from hr] at hf
    cases hf

theorem serve_eq [Library] {o o' : Options} {script script' : List ScriptedRun}
    (h : o.Resembles o')
    (hs : List.Forall₂ o.RunsAlike script script') (today : Instant) (xs : List Operation) :
    serve script' today o' xs = serve script today o xs := by
  obtain ⟨c, c', rfl, rfl, hc, hopened, hopened', hsame⟩ := add_same h hs today
  rw [serve, serve, connect, connect, h.validate_eq]
  cases c.options.validate with
  | error e => rfl
  | ok _ =>
    simp only [Except.map, hopened, hopened']
    exact (hsame.performs hc xs).world.log

end Session

end Simulation

end ClusterAccess
