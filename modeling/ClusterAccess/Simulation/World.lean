import ClusterAccess.Cache
import ClusterAccess.CredentialSource

namespace ClusterAccess.Simulation

open Time

variable [Library]

/-- How long a run takes, and how it ends; without an end the refresh is lost. -/
structure ScriptedRun where
  delay : Nat
  outcome : Option CommandOutcome

/-- What a refresh does: it takes its time and has its outcome, or it asks a source. -/
inductive Work where
  | fixed (delay : Nat) (outcome : Option Outcome)
  | source (s : CredentialSource)

/-- A refresh that runs: when it ends, what it logs then, and its outcome, unless it is lost. -/
structure Pending where
  cache : Nat
  refresh : Nat
  due : Nat
  entries : List LogEntry
  outcome : Option Outcome

/-- The state of a simulation; the clock counts milliseconds. -/
structure World where
  clock : Nat
  caches : List Cache
  pending : List Pending
  script : List ScriptedRun
  runs : List Invocation
  begun : Nat
  log : List LogEntry

/-- `closing` is what is logged at the end, and `none` the end of patience. -/
structure Waiter where
  cache : Nat
  caller : Nat
  deadline : Option Nat
  work : Work
  closing : Option Outcome → List LogEntry

namespace World

def ofScript (script : List ScriptedRun) : World := ⟨0, [], [], script, [], 0, []⟩

def note (w : World) (entries : List LogEntry) : World := { w with log := w.log ++ entries }

def addCache (w : World) (c : Cache) : World := { w with caches := w.caches ++ [c] }

/-- An event of a cache; one that cannot happen changes nothing. -/
def happen (w : World) (cache : Nat) (e : Cache.Event) : World :=
  match (w.caches[cache]?).bind (·.step e) with
  | some c => { w with caches := w.caches.set cache c }
  | none => w

def takeRun (w : World) : ScriptedRun × World :=
  match w.script with
  | r :: rest => (r, { w with script := rest })
  | [] => (⟨0, some (.error (.failed "script exhausted"))⟩, w)

structure Job where
  world : World
  delay : Option Nat
  entries : List LogEntry

namespace Job

/-- Logs at once, or if the command runs already, at its end. -/
def log (e : LogEntry) : OptionT (StateM Job) Unit := modify fun j =>
  match j.delay with
  | none => { j with world := j.world.note [e] }
  | some _ => { j with entries := j.entries ++ [e] }

/-- Runs a command by the script. A refresh whose run is lost does not go on. -/
def run (i : Invocation) : OptionT (StateM Job) CommandOutcome := do
  let j ← get
  let (r, w) := { j.world with runs := j.world.runs ++ [i] }.takeRun
  set { j with world := w, delay := some r.delay }
  match r.outcome with
  | some o => return o
  | none => failure

end Job

def begin (w : World) (cache refresh : Nat) (work : Work) : World :=
  let w := { w with begun := w.begun + 1 }
  let (outcome, j) : Option Outcome × Job := match work with
    | .fixed delay outcome => (outcome, ⟨w, some delay, []⟩)
    | .source s =>
      let (outcome, j) := (s.fetch Job.run Job.log).run.run ⟨w.note [s.beginEntry], none, []⟩
      (outcome, { j with entries := j.entries ++ (outcome.map s.endEntry).toList })
  { j.world with
    pending := j.world.pending ++
      [⟨cache, refresh, j.world.clock + j.delay.getD 0, j.entries, outcome⟩] }

def started (w : World) (cache : Nat) : Nat :=
  ((w.caches[cache]?).map (·.refreshes.length)).getD 0

/-- A waiter looks at the cache, or is woken and looks again if its refresh was lost. -/
def turn (w : World) (x : Waiter) : World :=
  let w := w.happen x.cache (.wake x.caller)
  w.happen x.cache (.look x.caller)

def answer? (w : World) (x : Waiter) : Option Outcome :=
  (w.caches[x.cache]?).bind (·.answer? x.caller)

/-- The refreshes that were started begin their work when all had their turn. -/
def turns (w : World) : List Waiter → World × List Waiter × List (Nat × Nat × Work)
  | [] => (w, [], [])
  | x :: xs =>
    let before := w.started x.cache
    let w := w.turn x
    let new := if before < w.started x.cache then [(x.cache, before, x.work)] else []
    match w.answer? x with
    | some o =>
      let (w, waiting, works) := (w.note (x.closing (some o))).turns xs
      (w, waiting, new ++ works)
    | none =>
      let (w, waiting, works) := w.turns xs
      (w, x :: waiting, new ++ works)

def round (w : World) (xs : List Waiter) : World × List Waiter :=
  let (w, waiting, works) := w.turns xs
  (works.foldl (fun w (cache, refresh, work) => w.begin cache refresh work) w, waiting)

/-- The refresh that ends first, the one that was begun first among several. -/
def firstPending? : List Pending → Option Pending
  | [] => none
  | p :: ps =>
    match firstPending? ps with
    | some q => if q.due < p.due then some q else some p
    | none => some p

def firstDeadline? : List Waiter → Option (Waiter × Nat)
  | [] => none
  | x :: xs =>
    match x.deadline, firstDeadline? xs with
    | some d, some (y, e) => if e < d then some (y, e) else some (x, d)
    | some d, none => some (x, d)
    | none, r => r

def jump (w : World) (t : Nat) : World := { w with clock := max w.clock t }

/-- A refresh ends: its outcome is stored and announced, or it is lost. -/
def finish (w : World) (p : Pending) : World :=
  let w := { w with
    pending := w.pending.eraseP fun q => q.cache == p.cache && q.refresh == p.refresh }
  match p.outcome with
  | some o =>
    ((w.jump p.due).note p.entries |>.happen p.cache (.store p.refresh o)).happen p.cache
      (.announce p.refresh)
  | none => ((w.jump p.due).note p.entries).happen p.cache (.lose p.refresh)

def giveUp (w : World) (x : Waiter) (t : Nat) : World :=
  ((w.jump t).happen x.cache (.leave x.caller)).note (x.closing none)

/-- What happens until nobody waits any more; at one time patience ends before a refresh does. -/
def await : Nat → World → List Waiter → World
  | 0, w, _ => w
  | fuel + 1, w, xs =>
    if xs.isEmpty then w
    else
      match firstPending? w.pending, firstDeadline? xs with
      | none, none => w
      | some p, none => let (w, xs) := (w.finish p).round xs; await fuel w xs
      | none, some (x, d) => await fuel (w.giveUp x d) (xs.filter (·.caller != x.caller))
      | some p, some (x, d) =>
        if d ≤ p.due then await fuel (w.giveUp x d) (xs.filter (·.caller != x.caller))
        else let (w, xs) := (w.finish p).round xs; await fuel w xs

/-- Each event ends a refresh or the patience of a waiter, who starts one refresh at most. -/
def wait (w : World) (xs : List Waiter) : World :=
  let (w, xs) := w.round xs
  await (w.pending.length + 2 * xs.length + 1) w xs

def call (w : World) (cache : Nat) (now : Instant) (margin : Span) : World × Nat :=
  let number := ((w.caches[cache]?).map (·.callers.length)).getD 0
  (w.happen cache (.call now margin), number)

def calls (cache : Nat) (now : Instant) (margin : Span) : Nat → World → World × List Nat
  | 0, w => (w, [])
  | callers + 1, w =>
    let (w, number) := w.call cache now margin
    let (w, numbers) := calls cache now margin callers w
    (w, number :: numbers)

/-- So many callers call a cache at once and wait; `none` is the end of patience. -/
def ask (w : World) (cache callers : Nat) (now : Instant) (margin : Span) (patience : Option Nat)
    (work : Work) (closing : Option Outcome → List LogEntry) : World × List (Option Outcome) :=
  let (w, numbers) := calls cache now margin callers w
  let xs := numbers.map fun n => (⟨cache, n, patience.map (w.clock + ·), work, closing⟩ : Waiter)
  let w := w.wait xs
  (w, xs.map w.answer?)

def finishBefore (t : Nat) : Nat → World → World
  | 0, w => w
  | fuel + 1, w =>
    match firstPending? w.pending with
    | some p => if p.due < t then finishBefore t fuel (w.finish p) else w
    | none => w

def advance (w : World) (millis : Nat) : World :=
  let t := w.clock + millis
  (finishBefore t w.pending.length w).jump t

def cached? (w : World) (cache : Nat) : Option Credential := (w.caches[cache]?).bind (·.cached)

end World

end ClusterAccess.Simulation
