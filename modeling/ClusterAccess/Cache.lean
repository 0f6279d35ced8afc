import ClusterAccess.Credential

namespace ClusterAccess

open Time

abbrev Outcome := Except Error Credential

/-- A refresh runs, has its outcome in the cache, has told its callers, or was lost. -/
inductive Refresh where
  | running
  | stored (outcome : Outcome)
  | announced (outcome : Outcome)
  | lost
  deriving Inhabited

namespace Refresh

def isLive : Refresh → Bool
  | running | stored _ => true
  | announced _ | lost => false

def outcome? : Refresh → Option Outcome
  | stored outcome | announced outcome => some outcome
  | running | lost => none

end Refresh

/-- Where a caller stands: about to look at the cache, waiting for a refresh, answered, or gone. -/
inductive Standing where
  | ready
  | waiting (refresh : Nat)
  | answered (outcome : Outcome)
  | gone

structure Caller where
  now : Instant
  margin : Span
  started : Option Nat
  standing : Standing

/-- A shared credential, with all refreshes and callers in the order in which they began. -/
structure Cache where
  cached : Option Credential
  inFlight : Option Nat
  refreshes : List Refresh
  callers : List Caller

namespace Cache

def ofInitial (initial : Option Credential) : Cache := ⟨initial, none, [], []⟩

def snapshot (c : Cache) : Cache := ofInitial c.cached

def lostError : Error :=
  .refreshFailed (.badAuthentication "credential refresh ended without a result")

def fresh? (c : Cache) (caller : Caller) : Option Credential :=
  c.cached.filter fun v => !v.needsRefresh caller.now caller.margin

/-- The refresh in flight, if it is live; callers wait for no other. -/
def live? (c : Cache) : Option Nat :=
  c.inFlight.filter fun k => (c.refreshes[k]?).any Refresh.isLive

inductive Event where
  | call (now : Instant) (margin : Span)
  | look (caller : Nat)
  | store (refresh : Nat) (outcome : Outcome)
  | announce (refresh : Nat)
  | lose (refresh : Nat)
  | wake (caller : Nat)
  | leave (caller : Nat)

def setCaller (c : Cache) (i : Nat) (caller : Caller) : Cache :=
  { c with callers := c.callers.set i caller }

def setRefresh (c : Cache) (k : Nat) (refresh : Refresh) : Cache :=
  { c with refreshes := c.refreshes.set k refresh }

def start (c : Cache) (i : Nat) (caller : Caller) : Cache :=
  let k := c.refreshes.length
  { c.setCaller i { caller with started := some k, standing := .waiting k } with
    inFlight := some k
    refreshes := c.refreshes ++ [.running] }

/-- A caller takes a fresh credential, waits for the live refresh, or starts one, but only once. -/
def look (c : Cache) (i : Nat) (caller : Caller) : Cache :=
  match c.fresh? caller with
  | some v => c.setCaller i { caller with standing := .answered (.ok v) }
  | none =>
    match c.live? with
    | some k => c.setCaller i { caller with standing := .waiting k }
    | none =>
      match caller.started with
      | some _ => c.setCaller i { caller with standing := .answered (.error lostError) }
      | none => c.start i caller

/-- A refresh ends: a credential is cached, an error is not, and no refresh is in flight. -/
def store (c : Cache) (k : Nat) (outcome : Outcome) : Cache :=
  { c.setRefresh k (.stored outcome) with
    cached := match outcome with
      | .ok v => some v
      | .error _ => c.cached
    inFlight := none }

/-- What an event makes of a cache; `none` if the event cannot happen. -/
def step (c : Cache) : Event → Option Cache
  | .call now margin => some { c with callers := c.callers ++ [⟨now, margin, none, .ready⟩] }
  | .look i =>
    match c.callers[i]? with
    | some caller =>
      match caller.standing with
      | .ready => some (c.look i caller)
      | _ => none
    | none => none
  | .store k outcome =>
    match c.refreshes[k]? with
    | some .running => some (c.store k outcome)
    | _ => none
  | .announce k =>
    match c.refreshes[k]? with
    | some (.stored outcome) => some (c.setRefresh k (.announced outcome))
    | _ => none
  | .lose k =>
    match c.refreshes[k]? with
    | some .running => some (c.setRefresh k .lost)
    | _ => none
  | .wake i =>
    match c.callers[i]? with
    | some caller =>
      match caller.standing with
      | .waiting k =>
        match c.refreshes[k]? with
        | some (.announced outcome) =>
          some (c.setCaller i { caller with standing := .answered outcome })
        | some .lost => some (c.setCaller i { caller with standing := .ready })
        | _ => none
      | _ => none
    | none => none
  | .leave i =>
    match c.callers[i]? with
    | some caller =>
      match caller.standing with
      | .answered _ | .gone => none
      | _ => some (c.setCaller i { caller with standing := .gone })
    | none => none

def run (c : Cache) (events : List Event) : Option Cache := events.foldlM step c

def answer? (c : Cache) (i : Nat) : Option Outcome :=
  (c.callers[i]?).bind fun caller =>
    match caller.standing with
    | .answered outcome => some outcome
    | _ => none

end Cache

end ClusterAccess
