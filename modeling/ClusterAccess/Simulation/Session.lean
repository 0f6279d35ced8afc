import ClusterAccess.Binder
import ClusterAccess.Simulation.World

namespace ClusterAccess.Simulation

open Time

variable [Library]

/-- Options in use, with the number of the cache that their credentials are kept in. -/
structure Connection where
  options : Options
  cache : Option Nat

/-- Connections in a world. `today` is the time that requests go by. -/
structure Session where
  world : World
  connections : List Connection
  today : Instant

inductive Purpose where
  | resolve (now : Instant)
  | current
  | apply (now : Instant)
  | request
  | handshake
  | authenticate (headers : Headers)

inductive Shown where
  | credential (c : Option Credential)
  | request (r : Request)
  | handshake (h : Handshake)

namespace Purpose

def now (today : Instant) : Purpose → Instant
  | resolve t => t
  | apply t => t
  | _ => today

def isPatient : Purpose → Bool
  | resolve _ | apply _ => true
  | _ => false

def entries (o : Options) (c : Option Credential) : Purpose → List LogEntry
  | request | authenticate _ => o.authenticationEntries c
  | handshake => o.handshakeEntries c
  | _ => []

def closing (o : Options) (p : Purpose) : Option Outcome → List LogEntry
  | none => [o.waitEntry]
  | some (.error _) => []
  | some (.ok c) => p.entries o (some c)

/-- What comes of a purpose, if `answer` is what the cache of renewable credentials answers. -/
def result (o : Options) (answer : Option Outcome) : Purpose → Except Error Shown
  | resolve _ | current => (o.currentCredential answer).map .credential
  | apply _ => (o.currentCredential answer).map fun c =>
      .request (c.elim .empty (Request.empty.present ·))
  | request => (o.attached answer Request.empty).map .request
  | handshake => (o.attached answer o.bareHandshake).map .handshake
  | authenticate headers => (o.attached answer (⟨headers, []⟩ : Request)).map .request

end Purpose

namespace Session

def ofScript (script : List ScriptedRun) (today : Instant) : Session :=
  ⟨.ofScript script, [], today⟩

def add (s : Session) (o : Options) : Session :=
  match o.strategy with
  | .renewable r =>
    { s with
      world := s.world.addCache (.ofInitial r.cached)
      connections := s.connections ++ [⟨o, some s.world.caches.length⟩] }
  | _ => { s with connections := s.connections ++ [⟨o, none⟩] }

def connect (s : Session) (o : Options) : Except Error Session := o.validate.map fun _ => s.add o

def options (s : Session) (c : Connection) : Options :=
  match c.cache, c.options.strategy with
  | some k, .renewable r =>
    { c.options with strategy := .renewable { r with cached := s.world.cached? k } }
  | _, _ => c.options

def ask (s : Session) (c : Connection) (callers : Nat) (p : Purpose) :
    Session × List (Except Error Shown) :=
  let o := c.options
  match c.cache, o.strategy with
  | some k, .renewable r =>
    let patience := if p.isPatient then none else some o.credentialWait
    let (w, answers) := s.world.ask k callers (p.now s.today) r.margin patience (.source r.source)
      (p.closing o)
    ({ s with world := w }, answers.map (p.result o ·))
  | _, strategy =>
    let credential := strategy.fixedCredential?.getD none
    let entries := (List.replicate callers (p.entries o credential)).flatten
    ({ s with world := s.world.note entries },
      List.replicate callers (p.result o none))

def clone (s : Session) (c : Connection) : Except Error Session := s.connect (s.options c)

def advance (s : Session) (millis : Nat) : Session := { s with world := s.world.advance millis }

end Session

end ClusterAccess.Simulation
