import ClusterAccess.Certificate.Authority

namespace ClusterAccess

open Time

variable [Library]

/-- Why no chain leads to an authority, by the usual number of the fault. -/
inductive ChainFault where
  | issuerMissing
  | unreadableKey
  | badSignature
  | notYetValid
  | expired
  | malformedNotBefore
  | malformedNotAfter
  | selfSigned
  | selfSignedInChain
  | issuerMissingLocally
  | tooLong
  | pathTooLong
  | signingNotAllowed
  | unknownCritical
  | proxyNotAllowed
  | notAuthority
  deriving DecidableEq, Repr

def ChainFault.code : ChainFault → Nat
  | issuerMissing => 2
  | unreadableKey => 6
  | badSignature => 7
  | notYetValid => 9
  | expired => 10
  | malformedNotBefore => 13
  | malformedNotAfter => 14
  | selfSigned => 18
  | selfSignedInChain => 19
  | issuerMissingLocally => 20
  | tooLong => 22
  | pathTooLong => 25
  | signingNotAllowed => 32
  | unknownCritical => 34
  | proxyNotAllowed => 40
  | notAuthority => 79

namespace Certificate

def checkPeriod (c : Certificate) (now : Instant) : Except ChainFault Unit :=
  match c.notBefore?, c.notAfter? with
  | none, _ => .error .malformedNotBefore
  | some start, stop =>
    if now.before start then .error .notYetValid
    else
      match stop with
      | none => .error .malformedNotAfter
      | some stop => if stop.before now then .error .expired else .ok ()

def isValidAt (c : Certificate) (now : Instant) : Bool := (c.checkPeriod now).isOk

end Certificate

structure Chain where
  presented : List Certificate
  trusted : List Certificate
  deriving DecidableEq, Repr

namespace Chain

def all (c : Chain) : List Certificate := c.presented ++ c.trusted

def maxLength : Nat := 101

/-- The later of two certificates by the end of their periods; the first in doubt. -/
def later (a b : Certificate) : Certificate :=
  match a.notAfter?, b.notAfter? with
  | some s, some t => if s.before t then b else a
  | _, _ => a

/-- The first issuer that is valid now, or else the one whose period ends last. -/
def presentedIssuer? (now : Instant) (row others : List Certificate) (last : Certificate) :
    Option Certificate :=
  let mayRepeat := row.length == 1 && last.statement.subject.same last.statement.issuer
  let candidates := others.filter fun c => c.mayIssue last && (mayRepeat || !row.contains c)
  match candidates.find? (·.isValidAt now) with
  | some c => some c
  | none =>
    match candidates with
    | [] => none
    | c :: cs => some (cs.foldl later c)

inductive Step where
  | trusted (c : Chain)
  | untrusted (c : Chain)
  | further
  deriving DecidableEq, Repr

/-- A last certificate that has issued itself has to be the authority. -/
def toAuthority (authority : Certificate) (row : List Certificate) (last : Certificate) : Step :=
  if !authority.mayIssue last then .further
  else if last.isSelfSigned then
    if last == authority then .trusted ⟨row.dropLast, [authority]⟩ else .further
  else if authority.isSelfSigned then .trusted ⟨row, [authority]⟩
  else .untrusted ⟨row, [authority]⟩

def extend (now : Instant) (authority : Certificate) :
    Nat → List Certificate → List Certificate → Step
  | 0, row, _ => .untrusted ⟨row, []⟩
  | fuel + 1, row, others =>
    match row.getLast? with
    | none => .untrusted ⟨row, []⟩
    | some last =>
      match if row.length ≤ maxLength then toAuthority authority row last else .further with
      | .further =>
        let issuer :=
          if last.isSelfSigned || maxLength < row.length then none
          else presentedIssuer? now row others last
        match issuer with
        | none => .untrusted ⟨row, []⟩
        | some issuer => extend now authority fuel (row ++ [issuer]) (others.erase issuer)
      | step => step

def untrustedFault (c : Chain) : ChainFault :=
  if maxLength < c.all.length then .tooLong
  else if c.all.getLast?.any (·.isSelfSigned) then
    if c.all.length == 1 then .selfSigned else .selfSignedInChain
  else if c.trusted.isEmpty then .issuerMissingLocally
  else .issuerMissing

def build (now : Instant) (authority server : Certificate) (others : List Certificate) :
    Except ChainFault Chain :=
  match extend now authority (others.length + 1) [server] others with
  | .trusted c => .ok c
  | .untrusted c => .error c.untrustedFault
  | .further => .error .issuerMissingLocally

/-- `depth` counts the certificates below, and `below` those of them that limits count. -/
def checkClaims (depth below : Nat) : List Certificate → Except ChainFault Unit
  | [] => .ok ()
  | c :: above => do
    let isFirst := depth == 0
    match c.authority? with
    | none => if isFirst then .ok () else .error .notAuthority
    | some a =>
      if a.hasUnknownCritical then .error .unknownCritical
      else if a.isProxy then .error .proxyNotAllowed
      else
        let claim := a.claim c.isSelfSigned
        if !isFirst && (claim == .no || (!above.isEmpty && claim != .stated)) then
          .error .notAuthority
    let limit := c.authority?.bind fun a => a.constraints.bind (·.2)
    if 1 < depth && limit.any (· < below) then .error .pathTooLong
    let counts := !isFirst && !c.statement.subject.same c.statement.issuer
    checkClaims (depth + 1) (if counts then below + 1 else below) above

def checkSignature (issuer subject : Certificate) : Except ChainFault Unit :=
  if !issuer.authority?.all (·.maySign) then .error .signingNotAllowed
  else
    match issuer.publicKey? with
    | none => .error .unreadableKey
    | some key => if subject.isSignedBy key then .ok () else .error .badSignature

/-- Checks signatures and periods from the top of a chain down; the chain is given from the top. -/
def checkSigned (now : Instant) : Option Certificate → List Certificate → Except ChainFault Unit
  | _, [] => .ok ()
  | above, c :: rest => do
    match above with
    | none => .ok ()
    | some issuer => checkSignature issuer c
    c.checkPeriod now
    checkSigned now (some c) rest

/-- The certificates that a server presents have to lead to the only authority trusted. -/
def verify (now : Instant) (authority server : Certificate) (others : List Certificate) :
    Except ChainFault Unit := do
  let chain ← build now authority server others
  checkClaims 0 0 chain.all
  checkSigned now none chain.all.reverse

end Chain

end ClusterAccess
