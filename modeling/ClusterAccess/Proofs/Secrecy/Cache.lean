import ClusterAccess.Proofs.Secrecy.Resemblance

namespace ClusterAccess

def Refresh.veil : Refresh → Refresh
  | running => .running
  | stored outcome => .stored outcome.veil
  | announced outcome => .announced outcome.veil
  | lost => .lost

def Standing.veil : Standing → Standing
  | answered outcome => .answered outcome.veil
  | standing => standing

def Caller.veil (caller : Caller) : Caller := { caller with standing := caller.standing.veil }

namespace Cache

def veil (c : Cache) : Cache where
  cached := c.cached.map Credential.veil
  inFlight := c.inFlight
  refreshes := c.refreshes.map Refresh.veil
  callers := c.callers.map Caller.veil

def Event.veil : Event → Event
  | store k outcome => .store k outcome.veil
  | e => e

variable {c : Cache}

theorem veil_ofInitial (initial : Option Credential) :
    (ofInitial initial).veil = ofInitial (initial.map Credential.veil) := rfl

theorem getElem?_refreshes_veil (c : Cache) (k : Nat) :
    c.veil.refreshes[k]? = (c.refreshes[k]?).map Refresh.veil := List.getElem?_map

theorem getElem?_callers_veil (c : Cache) (i : Nat) :
    c.veil.callers[i]? = (c.callers[i]?).map Caller.veil := List.getElem?_map

theorem veil_setCaller (c : Cache) (i : Nat) (caller : Caller) :
    (c.setCaller i caller).veil = c.veil.setCaller i caller.veil := by
  simp only [setCaller, veil, List.map_set]

theorem veil_setRefresh (c : Cache) (k : Nat) (r : Refresh) :
    (c.setRefresh k r).veil = c.veil.setRefresh k r.veil := by
  simp only [setRefresh, veil, List.map_set]

theorem veil_store (c : Cache) (k : Nat) (outcome : Outcome) :
    (c.store k outcome).veil = c.veil.store k outcome.veil := by
  cases outcome <;> simp only [store, setRefresh, veil, List.map_set] <;> rfl

theorem veil_start (c : Cache) (i : Nat) (caller : Caller) :
    (c.start i caller).veil = c.veil.start i caller.veil := by
  simp only [start, setCaller, veil, List.map_set, List.map_append, List.length_map]
  rfl

theorem fresh?_veil (c : Cache) (caller : Caller) :
    c.veil.fresh? caller.veil = (c.fresh? caller).map Credential.veil := by
  simp only [fresh?, veil]
  cases c.cached with
  | none => rfl
  | some v =>
    have hstale : v.veil.needsRefresh caller.veil.now caller.veil.margin =
      v.needsRefresh caller.now caller.margin := rfl
    simp only [Option.map_some, Option.filter_some, hstale]
    split <;> rfl

theorem live?_veil (c : Cache) : c.veil.live? = c.live? := by
  have hlive (r : Refresh) : r.veil.isLive = r.isLive := by cases r <;> rfl
  have hany (k : Nat) : (c.veil.refreshes[k]?).any Refresh.isLive =
      (c.refreshes[k]?).any Refresh.isLive := by
    rw [getElem?_refreshes_veil]
    cases c.refreshes[k]? with
    | none => rfl
    | some r => exact hlive r
  simp only [live?, hany]
  rfl

theorem veil_look (c : Cache) (i : Nat) (caller : Caller) :
    (c.look i caller).veil = c.veil.look i caller.veil := by
  rw [look, look, fresh?_veil, live?_veil]
  cases c.fresh? caller with
  | some v => exact veil_setCaller ..
  | none =>
    cases c.live? with
    | some k => exact veil_setCaller ..
    | none =>
      have hstarted : caller.veil.started = caller.started := rfl
      simp only [Option.map_none, hstarted]
      cases caller.started with
      | some k => exact veil_setCaller ..
      | none => exact veil_start ..

/-- The texts of secrets do not decide what can happen, nor what comes of it but such texts. -/
theorem step_veil (c : Cache) (e : Event) : c.veil.step e.veil = (c.step e).map veil := by
  cases e with
  | call now margin =>
    simp only [step, Event.veil, veil, Option.map_some, List.map_append]
    rfl
  | look i =>
    simp only [step, Event.veil, getElem?_callers_veil]
    cases c.callers[i]? with
    | none => rfl
    | some caller =>
      obtain ⟨now, margin, started, standing⟩ := caller
      cases standing with
      | ready => exact congrArg some (veil_look ..).symm
      | _ => rfl
  | store k outcome =>
    simp only [step, Event.veil, getElem?_refreshes_veil]
    cases c.refreshes[k]? with
    | none => rfl
    | some r =>
      cases r with
      | running => exact congrArg some (veil_store ..).symm
      | _ => rfl
  | announce k =>
    simp only [step, Event.veil, getElem?_refreshes_veil]
    cases c.refreshes[k]? with
    | none => rfl
    | some r =>
      cases r with
      | stored outcome => exact congrArg some (veil_setRefresh c k (.announced outcome)).symm
      | _ => rfl
  | lose k =>
    simp only [step, Event.veil, getElem?_refreshes_veil]
    cases c.refreshes[k]? with
    | none => rfl
    | some r =>
      cases r with
      | running => exact congrArg some (veil_setRefresh c k .lost).symm
      | _ => rfl
  | wake i =>
    simp only [step, Event.veil, getElem?_callers_veil, getElem?_refreshes_veil]
    cases c.callers[i]? with
    | none => rfl
    | some caller =>
      obtain ⟨now, margin, started, standing⟩ := caller
      cases standing with
      | waiting k =>
        simp only [Option.map_some, Caller.veil, Standing.veil]
        cases c.refreshes[k]? with
        | none => rfl
        | some r =>
          cases r with
          | announced outcome =>
            exact congrArg some (veil_setCaller c i ⟨now, margin, started, .answered outcome⟩).symm
          | lost => exact congrArg some (veil_setCaller c i ⟨now, margin, started, .ready⟩).symm
          | _ => rfl
      | _ => rfl
  | leave i =>
    simp only [step, Event.veil, getElem?_callers_veil]
    cases c.callers[i]? with
    | none => rfl
    | some caller =>
      obtain ⟨now, margin, started, standing⟩ := caller
      cases standing with
      | ready => exact congrArg some (veil_setCaller c i ⟨now, margin, started, .gone⟩).symm
      | waiting k => exact congrArg some (veil_setCaller c i ⟨now, margin, started, .gone⟩).symm
      | _ => rfl

theorem answer?_veil (c : Cache) (i : Nat) :
    c.veil.answer? i = (c.answer? i).map Outcome.veil := by
  rw [answer?, answer?, getElem?_callers_veil]
  cases c.callers[i]? with
  | none => rfl
  | some caller =>
    obtain ⟨now, margin, started, standing⟩ := caller
    cases standing <;> rfl

end Cache

end ClusterAccess
