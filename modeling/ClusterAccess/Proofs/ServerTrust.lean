import ClusterAccess.Binder

namespace ClusterAccess

/-- The numbers of results that mean that no path to a trusted root was found. -/
def ChainStatus.IsRootless (code : Int) : Prop :=
  code = 2 ∨ code = 18 ∨ code = 19 ∨ code = 20

open ChainStatus (IsRootless)

/-- A check that keeps a record of what it was asked. -/
def ChainCheck.recorded (check : ChainCheck) (ca : Certificate) (chain : List Certificate) :
    StateM (List (Certificate × List Certificate)) (Except Error Unit) := do
  modify (· ++ [(ca, chain)])
  return check ca chain

def TrustPolicy.asked (p : TrustPolicy) (status : ChainStatus) (chain : List Certificate) :
    List (Certificate × List Certificate) :=
  match p, status with
  | .authority ca, .unknownRoot => [(ca, chain)]
  | _, _ => []

/-- What options decide about a server whose chain was checked with a result. -/
def Options.decision (o : Options) (code : Int) (chain : List Certificate) (check : ChainCheck) :
    Except Error Unit :=
  o.trustPolicy.validate (.ofResult code) chain check

/-- The reasons for which options trust a server. -/
inductive Options.Trusts (o : Options) (code : Int) (chain : List Certificate)
    (check : ChainCheck) : Prop where
  | unchecked (hca : o.authority = none) (hi : o.allowInsecure = true)
  | verified (hc : code = 0)
  | rebuilt {ca : Certificate} (hca : o.authority = some ca) (hc : IsRootless code)
    (hv : check ca chain = .ok ())

/-- Once if an authority is configured and the only fault is an unknown root, and never else. -/
inductive Options.Asks (o : Options) (code : Int) (chain : List Certificate) :
    List (Certificate × List Certificate) → Prop where
  | once {ca : Certificate} (hca : o.authority = some ca) (hc : IsRootless code) :
    Asks o code chain [(ca, chain)]
  | never (h : o.authority = none ∨ ¬ IsRootless code) : Asks o code chain []

namespace ChainStatus

variable {code : Int}

theorem ne_zero_of_isRootless (h : IsRootless code) : code ≠ 0 := by
  rcases h with rfl | rfl | rfl | rfl <;> decide

theorem isRootless_iff_contains : IsRootless code ↔ rootless.contains code = true := by
  simp [IsRootless, rootless]

theorem ofResult_rootless (h : IsRootless code) : ofResult code = unknownRoot := by
  rw [ofResult, beq_eq_false_iff_ne.2 (ne_zero_of_isRootless h), if_neg Bool.false_ne_true,
    if_pos (isRootless_iff_contains.1 h)]

theorem ofResult_failed (hzero : code ≠ 0) (h : ¬ IsRootless code) :
    ofResult code = failed (resultText code) := by
  rw [isRootless_iff_contains] at h
  rw [ofResult, beq_eq_false_iff_ne.2 hzero, if_neg Bool.false_ne_true, if_neg h]

/-- What a result can stand for: a good chain, one without a trusted root, or another fault. -/
inductive Found (code : Int) : Prop where
  | good (hc : code = 0) (hs : ofResult code = trusted)
  | rootless (hc : IsRootless code) (hs : ofResult code = unknownRoot)
  | fault (hzero : code ≠ 0) (hc : ¬ IsRootless code) (hs : ofResult code = failed (resultText code))

theorem found (code : Int) : Found code := by
  by_cases hzero : code = 0
  · exact .good hzero (by rw [hzero]; rfl)
  · by_cases h : IsRootless code
    · exact .rootless h (ofResult_rootless h)
    · exact .fault hzero h (ofResult_failed hzero h)

end ChainStatus

theorem TrustPolicy.run_recorded (p : TrustPolicy) (status : ChainStatus)
    (chain : List Certificate) (check : ChainCheck)
    (record : List (Certificate × List Certificate)) :
    (p.validateBy status chain check.recorded).run record =
      (p.validate status chain check, record ++ p.asked status chain) := by
  have hnil : record = record ++ [] := (List.append_nil record).symm
  cases p with
  | platformRoots => cases status <;> exact congrArg _ hnil
  | authority ca =>
    cases status with
    | trusted => exact congrArg _ hnil
    | unknownRoot => rfl
    | failed reason => exact congrArg _ hnil
  | insecure => cases status <;> exact congrArg _ hnil

theorem TrustPolicy.consults_iff (p : TrustPolicy) (status : ChainStatus)
    (chain : List Certificate) :
    p.consults status = true ↔ p.asked status chain ≠ [] := by
  cases p <;> cases status <;> simp [consults, asked]

namespace Options

variable {o : Options} {code : Int} {chain : List Certificate} {check : ChainCheck}
  {ca : Certificate}

theorem trustPolicy_of_authority (hca : o.authority = some ca) :
    o.trustPolicy = .authority ca := by
  rw [trustPolicy, hca]
  rfl

theorem trustPolicy_of_insecure (hca : o.authority = none) (hi : o.allowInsecure = true) :
    o.trustPolicy = .insecure := by
  rw [trustPolicy, hca, hi]
  rfl

theorem trustPolicy_of_secure (hca : o.authority = none) (hi : o.allowInsecure = false) :
    o.trustPolicy = .platformRoots := by
  rw [trustPolicy, hca, hi]
  rfl

theorem platformRoots_iff :
    o.trustPolicy = .platformRoots ↔ o.authority = none ∧ o.allowInsecure = false := by
  cases hca : o.authority with
  | some ca => simp [trustPolicy_of_authority hca]
  | none =>
    cases hi : o.allowInsecure with
    | false => simp [trustPolicy_of_secure hca hi]
    | true => simp [trustPolicy_of_insecure hca hi]

theorem trusts_of_authority (hca : o.authority = some ca) :
    o.Trusts code chain check ↔ code = 0 ∨ (IsRootless code ∧ check ca chain = .ok ()) := by
  constructor
  · intro h
    cases h with
    | unchecked hn => cases hn.symm.trans hca
    | verified hc => exact .inl hc
    | rebuilt hca' hc hv =>
      cases hca'.symm.trans hca
      exact .inr ⟨hc, hv⟩
  · rintro (hc | ⟨hc, hv⟩)
    · exact .verified hc
    · exact .rebuilt hca hc hv

theorem trusts_of_secure (hca : o.authority = none) (hi : o.allowInsecure = false) :
    o.Trusts code chain check ↔ code = 0 := by
  constructor
  · intro h
    cases h with
    | unchecked _ hi' => cases hi'.symm.trans hi
    | verified hc => exact hc
    | rebuilt hca' => cases hca'.symm.trans hca
  · exact .verified

theorem decision_eq_ok_iff : o.decision code chain check = .ok () ↔ o.Trusts code chain check := by
  cases hca : o.authority with
  | some ca =>
    rw [decision, trustPolicy_of_authority hca, trusts_of_authority hca]
    cases ChainStatus.found code with
    | good hc hs =>
      rw [hs]
      simp [hc]
    | rootless hc hs => simp [hs, hc, ChainStatus.ne_zero_of_isRootless hc]
    | fault hzero hc hs => simp [hs, hc, hzero]
  | none =>
    cases hi : o.allowInsecure with
    | true =>
      rw [decision, trustPolicy_of_insecure hca hi]
      exact ⟨fun _ => .unchecked hca hi, fun _ => rfl⟩
    | false =>
      rw [decision, trustPolicy_of_secure hca hi, trusts_of_secure hca hi]
      cases ChainStatus.found code with
      | good hc hs =>
        rw [hs]
        simp [hc]
      | rootless hc hs => simp [hs, ChainStatus.ne_zero_of_isRootless hc]
      | fault hzero hc hs => simp [hs, hzero]

theorem asks_asked (o : Options) (code : Int) (chain : List Certificate) :
    o.Asks code chain (o.trustPolicy.asked (.ofResult code) chain) := by
  cases hca : o.authority with
  | some ca =>
    rw [trustPolicy_of_authority hca]
    cases ChainStatus.found code with
    | good hc hs =>
      rw [hs]
      exact .never (.inr fun h => ChainStatus.ne_zero_of_isRootless h hc)
    | rootless hc hs =>
      rw [hs]
      exact .once hca hc
    | fault _ hc hs =>
      rw [hs]
      exact .never (.inr hc)
  | none =>
    cases hi : o.allowInsecure with
    | true =>
      rw [trustPolicy_of_insecure hca hi]
      exact .never (.inl hca)
    | false =>
      rw [trustPolicy_of_secure hca hi]
      exact .never (.inl hca)

theorem consults_trustPolicy_iff : o.trustPolicy.consults (.ofResult code) = true ↔
    o.authority ≠ none ∧ IsRootless code := by
  have ha := o.asks_asked code []
  rw [o.trustPolicy.consults_iff (.ofResult code) []]
  generalize o.trustPolicy.asked (.ofResult code) [] = asked at ha ⊢
  cases ha with
  | once hca hc => simp [hca, hc]
  | never h =>
    rcases h with h | h
    · simp [h]
    · simp [h]

theorem serverValidator_eq_none_iff :
    o.serverValidator check = none ↔ o.trustPolicy = .platformRoots := by
  simp only [serverValidator, handshakeTrust, Option.map_eq_none_iff]
  cases o.trustPolicy <;> simp

theorem eq_of_serverValidator {v : ServerValidator} (h : o.serverValidator check = some v) :
    v = ⟨o.trustPolicy, check⟩ := by
  simp only [serverValidator, handshakeTrust] at h
  cases hp : o.trustPolicy <;> simp [hp] at h <;> exact h.symm

theorem handshake_serverValidator (o : Options) (credential : Option Credential)
    (check : ChainCheck) :
    (o.handshake credential).serverValidator check = o.serverValidator check := by
  rw [handshake, authenticate_handshake]
  rfl

structure TrustsSoundly (o : Options) (code : Int) (chain : List Certificate)
    (check : ChainCheck) : Prop where
  accepts : o.decision code chain check = .ok () ↔ o.Trusts code chain check
  asks : ∀ record, ∃ asked, o.Asks code chain asked ∧
    (o.trustPolicy.validateBy (.ofResult code) chain check.recorded).run record =
      (o.decision code chain check, record ++ asked)
  consults : o.trustPolicy.consults (.ofResult code) = true ↔ o.authority ≠ none ∧ IsRootless code
  overrides : o.authority ≠ none → ∀ insecure, { o with allowInsecure := insecure }.trustPolicy =
    o.trustPolicy
  rejects : o.authority ≠ none → code ≠ 0 → ¬ IsRootless code →
    o.decision code chain check = .error (.untrustedServer (ChainStatus.resultText code))
  platform : (o.serverValidator check = none ↔ o.trustPolicy = .platformRoots) ∧
    (o.trustPolicy = .platformRoots ↔ o.authority = none ∧ o.allowInsecure = false)
  validator : ∀ v, o.serverValidator check = some v →
    v.validate (.ofResult code) chain = o.decision code chain check ∧
      (v.accepts (.ofResult code) chain = true ↔ o.Trusts code chain check)
  handshake : ∀ credential,
    (o.handshake credential).serverValidator check = o.serverValidator check

/-- Whatever the finding about a chain, the chain and the check, trust is decided soundly. -/
theorem trust_sound (o : Options) (code : Int) (chain : List Certificate) (check : ChainCheck) :
    o.TrustsSoundly code chain check where
  accepts := decision_eq_ok_iff
  asks record := ⟨_, asks_asked o code chain, o.trustPolicy.run_recorded _ chain check record⟩
  consults := consults_trustPolicy_iff
  overrides hca insecure := by
    obtain ⟨ca, hca⟩ := Option.ne_none_iff_exists'.1 hca
    have hi : { o with allowInsecure := insecure }.trustPolicy = .authority ca :=
      trustPolicy_of_authority hca
    rw [hi, trustPolicy_of_authority hca]
  rejects hca hzero hc := by
    obtain ⟨ca, hca⟩ := Option.ne_none_iff_exists'.1 hca
    rw [decision, trustPolicy_of_authority hca, ChainStatus.ofResult_failed hzero hc,
      TrustPolicy.validate_authority_failed]
  platform := ⟨serverValidator_eq_none_iff, platformRoots_iff⟩
  validator v hv := by
    have hd : v.validate (.ofResult code) chain = o.decision code chain check := by
      rw [eq_of_serverValidator hv]
      rfl
    refine ⟨hd, ?_⟩
    rw [ServerValidator.accepts_iff, hd, decision_eq_ok_iff]
  handshake credential := handshake_serverValidator o credential check

end Options

end ClusterAccess
