import ClusterAccess.Credential
import ClusterAccess.Settings

namespace ClusterAccess

namespace Time

def Instant.nanos (t : Instant) : Int := t.unixSeconds * 1000000000 + t.nano

/-- An instant on a day of the supported range, perhaps in a leap second. -/
structure Instant.IsProper (t : Instant) : Prop where
  inRange : t.inRange = true
  second_lt : t.second < 86400
  nano_lt : t.nano < 2000000000

def Instant.IsLeap (t : Instant) : Prop := 1000000000 ≤ t.nano

def firstNanos : Int := firstDay * 86400 * 1000000000

/-- A leap second is left for an ordinary one, unless the margin ends inside it. -/
structure Instant.IsEarlier (t : Instant) (margin : Int) (u : Instant) : Prop where
  nanos_eq : u.nanos = t.nanos - margin
  second : (t.IsLeap ∧ margin < 1000000000 ∧ u.unixSeconds = t.unixSeconds) ∨
    ((t.IsLeap → 1000000000 ≤ margin) ∧ ¬ u.IsLeap)
  firstNanos_le : firstNanos ≤ u.nanos

def Instant.back (t : Instant) (margin : Int) : Instant :=
  let nano := t.nano - margin
  let second := t.second + nano / 1000000000
  ⟨t.day + second / 86400, (second % 86400).toNat, (nano % 1000000000).toNat⟩

namespace Instant

variable {t u v now : Instant} {m n : Int}

theorem before_eq_false_iff : u.before t = false ↔
    t.unixSeconds < u.unixSeconds ∨ (t.unixSeconds = u.unixSeconds ∧ t.nano ≤ u.nano) := by
  rw [before, Bool.or_eq_false_iff, decide_eq_false_iff_not, Bool.and_eq_false_iff,
    decide_eq_false_iff_not, beq_eq_false_iff_ne]
  omega

theorem before_trans (h : u.before t = false) (h' : v.before u = false) : v.before t = false := by
  rw [before_eq_false_iff] at h h' ⊢
  omega

/-- Outside leap seconds the order is that of the nanoseconds. -/
theorem before_eq_false_iff_nanos (ht : ¬ t.IsLeap) (hu : ¬ u.IsLeap) :
    u.before t = false ↔ t.nanos ≤ u.nanos := by
  rw [before_eq_false_iff, nanos, nanos]
  rw [IsLeap] at ht hu
  omega

theorem inRange_iff : t.inRange = true ↔ firstDay ≤ t.day ∧ t.day ≤ lastDay := by
  rw [inRange, Bool.and_eq_true, decide_eq_true_iff, decide_eq_true_iff]

theorem firstNanos_le (h : firstDay ≤ t.day) : firstNanos ≤ t.nanos := by
  rw [firstNanos, nanos, unixSeconds]
  omega

theorem IsProper.firstDay_le (h : t.IsProper) : firstDay ≤ t.day := (inRange_iff.1 h.inRange).1

theorem IsEarlier.before_eq_false (ht : t.IsProper) (hu : t.IsEarlier m u) (hv : t.IsEarlier n v)
    (h : m ≤ n) : u.before v = false := by
  have hlt := ht.nano_lt
  have hm := hu.nanos_eq
  have hn := hv.nanos_eq
  rw [nanos, nanos] at hm hn
  rw [before_eq_false_iff]
  rcases hu.second with ⟨ht, hu, hs⟩ | ⟨ht, hu⟩ <;>
    rcases hv.second with ⟨ht', hv, hs'⟩ | ⟨ht', hv⟩ <;>
    simp only [IsLeap] at * <;> omega

theorem nanos_back (t : Instant) (m : Int) : (t.back m).nanos = t.nanos - m := by
  simp only [back, nanos, unixSeconds]
  omega

theorem not_isLeap_back (t : Instant) (m : Int) : ¬ (t.back m).IsLeap := by
  simp only [back, IsLeap]
  omega

theorem IsProper.day_back_le (ht : t.IsProper) (hm : 0 ≤ m) (hl : t.IsLeap → 1000000000 ≤ m) :
    (t.back m).day ≤ t.day := by
  have hs := ht.second_lt
  have hn := ht.nano_lt
  simp only [back, IsLeap] at hl ⊢
  omega

theorem stays_or_leaves (t : Instant) (m : Int) :
    (t.IsLeap ∧ m < 1000000000) ∨ (t.IsLeap → 1000000000 ≤ m) := by
  by_cases hm : m < 1000000000
  · by_cases ht : t.IsLeap
    · exact .inl ⟨ht, hm⟩
    · exact .inr fun h => (ht h).elim
  · exact .inr fun _ => Int.not_lt.1 hm

theorem leaveLeap_eq_none {r : Int} (ht : t.IsLeap) (hr : r ≤ 0) : t.leaveLeap 0 r = none := by
  rw [IsLeap] at ht
  rw [leaveLeap, if_neg (by omega), if_neg (by simp; omega), if_neg (by omega)]

theorem exists_leaveLeap_eq_some {q r : Int} (hr : r ≤ 0) (hl : t.IsLeap → q < 0) :
    ∃ carried : Int,
      t.leaveLeap q r = some (t.second + carried, t.nano - carried * 1000000000) := by
  rw [leaveLeap]
  by_cases ht : t.IsLeap
  · have hq' := hl ht
    rw [IsLeap] at ht
    refine ⟨1, ?_⟩
    rw [if_neg (by omega), if_neg (by simp; omega), if_pos hq', Int.one_mul]
  · rw [IsLeap] at ht
    refine ⟨0, ?_⟩
    rw [if_pos (by omega), Int.zero_mul, Int.add_zero, Int.sub_zero]

section

variable {m : Span} (hm : 0 ≤ m.nanos)

include hm

theorem sub?_inside (ht : t.IsLeap) (hl : m.nanos < 1000000000) :
    t.sub? m = some ⟨t.day, t.second, (t.nano - m.nanos).toNat⟩ := by
  have hseconds : (-m.nanos).tdiv 1000000000 = 0 := by
    rw [Int.neg_tdiv, Int.tdiv_eq_ediv_of_nonneg hm]
    omega
  have hsubsecond : (-m.nanos).tmod 1000000000 = -m.nanos := by
    rw [Int.neg_tmod, Int.tmod_eq_emod_of_nonneg hm]
    omega
  have hstays : t.leaveLeap 0 (-m.nanos) = none := leaveLeap_eq_none ht (by omega)
  rw [sub?, add?, Span.seconds, Span.subsecond, hseconds, hsubsecond]
  simp only [hstays]
  rfl

theorem sub?_outside (hl : t.IsLeap → 1000000000 ≤ m.nanos) :
    t.sub? m = if (t.back m.nanos).inRange then some (t.back m.nanos) else none := by
  have hseconds : (-m.nanos).tdiv 1000000000 = -(m.nanos / 1000000000) := by
    rw [Int.neg_tdiv, Int.tdiv_eq_ediv_of_nonneg hm]
  have hsubsecond : (-m.nanos).tmod 1000000000 = -(m.nanos % 1000000000) := by
    rw [Int.neg_tmod, Int.tmod_eq_emod_of_nonneg hm]
  obtain ⟨carried, hleaves⟩ : ∃ carried : Int,
      t.leaveLeap (-(m.nanos / 1000000000)) (-(m.nanos % 1000000000)) =
        some (t.second + carried, t.nano - carried * 1000000000) := by
    apply exists_leaveLeap_eq_some
    · omega
    · intro ht
      have := hl ht
      omega
  have hsecond : t.second + carried + -(m.nanos / 1000000000) +
      (t.nano - carried * 1000000000 + -(m.nanos % 1000000000)) / 1000000000 =
        t.second + (t.nano - m.nanos) / 1000000000 := by
    omega
  have hnano : (t.nano - carried * 1000000000 + -(m.nanos % 1000000000)) % 1000000000 =
      (t.nano - m.nanos) % 1000000000 := by
    omega
  rw [sub?, add?, Span.seconds, Span.subsecond, hseconds, hsubsecond]
  simp only [hleaves, hsecond, hnano]
  rfl

/-- What a margin leaves of an instant is by that margin earlier. -/
theorem IsProper.isEarlier (ht : t.IsProper) (h : t.sub? m = some u) : t.IsEarlier m.nanos u := by
  rcases stays_or_leaves t m.nanos with ⟨hl, hlt⟩ | hl
  case inl =>
    rw [sub?_inside hm hl hlt] at h
    obtain rfl := Option.some.inj h
    constructor
    case nanos_eq =>
      rw [IsLeap] at hl
      simp only [nanos, unixSeconds]
      omega
    case second => exact .inl ⟨hl, hlt, rfl⟩
    case firstNanos_le => exact firstNanos_le ht.firstDay_le
  case inr =>
    rw [sub?_outside hm hl] at h
    obtain ⟨hr, h⟩ := Option.ite_none_right_eq_some.1 h
    obtain rfl := Option.some.inj h
    constructor
    case nanos_eq => exact nanos_back t m.nanos
    case second => exact .inr ⟨hl, not_isLeap_back t m.nanos⟩
    case firstNanos_le => exact firstNanos_le (inRange_iff.1 hr).1

theorem IsProper.lt_firstNanos (ht : t.IsProper) (h : t.sub? m = none) :
    t.nanos - m.nanos < firstNanos := by
  rcases stays_or_leaves t m.nanos with ⟨hl, hlt⟩ | hl
  case inl =>
    rw [sub?_inside hm hl hlt] at h
    cases h
  case inr =>
    rw [sub?_outside hm hl, ite_eq_right_iff] at h
    have hday := ht.day_back_le hm hl
    have hlast := (inRange_iff.1 ht.inRange).2
    have hbefore : (t.back m.nanos).day < firstDay := by
      apply Int.not_le.1
      intro hfirst
      have hsome := h (inRange_iff.2 ⟨hfirst, Int.le_trans hday hlast⟩)
      cases hsome
    have hsecond : (t.back m.nanos).second < 86400 := by
      simp only [back]
      omega
    have hnano := not_isLeap_back t m.nanos
    rw [IsLeap] at hnano
    rw [← nanos_back, nanos, unixSeconds, firstNanos]
    omega

end

end Instant

end Time

namespace Settings

variable {s : Settings}

theorem ofSeconds?_eq {n : Nat} (h : n ≤ maxRefreshMargin) :
    Time.Span.ofSeconds? n = some (.ofSeconds n) := by
  rw [maxRefreshMargin] at h
  have hmax : (Time.Span.maxSeconds : Int) = 9223372036854775 := rfl
  rw [Time.Span.ofSeconds?, hmax, if_pos]
  rw [Bool.and_eq_true, decide_eq_true_iff, decide_eq_true_iff]
  omega

theorem signed?_eq {n : Nat} (h : n ≤ maxRefreshMargin) : signed? n = some (n : Int) := by
  rw [maxRefreshMargin] at h
  have hmax : Nat.pow 2 63 = 9223372036854775808 := rfl
  rw [signed?, if_pos (by omega)]

theorem filter_signed?_eq_none {n : Nat} (h : maxRefreshMargin < n) :
    ((signed? n).filter fun k => k.toNat ≤ maxRefreshMargin) = none := by
  rw [signed?]
  split
  · rw [Option.filter_some, if_neg]
    rw [decide_eq_true_iff, Int.toNat_natCast]
    omega
  · rfl

theorem margin_of_le (h : s.refreshMargin ≤ maxRefreshMargin) :
    s.margin = .ok (.ofSeconds s.refreshMargin) := by
  have hfilter : ((signed? s.refreshMargin).filter fun n => n.toNat ≤ maxRefreshMargin) =
      some (s.refreshMargin : Int) := by
    rw [signed?_eq h, Option.filter_some, if_pos]
    rw [decide_eq_true_iff, Int.toNat_natCast]
    exact h
  rw [margin, hfilter, Option.bind_some, ofSeconds?_eq h]

theorem margin_of_lt (h : maxRefreshMargin < s.refreshMargin) :
    ∃ e, s.margin = .error e := by
  rw [margin, filter_signed?_eq_none h, Option.bind_none]
  exact ⟨_, rfl⟩

theorem refreshMargin_le (h : s.validate = .ok ()) : s.refreshMargin ≤ maxRefreshMargin := by
  apply Nat.not_lt.1
  intro hlt
  rw [validate, if_pos hlt] at h
  split at h
  · cases h
  · split at h <;> cases h

end Settings

namespace Credential

variable {c : Credential} {t now now' : Time.Instant} {m m' : Time.Span}

open Time

theorem needsRefresh_of_never (h : c.expiresAt = none) (now : Instant) (margin : Span) :
    c.needsRefresh now margin = false := by
  rw [needsRefresh, h]

theorem needsRefresh_of_expiry (h : c.expiresAt = some t) : c.needsRefresh now m = true ↔
    t.sub? m = none ∨ ∃ u, t.sub? m = some u ∧ now.before u = false := by
  simp only [needsRefresh, h]
  cases t.sub? m with
  | none => simp
  | some u => simp

/-- Outside leap seconds a credential needs renewal from its expiry less the margin on. -/
theorem needsRefresh_iff_nanos (h : c.expiresAt = some t) (ht : t.IsProper) (hl : ¬ t.IsLeap)
    (hn : now.IsProper) (hl' : ¬ now.IsLeap) (hm : 0 ≤ m.nanos) :
    c.needsRefresh now m = true ↔ t.nanos ≤ now.nanos + m.nanos := by
  rw [needsRefresh_of_expiry h]
  cases hu : t.sub? m with
  | none =>
    -- The moment lies before the calendar, and so before every instant of it.
    have hlt := ht.lt_firstNanos hm hu
    have hle := Instant.firstNanos_le hn.firstDay_le
    simp only [true_or, true_iff]
    omega
  | some u =>
    have he := ht.isEarlier hm hu
    have hlu : ¬ u.IsLeap := by
      rcases he.second with ⟨hl', -, -⟩ | ⟨-, hlu⟩
      · exact (hl hl').elim
      · exact hlu
    have hnanos := he.nanos_eq
    simp only [reduceCtorEq, false_or, Option.some.injEq, exists_eq_left',
      Instant.before_eq_false_iff_nanos hlu hl']
    omega

/-- What needs renewal needs it at every later moment, and by every larger margin. -/
theorem needsRefresh_mono (ht : ∀ t, c.expiresAt = some t → t.IsProper) (hm : 0 ≤ m.nanos)
    (hmm : m.nanos ≤ m'.nanos) (hn : now'.before now = false) (h : c.needsRefresh now m = true) :
    c.needsRefresh now' m' = true := by
  cases hc : c.expiresAt with
  | none =>
    rw [needsRefresh_of_never hc] at h
    cases h
  | some t =>
    have ht := ht t hc
    rw [needsRefresh_of_expiry hc] at h ⊢
    have hm' : 0 ≤ m'.nanos := Int.le_trans hm hmm
    cases hv : t.sub? m' with
    | none => exact .inl rfl
    | some v =>
      right
      have hev := ht.isEarlier hm' hv
      refine ⟨v, rfl, ?_⟩
      rcases h with h | ⟨u, hu, hbefore⟩
      · -- A shorter margin cannot reach beyond the calendar when a longer one does not.
        have hlt := ht.lt_firstNanos hm h
        have hle := hev.firstNanos_le
        have hnanos := hev.nanos_eq
        omega
      · have heu := ht.isEarlier hm hu
        have huv := heu.before_eq_false ht hev hmm
        exact Instant.before_trans huv (Instant.before_trans hbefore hn)

end Credential

/-- When a credential is renewed under given settings. -/
structure RefreshTiming (s : Settings) (c : Credential) : Prop where
  told : (∃ m, s.margin = .ok m) ↔ s.refreshMargin ≤ 24 * 60 * 60
  valid : s.validate = .ok () → ∃ m, s.margin = .ok m
  seconds : ∀ m, s.margin = .ok m → m.nanos = s.refreshMargin * 1000000000
  never : c.expiresAt = none → ∀ now m, c.needsRefresh now m = false
  exact : ∀ t now : Time.Instant, ∀ m : Time.Span, c.expiresAt = some t → t.IsProper →
    ¬ t.IsLeap → now.IsProper → ¬ now.IsLeap → 0 ≤ m.nanos →
      (c.needsRefresh now m = true ↔ t.nanos ≤ now.nanos + m.nanos)
  stays : (∀ t, c.expiresAt = some t → t.IsProper) → ∀ now now' : Time.Instant, ∀ m m' : Time.Span,
    0 ≤ m.nanos → m.nanos ≤ m'.nanos → now'.before now = false →
      c.needsRefresh now m = true → c.needsRefresh now' m' = true

theorem refreshTiming (s : Settings) (c : Credential) : RefreshTiming s c := by
  constructor
  case told =>
    constructor
    · intro ⟨m, hm⟩
      apply Nat.not_lt.1
      intro hlt
      obtain ⟨e, he⟩ := Settings.margin_of_lt hlt
      rw [hm] at he
      cases he
    · intro h
      exact ⟨_, Settings.margin_of_le h⟩
  case valid =>
    intro h
    exact ⟨_, Settings.margin_of_le (Settings.refreshMargin_le h)⟩
  case seconds =>
    intro m hm
    by_cases h : s.refreshMargin ≤ Settings.maxRefreshMargin
    · rw [Settings.margin_of_le h] at hm
      rw [← Except.ok.inj hm, Time.Span.ofSeconds]
    · obtain ⟨e, he⟩ := Settings.margin_of_lt (Nat.not_le.1 h)
      rw [hm] at he
      cases he
  case never =>
    intro h
    exact c.needsRefresh_of_never h
  case exact =>
    intro t now m h ht hl hn hl' hm
    exact Credential.needsRefresh_iff_nanos h ht hl hn hl' hm
  case stays =>
    intro ht now now' m m' hm hmm hn h
    exact Credential.needsRefresh_mono ht hm hmm hn h

/-- A leap second is over when the next second begins, whatever its nanoseconds count up to. -/
example : (Credential.bearer "t" (some ⟨0, 59, 1300000000⟩)).needsRefresh ⟨0, 60, 100000000⟩ ⟨0⟩ =
    true ∧ Time.Instant.nanos ⟨0, 60, 100000000⟩ < Time.Instant.nanos ⟨0, 59, 1300000000⟩ := by
  decide

end ClusterAccess
