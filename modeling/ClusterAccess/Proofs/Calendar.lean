import ClusterAccess.Time.Calendar

namespace ClusterAccess.Time

def Date.next (d : Date) : Date :=
  if d.day < daysInMonth d.year d.month then ⟨d.year, d.month, d.day + 1⟩
  else if d.month < 12 then ⟨d.year, d.month + 1, 1⟩
  else ⟨d.year + 1, 1, 1⟩

/-- The days before the first of March of a year. -/
def daysBefore (year : Int) : Int := year * 365 + year / 4 - year / 100 + year / 400

/-- The year of a date where years begin with March. -/
def Date.marchYear (d : Date) : Int := if d.month ≤ 2 then d.year - 1 else d.year

def Date.marchMonth (d : Date) : Int := if d.month ≤ 2 then (d.month : Int) + 9 else d.month - 3

def Date.marchDay (d : Date) : Int := (153 * d.marchMonth + 2) / 5 + d.day - 1

variable {d : Date} {year n : Int} {month day : Nat}

theorem isLeapYear_iff : isLeapYear year = true ↔
    year % 4 = 0 ∧ (year % 100 ≠ 0 ∨ year % 400 = 0) := by
  simp [isLeapYear]

theorem Date.isValid_iff : d.isValid = true ↔ 1 ≤ d.month ∧ d.month ≤ 12 ∧ 1 ≤ d.day ∧
    d.day ≤ daysInMonth d.year d.month := by
  simp only [isValid, Bool.and_eq_true, decide_eq_true_iff, and_assoc]

theorem month_cases (year : Int) (h : 1 ≤ month) (h' : month ≤ 12) :
    (month = 2 ∧ daysInMonth year month = if isLeapYear year then 29 else 28) ∨
    ((month = 4 ∨ month = 6 ∨ month = 9 ∨ month = 11) ∧ daysInMonth year month = 30) ∨
    ((month = 1 ∨ month = 3 ∨ month = 5 ∨ month = 7 ∨ month = 8 ∨ month = 10 ∨ month = 12) ∧
      daysInMonth year month = 31) := by
  have hm : month = 1 ∨ month = 2 ∨ month = 3 ∨ month = 4 ∨ month = 5 ∨ month = 6 ∨ month = 7 ∨
    month = 8 ∨ month = 9 ∨ month = 10 ∨ month = 11 ∨ month = 12 := by omega
  rcases hm with rfl | rfl | rfl | rfl | rfl | rfl | rfl | rfl | rfl | rfl | rfl | rfl <;>
    simp [daysInMonth]

theorem one_le_daysInMonth (h : 1 ≤ month) (h' : month ≤ 12) : 1 ≤ daysInMonth year month := by
  rcases month_cases year h h' with ⟨-, hl⟩ | ⟨-, hl⟩ | ⟨-, hl⟩
  · rw [hl]
    split <;> decide
  · omega
  · omega

theorem daysBefore_succ (year : Int) : daysBefore (year + 1) =
    daysBefore year + if isLeapYear (year + 1) then 366 else 365 := by
  simp only [daysBefore, isLeapYear_iff]
  split <;> omega

theorem toDays_eq (d : Date) : d.toDays = daysBefore d.marchYear + d.marchDay - 719468 := by
  simp only [Date.toDays, daysBefore, Date.marchYear, Date.marchDay, Date.marchMonth]
  omega

theorem toDays_day_succ (year : Int) (month day : Nat) :
    Date.toDays ⟨year, month, day + 1⟩ = Date.toDays ⟨year, month, day⟩ + 1 := by
  simp only [toDays_eq, Date.marchYear, Date.marchDay, Date.marchMonth]
  omega

/-- The first of a month comes after the last of the month before it. -/
theorem toDays_month_succ (year : Int) (h : 1 ≤ month) (h' : month < 12) :
    Date.toDays ⟨year, month + 1, 1⟩ =
      Date.toDays ⟨year, month, daysInMonth year month⟩ + 1 := by
  simp only [toDays_eq, Date.marchYear, Date.marchDay, Date.marchMonth]
  rcases month_cases year h (Nat.le_of_lt h') with ⟨rfl, hl⟩ | ⟨hm, hl⟩ | ⟨hm, hl⟩ <;> rw [hl]
  · -- with the first of March begins another year of those counted by `daysBefore`
    have hsucc := daysBefore_succ (year - 1)
    rw [Int.sub_add_cancel] at hsucc
    by_cases hleap : isLeapYear year = true <;> simp [hsucc, hleap] <;> omega
  · rcases hm with rfl | rfl | rfl | rfl <;> simp <;> omega
  · rcases hm with rfl | rfl | rfl | rfl | rfl | rfl | rfl <;> simp <;> omega

theorem toDays_year_succ (year : Int) :
    Date.toDays ⟨year + 1, 1, 1⟩ = Date.toDays ⟨year, 12, 31⟩ + 1 := by
  simp [toDays_eq, Date.marchYear, Date.marchDay, Date.marchMonth]
  omega

theorem toDays_next (h : d.isValid = true) : d.next.toDays = d.toDays + 1 := by
  obtain ⟨year, month, day⟩ := d
  obtain ⟨hm, hm', hd, hd'⟩ := Date.isValid_iff.1 h
  rw [Date.next]
  by_cases hlast : day < daysInMonth year month
  · rw [if_pos hlast]
    exact toDays_day_succ year month day
  · obtain rfl : day = daysInMonth year month := Nat.le_antisymm hd' (Nat.not_lt.1 hlast)
    rw [if_neg hlast]
    by_cases hmonth : month < 12
    · rw [if_pos hmonth]
      exact toDays_month_succ year hm hmonth
    · obtain rfl : month = 12 := Nat.le_antisymm hm' (Nat.not_lt.1 hmonth)
      exact toDays_year_succ year

theorem isValid_next (h : d.isValid = true) : d.next.isValid = true := by
  have hone (k : Nat) : 1 ≤ k + 1 := Nat.succ_le_succ (Nat.zero_le k)
  obtain ⟨hm, hm', -, -⟩ := Date.isValid_iff.1 h
  rw [Date.isValid_iff, Date.next]
  split
  next hlast => exact ⟨hm, hm', hone _, hlast⟩
  next =>
    split
    next hmonth => exact ⟨hone _, hmonth, hone 0, one_le_daysInMonth (hone _) hmonth⟩
    next => exact ⟨hone 0, hone 11, hone 0, one_le_daysInMonth (hone 0) (hone 11)⟩

theorem toDays_epoch : Date.toDays ⟨1970, 1, 1⟩ = 0 := rfl

/-- After 400 years the calendar begins again. -/
theorem toDays_sub_cycles (year : Int) (month day k : Nat) :
    Date.toDays ⟨year - 400 * k, month, day⟩ = Date.toDays ⟨year, month, day⟩ - 146097 * k := by
  simp only [toDays_eq, daysBefore, Date.marchYear, Date.marchDay, Date.marchMonth]
  omega

/-- Each number is that of a date. -/
theorem exists_toDays (n : Int) : ∃ d : Date, d.isValid = true ∧ d.toDays = n := by
  -- far enough back there is a first of January, and from there on the dates come in a row
  have hfrom (k m : Nat) : ∃ d : Date, d.isValid = true ∧ d.toDays = m - 146097 * k := by
    induction m with
    | zero =>
      refine ⟨⟨1970 - 400 * k, 1, 1⟩, rfl, ?_⟩
      rw [toDays_sub_cycles, toDays_epoch]
      rfl
    | succ m ih =>
      obtain ⟨d, hd, hm⟩ := ih
      refine ⟨d.next, isValid_next hd, ?_⟩
      rw [toDays_next hd, hm]
      omega
  obtain ⟨d, hd, hn⟩ := hfrom n.natAbs (n + 146097 * n.natAbs).toNat
  exact ⟨d, hd, by omega⟩

/-- A year in a cycle of 400 years by its century, its four years and its place in them. -/
structure Cyclic (year c q r : Int) : Prop where
  year_eq : year = 400 * (year / 400) + 100 * c + 4 * q + r
  century : 0 ≤ c ∧ c ≤ 3
  four : 0 ≤ q ∧ q ≤ 24
  place : 0 ≤ r ∧ r ≤ 3

theorem exists_cyclic (year : Int) : ∃ c q r, Cyclic year c q r :=
  ⟨year % 400 / 100, year % 100 / 4, year % 4, by omega, by omega, by omega, by omega⟩

theorem Cyclic.isLeapYear_succ {c q r : Int} (h : Cyclic year c q r)
    (hl : isLeapYear (year + 1) = true) : r = 3 ∧ (q ≠ 24 ∨ c = 3) := by
  obtain ⟨hy, hc, hq, hr⟩ := h
  rw [isLeapYear_iff] at hl
  omega

theorem Cyclic.daysBefore_eq {c q r : Int} (h : Cyclic year c q r) :
    daysBefore year = 146097 * (year / 400) + (36524 * c + 1461 * q + 365 * r) := by
  obtain ⟨hy, hc, hq, hr⟩ := h
  have hcentury : year / 100 = 4 * (year / 400) + c := by omega
  have hfour : year / 4 = 100 * (year / 400) + 25 * c + q := by omega
  rw [daysBefore, hcentury, hfour]
  omega

/-- The year of a day in a cycle: what leap days have added is taken away first. -/
theorem Cyclic.yearOfCycle_eq {c q r day : Int} (h : Cyclic year c q r) (hd : 0 ≤ day)
    (hleap : day ≤ 364 ∨ (day = 365 ∧ r = 3 ∧ (q ≠ 24 ∨ c = 3)))
    (hn : n = 36524 * c + 1461 * q + 365 * r + day) :
    (n - n / 1460 + n / 36524 - n / 146096) / 365 = 100 * c + 4 * q + r := by
  obtain ⟨-, hc, hq, hr⟩ := h
  have hcentury : 1461 * q + 365 * r + day ≤ 36523 ∨
      (c = 3 ∧ 1461 * q + 365 * r + day = 36524) := by omega
  have hcenturies : n / 36524 - n / 146096 = c := by
    rcases hcentury with h | ⟨rfl, h⟩ <;> omega
  have hfours : n / 1460 = 25 * c + q + (24 * c + q + 365 * r + day) / 1460 := by omega
  have hcarry : ((24 * c + q + 365 * r + day) / 1460 = 0 ∧ day ≤ 364) ∨
      ((24 * c + q + 365 * r + day) / 1460 = 1 ∧ 1 ≤ day) := by
    rcases (by omega : r ≤ 2 ∨ r = 3) with h | h <;> omega
  omega

theorem Cyclic.sub_yearOfCycle {c q r day : Int} (h : Cyclic year c q r)
    (hn : n = 36524 * c + 1461 * q + 365 * r + day) :
    n - (365 * (100 * c + 4 * q + r) + (100 * c + 4 * q + r) / 4 - (100 * c + 4 * q + r) / 100) =
      day := by
  obtain ⟨-, hc, hq, hr⟩ := h
  have hcentury : (100 * c + 4 * q + r) / 100 = c := by omega
  have hfour : (100 * c + 4 * q + r) / 4 = 25 * c + q := by omega
  rw [hcentury, hfour]
  omega

theorem marchDay_cases (h : d.isValid = true) : 0 ≤ d.marchDay ∧
    (d.marchDay ≤ 364 ∨ (d.marchDay = 365 ∧ isLeapYear (d.marchYear + 1) = true)) := by
  obtain ⟨year, month, day⟩ := d
  obtain ⟨hm, hm', hd, hd'⟩ := Date.isValid_iff.1 h
  simp only [Date.marchDay, Date.marchMonth, Date.marchYear] at hm hm' hd hd' ⊢
  rcases month_cases year hm hm' with ⟨rfl, hl⟩ | ⟨hmonth, hl⟩ | ⟨hmonth, hl⟩ <;>
    rw [hl] at hd'
  · by_cases hleap : isLeapYear year = true <;> simp [hleap] at hd' ⊢ <;> omega
  · omega
  · omega

/-- The months from March on begin as they would if each five of them had 153 days. -/
theorem marchMonth_eq (h : d.isValid = true) : (5 * d.marchDay + 2) / 153 = d.marchMonth := by
  obtain ⟨year, month, day⟩ := d
  obtain ⟨hm, hm', hd, hd'⟩ := Date.isValid_iff.1 h
  simp only [Date.marchDay, Date.marchMonth] at hm hm' hd hd' ⊢
  rcases month_cases year hm hm' with ⟨rfl, hl⟩ | ⟨hmonth, hl⟩ | ⟨hmonth, hl⟩ <;>
    rw [hl] at hd'
  · split at hd' <;> simp <;> omega
  · rcases hmonth with rfl | rfl | rfl | rfl <;> simp <;> omega
  · rcases hmonth with rfl | rfl | rfl | rfl | rfl | rfl | rfl <;> simp <;> omega

theorem date_of_march (h : d.isValid = true) :
    (if d.marchMonth < 10 then
      Date.mk d.marchYear (d.marchMonth + 3).toNat
        (d.marchDay - (153 * d.marchMonth + 2) / 5 + 1).toNat
    else
      ⟨d.marchYear + 1, (d.marchMonth - 9).toNat,
        (d.marchDay - (153 * d.marchMonth + 2) / 5 + 1).toNat⟩) = d := by
  obtain ⟨year, month, day⟩ := d
  obtain ⟨hm, hm', -, -⟩ := Date.isValid_iff.1 h
  have hm : 1 ≤ month := hm
  have hm' : month ≤ 12 := hm'
  have hday : (153 * Date.marchMonth ⟨year, month, day⟩ + 2) / 5 + (day : Int) - 1 -
      (153 * Date.marchMonth ⟨year, month, day⟩ + 2) / 5 + 1 = day := by omega
  simp only [Date.marchDay, hday, Int.toNat_natCast]
  by_cases hfirst : month ≤ 2
  · have hmonth : Date.marchMonth ⟨year, month, day⟩ = month + 9 := if_pos hfirst
    have hyear : Date.marchYear ⟨year, month, day⟩ = year - 1 := if_pos hfirst
    rw [hmonth, hyear, if_neg (by omega), Int.sub_add_cancel, Int.add_sub_cancel,
      Int.toNat_natCast]
  · have hmonth : Date.marchMonth ⟨year, month, day⟩ = month - 3 := if_neg hfirst
    have hyear : Date.marchYear ⟨year, month, day⟩ = year := if_neg hfirst
    rw [hmonth, hyear, if_pos (by omega), Int.sub_add_cancel, Int.toNat_natCast]

theorem ofDays_toDays (h : d.isValid = true) : Date.ofDays d.toDays = d := by
  obtain ⟨c, q, r, hy⟩ := exists_cyclic d.marchYear
  obtain ⟨hday, hlast⟩ := marchDay_cases h
  obtain ⟨k, hk⟩ : ∃ k, k = 36524 * c + 1461 * q + 365 * r + d.marchDay := ⟨_, rfl⟩
  have hyear : (k - k / 1460 + k / 36524 - k / 146096) / 365 = 100 * c + 4 * q + r := by
    apply hy.yearOfCycle_eq hday ?_ hk
    exact hlast.imp_right fun ⟨hd, hl⟩ => ⟨hd, hy.isLeapYear_succ hl⟩
  have hsince := hy.sub_yearOfCycle hk
  have hn : d.toDays + 719468 = 146097 * (d.marchYear / 400) + k := by
    rw [toDays_eq, hy.daysBefore_eq]
    omega
  have hbounds : 0 ≤ k ∧ k < 146097 := by
    obtain ⟨-, hc, hq, hr⟩ := hy
    omega
  have hcycle : (146097 * (d.marchYear / 400) + k) / 146097 = d.marchYear / 400 := by omega
  have hrest : (146097 * (d.marchYear / 400) + k) % 146097 = k := by omega
  have hwhole : 100 * c + 4 * q + r + d.marchYear / 400 * 400 = d.marchYear := by
    have := hy.year_eq
    omega
  simp only [Date.ofDays, hn, hcycle, hrest, hyear, hsince, marchMonth_eq h, hwhole]
  exact date_of_march h

theorem toDays_ofDays (n : Int) : (Date.ofDays n).toDays = n := by
  obtain ⟨d, hd, rfl⟩ := exists_toDays n
  rw [ofDays_toDays hd]

theorem isValid_ofDays (n : Int) : (Date.ofDays n).isValid = true := by
  obtain ⟨d, hd, rfl⟩ := exists_toDays n
  rw [ofDays_toDays hd]
  exact hd

/-- The dates of the years that are written with four digits lie well within the supported range. -/
theorem toDays_range (h : d.isValid = true) (hy : 0 ≤ d.year) (hy' : d.year ≤ 9999) :
    firstDay < d.toDays ∧ d.toDays < lastDay := by
  obtain ⟨hday, hlast⟩ := marchDay_cases h
  have hfirst : firstDay = -96465292 := rfl
  have hend : lastDay = 95026236 := rfl
  have hyear : d.year - 1 ≤ d.marchYear ∧ d.marchYear ≤ d.year := by
    rw [Date.marchYear]
    split <;> omega
  rw [toDays_eq, daysBefore, hfirst, hend]
  omega

end ClusterAccess.Time
